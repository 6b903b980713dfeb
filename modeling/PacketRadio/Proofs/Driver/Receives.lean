import PacketRadio.Proofs.Adapter.Pauses
import PacketRadio.Proofs.Driver.Refusals
import PacketRadio.Proofs.Driver.Voices

/-!
# Every receive is accounted for

A list that was received is shown to the host once and then belongs to it until the host returns it.
The adapter keeps the books: its table holds what the host has been shown and not returned. So the
receives of an adapter are told by two counts, of what the host was shown and of what the adapter
took back; and of the same list, the host never has two.
-/

namespace PacketRadio

open Pool

/-- How often the host was shown `x` by the adapter `h`. -/
def indications (h : Handle) (x : BufferList) (events : List Event) : Nat :=
  (hostCalls events).count (.indicateReceive h x)

/-- How often an adapter takes `x` back when `lists` come back, one after the other. -/
def Adapter.accepts (x : BufferList) : List BufferList → Adapter → Nat
  | [], _ => 0
  | list :: lists, a =>
    (if list = x ∧ (a.takeBack list).answer.isOk = true then 1 else 0) +
      accepts x lists (a.takeBack list).state

/-- How often an adapter takes `x` back while it serves the request. -/
def Request.returned (x : BufferList) (a : Adapter) : Request → Nat
  | .takeBack _ _ lists _ => a.accepts x lists
  | _ => 0

namespace Driver

/-- How often the adapter `h` takes `x` back while the request is served. -/
def accepts (d : Driver) (h : Handle) (x : BufferList) (request : Request) : Nat :=
  match d.slots.adapter? h with
  | some a => if request.addressee? = some h then request.returned x a else 0
  | none => 0

/-- How often the adapter `h` takes `x` back while the requests are served. -/
def returns (h : Handle) (x : BufferList) : Driver → List (HostAnswers × Request) → Nat
  | _, [] => 0
  | d, (answers, request) :: requests =>
    d.accepts h x request + returns h x (d.serve answers request).state requests

end Driver

section Counting

variable (h : Handle) (x : BufferList)

@[simp] theorem indications_append (events more : List Event) :
    indications h x (events ++ more) = indications h x events + indications h x more := by
  simp [indications]

/-- The host is shown a list only if one was received. -/
theorem indications_of_unheard {events : List Event}
    (unheard : .indicateReceive h x ∉ hostCalls events) : indications h x events = 0 :=
  List.count_eq_zero.2 unheard

end Counting

/-- Of all requests, only one lets the host hear of a received list. -/
theorem Request.Voices.indicate {request : Request} {h : Handle} {x : BufferList}
    (voices : request.Voices (.indicateReceive h x)) : request = .indicate h x := by
  cases voices
  rfl

/-! ## The table of an adapter -/

namespace Adapter

theorem sendAll_receives (handle : Handle) (lists : List BufferList) (a : Adapter) :
    (sendAll handle lists a).state.receives = a.receives := by
  induction lists generalizing a with
  | nil => rfl
  | cons list lists ih =>
    refine (ih (a.send list).state).trans ?_
    rcases a.send_cases list with ⟨sends, -, -, same⟩ | ⟨status, same⟩
    · rw [same]
      rfl
    · rw [same]
      rfl

/-- A list that comes back leaves the table if it was held. -/
theorem takeBack_balance (x list : BufferList) (a : Adapter) :
    a.receives.held.count x =
      (if list = x ∧ (a.takeBack list).answer.isOk = true then 1 else 0) +
        (a.takeBack list).state.receives.held.count x := by
  cases gone : a.receives.remove? list with
  | none =>
    rw [takeBack_of_absent gone]
    simp [Except.isOk, Except.toBool]
  | some receives =>
    have held := (InFlight.remove?_held gone).1.count_eq x
    rw [takeBack_of_held gone, Outcome.map_state, (settlePause_onlyMoves _).receives, held,
      List.count_cons, Nat.add_comm]
    simp [Except.isOk, Except.toBool]

/-- **What comes back in a batch was held before**, and is not held after. -/
theorem takeBackAll_balance (x : BufferList) (handle : Handle) (lists : List BufferList)
    (a : Adapter) :
    a.receives.held.count x =
      a.accepts x lists + (takeBackAll handle lists a).state.receives.held.count x := by
  induction lists generalizing a with
  | nil => exact (Nat.zero_add _).symm
  | cons list lists ih =>
    have first := a.takeBack_balance x list
    have rest := ih (a.takeBack list).state
    rw [accepts, takeBackAll_cons_state]
    omega

theorem takeBackAll_append_state (handle : Handle) (lists more : List BufferList) (a : Adapter) :
    (takeBackAll handle (lists ++ more) a).state =
      (takeBackAll handle more (takeBackAll handle lists a).state).state := by
  induction lists generalizing a with
  | nil => rfl
  | cons list lists ih => exact ih _

theorem takeBackAll_append_calls (handle : Handle) (lists more : List BufferList) (a : Adapter) :
    hostCalls (takeBackAll handle (lists ++ more) a).events =
      hostCalls (takeBackAll handle lists a).events ++
        hostCalls (takeBackAll handle more (takeBackAll handle lists a).state).events := by
  induction lists generalizing a with
  | nil => rfl
  | cons list lists ih =>
    rw [List.cons_append, takeBackAll_cons_calls, takeBackAll_cons_calls, ih, List.append_assoc]
    rfl

/-- A list that is not held comes back in vain, and the rest of the batch goes on without it. -/
theorem takeBackAll_of_unheld {a : Adapter} {x : BufferList} (unheld : x ∉ a.receives.held)
    (handle : Handle) (lists : List BufferList) :
    (takeBackAll handle (x :: lists) a).state = (takeBackAll handle lists a).state ∧
      hostCalls (takeBackAll handle (x :: lists) a).events =
        hostCalls (takeBackAll handle lists a).events := by
  rw [takeBackAll_cons_state, takeBackAll_cons_calls,
    takeBack_of_absent (InFlight.remove?_eq_none.2 unheld)]
  exact ⟨rfl, rfl⟩

/-- What comes of a list that was received: it is noted while the adapter runs, holds fewer than
sixteen lists and does not hold this one. -/
theorem Sound.receive_spec {a : Adapter} (sound : a.Sound) (x : BufferList) :
    (a.lifecycle ≠ .running ∧ a.receive x = .quiet (.error .paused) a) ∨
      (a.lifecycle = .running ∧ (x ∈ a.receives.held ∨ a.receives.held.length = maxInFlight) ∧
        a.receive x = .quiet (.error .resources) a) ∨
      (a.lifecycle = .running ∧ x ∉ a.receives.held ∧ a.receives.held.length < maxInFlight ∧
        ∃ receives, receives.held.Perm (x :: a.receives.held) ∧
          a.receive x = .quiet (.ok ()) { a with receives := receives }) := by
  unfold receive
  by_cases running : a.lifecycle = .running
  · rw [running]
    refine .inr ?_
    rw [if_neg (show ¬ (!Lifecycle.acceptsTraffic .running) = true by decide)]
    cases taken : a.receives.insert? x with
    | none => exact .inl ⟨rfl, sound.receives.insert?_eq_none.1 taken, rfl⟩
    | some receives =>
      have room : ¬ (x ∈ a.receives.held ∨ a.receives.held.length = maxInFlight) := by
        intro refused
        cases taken.symm.trans (sound.receives.insert?_eq_none.2 refused)
      obtain ⟨absent, few⟩ := not_or.1 room
      exact .inr ⟨rfl, absent, Nat.lt_of_le_of_ne a.receives.length_held_le few, receives,
        (InFlight.insert?_held taken).2.1, rfl⟩
  · refine .inl ⟨running, if_pos ?_⟩
    simpa [Lifecycle.acceptsTraffic] using running

end Adapter

/-! ## One request -/

namespace Driver

/-- **The work of an adapter balances**: what the host is shown is held, and what comes back is not
held any more. -/
theorem work_receives {request : Request} {v : Visit} (errand : request.errand = .visit v)
    (x : BufferList) (a : Adapter) :
    indications v.adapter x (v.work a).events + a.receives.held.count x =
      request.returned x a + (v.work a).state.receives.held.count x := by
  -- Work that neither shows lists nor takes them back leaves the table alone.
  have apart : request ≠ .indicate v.adapter x → request.returned x a = 0 →
      (v.work a).state.receives = a.receives →
      indications v.adapter x (v.work a).events + a.receives.held.count x =
        request.returned x a + (v.work a).state.receives.held.count x := by
    intro other none same
    rw [indications_of_unheard _ _ fun heard => other (work_voices errand a heard).indicate, none,
      same]
  cases Request.visits_of_errand errand with
  | pause handle => exact apart nofun rfl a.pause_onlyMoves.receives
  | restart handle flags => exact apart nofun rfl (a.restart_onlyMoves flags).receives
  | accessAttribute handle request =>
    obtain ⟨⟨filter, vlan, multicast, same⟩, -⟩ := a.serve_onlySets request
    refine apart nofun rfl ?_
    change (a.serve request).state.receives = a.receives
    rw [same]
  | send level handle lists flags => exact apart nofun rfl (a.sendAll_receives handle lists)
  | takeBack level handle lists flags =>
    rw [indications_of_unheard _ _ fun heard =>
      nomatch (work_voices (show Request.errand (.takeBack level handle lists flags) = _ from rfl) a
        heard).indicate]
    exact (Nat.zero_add _).trans (a.takeBackAll_balance x handle lists)
  | completeSend handle list status =>
    refine apart nofun rfl ?_
    cases gone : a.sends.remove? list with
    | none =>
      rw [Visit.completeSend_of_absent gone]
      rfl
    | some sends =>
      rw [Visit.completeSend_of_held gone]
      exact (Adapter.settlePause_onlyMoves _).receives
  | indicate handle list =>
    rcases Visit.indicate_cases a handle list with ⟨receives, taken, -, same⟩ | ⟨status, same⟩
    · have held := (InFlight.insert?_held taken).2.1.count_eq x
      rw [same, held, List.count_cons]
      simp only [indications, hostCalls_call, hostCalls_nil, List.count_singleton, Request.returned,
        Visit.indicate, beq_iff_eq, HostCall.indicateReceive.injEq, true_and]
      omega
    · rw [same]
      rfl

/-- **Every request balances**, for every adapter that is there and not to be halted. -/
theorem serve_receives {d : Driver} (coherent : d.slots.Coherent) {h : Handle} {a : Adapter}
    (named : d.slots.adapter? h = some a) (answers : HostAnswers) {request : Request}
    (kept : request.halts? ≠ some h) :
    ∃ b, (d.serve answers request).state.slots.adapter? h = some b ∧
      ∀ x, indications h x (d.serve answers request).events + a.receives.held.count x =
        d.accepts h x request + b.receives.held.count x := by
  cases d.serve_fate answers request h with
  | kept same unasked unhalted ungiven =>
    have elsewhere : request.addressee? ≠ some h := by
      intro asked
      rcases Request.errand_of_addressee asked with ⟨v, errand, here⟩ | ⟨action, errand⟩
      · cases (unasked v errand here).symm.trans named
      · refine kept (request.wants_of_errand.2.trans ?_)
        rw [errand]
    refine ⟨a, same.trans named, fun x => ?_⟩
    rw [indications_of_unheard, accepts, named]
    · simp only [if_neg elsewhere]
    · intro heard
      rw [(serve_voices coherent heard).indicate] at elsewhere
      exact elsewhere rfl
  | @worked v b errand here before after answer events =>
    cases before.symm.trans named
    refine ⟨_, after, fun x => ?_⟩
    have asked : request.addressee? = some h := by
      rw [request.addressee?_of_errand, errand, ← here]
    subst here
    simp only [events, accepts, named, if_pos asked]
    exact work_receives errand x a
  | arrived unhalted before after answer => cases before.symm.trans named
  | left halts after ungiven => exact absurd halts kept

/-- What comes of a list that the adapter `a` has received under the handle `h`. -/
inductive Reception (d : Driver) (answers : HostAnswers) (h : Handle) (x : BufferList)
    (a : Adapter) : Prop
  | paused (still : a.lifecycle ≠ .running)
      (same : d.serve answers (.indicate h x) = .quiet (.ok (.status .paused)) d)
  | crowded (running : a.lifecycle = .running)
      (full : x ∈ a.receives.held ∨ a.receives.held.length = 16)
      (same : d.serve answers (.indicate h x) = .quiet (.ok (.status .resources)) d)
  | shown {b : Adapter} (running : a.lifecycle = .running) (absent : x ∉ a.receives.held)
      (room : a.receives.held.length < 16)
      (answer : (d.serve answers (.indicate h x)).answer = .ok (.status .success))
      (calls : hostCalls (d.serve answers (.indicate h x)).events = [.indicateReceive h x])
      (there : (d.serve answers (.indicate h x)).state.slots.get h = .ok b)
      (held : b.receives.held.Perm (x :: a.receives.held)) : Reception d answers h x a

theorem serve_indicate {d : Driver} (sound : d.All Adapter.Sound) {h : Handle} {a : Adapter}
    (there : d.slots.get h = .ok a) (answers : HostAnswers) (x : BufferList) :
    d.Reception answers h x a := by
  rw [SlotTable.get_eq_ok] at there
  cases found : d.slots.locate h with
  | error why =>
    rw [SlotTable.adapter?_of_missing found] at there
    cases there
  | ok at_ =>
    obtain ⟨i, owned⟩ := at_
    obtain ⟨holds, -⟩ := SlotTable.locate_eq_ok.1 found
    cases there.symm.trans (SlotTable.adapter?_of_locate found)
    have served := serve_of_found (show Request.errand (.indicate h x) = _ from rfl) found answers
    rcases (sound h _ there).receive_spec x with
      ⟨still, same⟩ | ⟨running, full, same⟩ | ⟨running, absent, room, receives, held, same⟩
    · refine .paused still (served.trans ?_)
      simp only [Visit.indicate, same, Outcome.quiet_answer, Outcome.map_answer,
        Outcome.map_state, Outcome.map_events, Outcome.quiet_state, Outcome.quiet_events,
        d.put_slot holds]
      rfl
    · refine .crowded running full (served.trans ?_)
      simp only [Visit.indicate, same, Outcome.quiet_answer, Outcome.map_answer,
        Outcome.map_state, Outcome.map_events, Outcome.quiet_state, Outcome.quiet_events,
        d.put_slot holds]
      rfl
    · have work : (Visit.indicate h x).work owned.value =
          ⟨.status .success, { owned.value with receives := receives },
            [.call (.indicateReceive h x)]⟩ := by
        simp only [Visit.indicate, same]
        rfl
      rw [work] at served
      refine .shown (b := { owned.value with receives := receives }) running absent room
        ?_ ?_ ?_ held
      · rw [served]
      · rw [served]
        rfl
      · rw [SlotTable.get_eq_ok, served, withSlots_slots, SlotTable.adapter?_rewrite found,
          if_pos rfl]

/-! ## All requests -/

theorem Reachable.run_receives {d : Driver} {activity : Activity} (reachable : d.Reachable activity)
    {h : Handle} {a : Adapter} (named : d.slots.adapter? h = some a)
    {requests : List (HostAnswers × Request)} (kept : ∀ r ∈ requests, r.2.halts? ≠ some h) :
    ∃ b, (d.run requests).state.slots.adapter? h = some b ∧
      ∀ x, indications h x (d.run requests).events + a.receives.held.count x =
        d.returns h x requests + b.receives.held.count x := by
  induction requests generalizing d a with
  | nil => exact ⟨a, named, fun x => rfl⟩
  | cons first requests ih =>
    obtain ⟨b, between, now⟩ :=
      serve_receives reachable.coherent named first.1 (kept first List.mem_cons_self)
    obtain ⟨c, last, later⟩ := ih (reachable.served first.1 first.2) between fun r member =>
      kept r (List.mem_cons_of_mem _ member)
    refine ⟨c, last, fun x => ?_⟩
    have first_ := now x
    have rest := later x
    rw [(d.run_cons first.1 first.2 requests).2, indications_append, returns]
    omega

/-- `x` comes back in vain from its place in a batch. -/
structure Unclaimed (d : Driver) (answers : HostAnswers) (level : Level) (h : Handle)
    (before : List BufferList) (x : BufferList) (after : List BufferList) (flags : ReturnFlags) :
    Prop where
  state : (d.serve answers (.takeBack level h (before ++ x :: after) flags)).state =
    (d.serve answers (.takeBack level h (before ++ after) flags)).state
  calls : hostCalls (d.serve answers (.takeBack level h (before ++ x :: after) flags)).events =
    hostCalls (d.serve answers (.takeBack level h (before ++ after) flags)).events

/-- The books of all receives are in order, whatever `d` is asked for next. -/
structure AccountsReceives (d : Driver) : Prop where
  /-- From the creation of an adapter until it is to be halted, its table holds what the host was
  shown and has not returned. -/
  balanced : ∀ answers request h during,
    (d.serve answers request).answer = .ok (.adapter h) →
      (∀ r ∈ during, Request.halts? r.2 ≠ some h) →
        ∃ a, ((d.serve answers request).state.run during).state.slots.get h = .ok a ∧
          ∀ x, indications h x ((d.serve answers request).state.run during).events =
            (d.serve answers request).state.returns h x during + (a.receives.contains x).toNat
  /-- No list is shown again that was not returned. -/
  once : ∀ h a requests x, d.slots.get h = .ok a →
    (∀ r ∈ requests, Request.halts? r.2 ≠ some h) → d.returns h x requests = 0 →
      indications h x (d.run requests).events + (a.receives.contains x).toNat ≤ 1
  received : ∀ answers h a x, d.slots.get h = .ok a → d.Reception answers h x a
  /-- Nothing else shows a list to the host. -/
  shown : ∀ answers request h x,
    .indicateReceive h x ∈ hostCalls (d.serve answers request).events →
      request = .indicate h x ∧ ∃ a, d.slots.get h = .ok a ∧ a.lifecycle = .running ∧
        a.receives.held.length < 16 ∧ x ∉ a.receives.held
  unclaimed : ∀ answers level h before flags a x,
    (d.serve answers (.takeBack level h before flags)).state.slots.get h = .ok a →
      x ∉ a.receives.held → ∀ after, d.Unclaimed answers level h before x after flags
  /-- Of a batch in which nothing is held, nothing comes. -/
  idle : ∀ answers level h lists flags a, d.slots.get h = .ok a →
    (∀ x ∈ lists, x ∉ a.receives.held) →
      (d.serve answers (.takeBack level h lists flags)).state = d ∧
        hostCalls (d.serve answers (.takeBack level h lists flags)).events = []
  leaked : ∀ answers level h lists flags why, d.slots.resolve h = .error why →
    (d.serve answers (.takeBack level h lists flags)).state = d ∧
      hostCalls (d.serve answers (.takeBack level h lists flags)).events =
        [.errorLog (some h) .leakBufferLists]

theorem unclaimed_of_unheld {d : Driver} {answers : HostAnswers} {level : Level} {h : Handle}
    {before : List BufferList} {flags : ReturnFlags} {a : Adapter}
    (there : (d.serve answers (.takeBack level h before flags)).state.slots.get h = .ok a)
    {x : BufferList} (unheld : x ∉ a.receives.held) (after : List BufferList) :
    d.Unclaimed answers level h before x after flags := by
  rw [SlotTable.get_eq_ok] at there
  cases found : d.slots.locate h with
  | error why =>
    rw [serve_of_missing (v := _) rfl found, SlotTable.adapter?_of_missing found] at there
    cases there
  | ok at_ =>
    obtain ⟨i, owned⟩ := at_
    have takeBack := fun lists => serve_takeBack found answers level lists flags
    rw [(takeBack before).2, withSlots_slots, SlotTable.adapter?_rewrite found, if_pos rfl,
      Option.some.injEq] at there
    subst there
    obtain ⟨state, calls⟩ := Adapter.takeBackAll_of_unheld unheld h after
    constructor
    · rw [(takeBack _).2, (takeBack _).2, Adapter.takeBackAll_append_state,
        Adapter.takeBackAll_append_state, state]
    · rw [(takeBack _).1, (takeBack _).1, Adapter.takeBackAll_append_calls,
        Adapter.takeBackAll_append_calls, calls]

theorem serve_takeBack_idle {d : Driver} {h : Handle} {a : Adapter}
    (there : d.slots.get h = .ok a) {lists : List BufferList}
    (unheld : ∀ x ∈ lists, x ∉ a.receives.held) (answers : HostAnswers) (level : Level)
    (flags : ReturnFlags) :
    (d.serve answers (.takeBack level h lists flags)).state = d ∧
      hostCalls (d.serve answers (.takeBack level h lists flags)).events = [] := by
  rw [SlotTable.get_eq_ok] at there
  cases found : d.slots.locate h with
  | error why =>
    rw [SlotTable.adapter?_of_missing found] at there
    cases there
  | ok at_ =>
    obtain ⟨i, owned⟩ := at_
    cases there.symm.trans (SlotTable.adapter?_of_locate found)
    obtain ⟨holds, -⟩ := SlotTable.locate_eq_ok.1 found
    obtain ⟨calls, state⟩ := serve_takeBack found answers level lists flags
    have nothing : (owned.value.takeBackAll h lists).state = owned.value ∧
        hostCalls (owned.value.takeBackAll h lists).events = [] := by
      clear calls state
      induction lists with
      | nil => exact ⟨rfl, rfl⟩
      | cons x lists ih =>
        obtain ⟨same, silent⟩ :=
          Adapter.takeBackAll_of_unheld (unheld x List.mem_cons_self) h lists
        rw [same, silent]
        exact ih fun y member => unheld y (List.mem_cons_of_mem x member)
    rw [state, calls, nothing.1, nothing.2]
    exact ⟨d.put_slot holds, rfl⟩

/-- **The books of all receives are in order**, wherever a driver has got to. -/
theorem Reachable.accountsReceives {d : Driver} {activity : Activity}
    (reachable : d.Reachable activity) : d.AccountsReceives where
  balanced answers request h during answer kept := by
    obtain ⟨k, config, named⟩ := serve_brings answer
    have after := reachable.served answers request
    obtain ⟨a, there, books⟩ := after.run_receives named kept
    have sound := (after.run during).sound h a there
    refine ⟨a, SlotTable.get_eq_ok.2 there, fun x => ?_⟩
    have nothing : (Adapter.setUpFor h k config).receives.held = [] := InFlight.held_empty
    have book := books x
    rw [nothing, sound.receives.count_held] at book
    exact book
  once h a requests x there kept unreturned := by
    rw [SlotTable.get_eq_ok] at there
    obtain ⟨b, later, books⟩ := reachable.run_receives there kept
    have book := books x
    rw [unreturned, (reachable.sound h a there).receives.count_held,
      ((reachable.run requests).sound h b later).receives.count_held, Nat.zero_add] at book
    rw [book]
    exact Bool.toNat_le _
  received answers _ _ x there := serve_indicate reachable.sound there answers x
  shown answers request h x heard := by
    cases (serve_voices reachable.coherent heard).indicate
    refine ⟨rfl, ?_⟩
    cases found : d.slots.locate h with
    | error why =>
      rw [serve_of_missing (v := .indicate h x) rfl found] at heard
      cases heard
    | ok at_ =>
      have there := SlotTable.get_eq_ok.2 (SlotTable.adapter?_of_locate found)
      refine ⟨_, there, ?_⟩
      cases serve_indicate reachable.sound there answers x with
      | paused still same =>
        rw [same] at heard
        cases heard
      | crowded running full same =>
        rw [same] at heard
        cases heard
      | shown running absent room answer calls there held => exact ⟨running, room, absent⟩
  unclaimed _ _ _ _ _ _ _ there unheld := unclaimed_of_unheld there unheld
  idle answers level _ _ flags _ there unheld :=
    serve_takeBack_idle there unheld answers level flags
  leaked answers level h lists flags why unresolved := by
    rw [serve_of_missing (v := _) rfl (SlotTable.locate_of_unresolved unresolved)]
    refine ⟨rfl, ?_⟩
    simp only [Visit.after, Visit.takeBack, hostCalls_append, Request.levelWarning_calls,
      List.nil_append]
    rfl

/-- A list that is received again while the host has it, and again after it came back among lists
that nobody holds; one of the same name is sent meanwhile. -/
def relayed : List (HostAnswers × Request) :=
  [(.willing, .restart ⟨0, 1⟩ 0), (.willing, .indicate ⟨0, 1⟩ ⟨6⟩),
    (.willing, .indicate ⟨0, 1⟩ ⟨6⟩), (.willing, .send .passive ⟨0, 1⟩ [⟨6⟩] ⟨0⟩),
    (.willing, .takeBack .passive ⟨0, 1⟩ [⟨9⟩, ⟨6⟩, ⟨6⟩] ⟨0⟩), (.willing, .indicate ⟨0, 1⟩ ⟨6⟩)]

theorem relayed_accountsReceives :
    introduced.Reachable ⟨1, 2⟩ ∧ introduced.AccountsReceives ∧
      (introduced.serve .willing (.createAdapter ⟨⟨7⟩, none⟩)).answer = .ok (.adapter ⟨0, 1⟩) ∧
      (introduced.serve .willing (.createAdapter ⟨⟨7⟩, none⟩)).state.returns ⟨0, 1⟩ ⟨6⟩ relayed = 1 ∧
      indications ⟨0, 1⟩ ⟨6⟩ ((introduced.serve .willing (.createAdapter ⟨⟨7⟩, none⟩)).state.run
        relayed).events = 2 := by
  have reachable : introduced.Reachable ⟨1, 2⟩ := sample_reachable.run _
  exact ⟨reachable, reachable.accountsReceives, by decide +kernel, by decide +kernel,
    by decide +kernel⟩

end Driver

end PacketRadio
