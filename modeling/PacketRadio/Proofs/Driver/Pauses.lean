import PacketRadio.Proofs.Driver.Pacing
import PacketRadio.Proofs.Driver.Teardown

/-!
# Pauses end as they begin

A pause of an adapter that is answered as pending is followed, before the next one, by one call that
tells the host of its end. The call is made with the list that was the last one outstanding, and not
before. Whoever is halted or destroyed while it waits goes without a word.
-/

namespace PacketRadio

open Pool

namespace Driver

/-! ## One request -/

theorem serve_steady {d : Driver} (steady : d.All Adapter.Steady) (answers : HostAnswers)
    (request : Request) : (d.serve answers request).state.All Adapter.Steady :=
  serve_all Adapter.setUpFor_steady
    (fun errand _ steady => (work_pacing errand steady).marks.steady) steady answers request

/-- A halt gives lists back, and tells of no pause. -/
theorem flushed_unnotified {events : List Event} {lists : List BufferList} {handle : Handle}
    (calls : hostCalls events = lists.map fun list => .sendComplete handle list .failure) :
    Unnotified events := by
  intro h member
  rw [calls] at member
  obtain ⟨list, -, same⟩ := List.mem_map.1 member
  cases same

/-- The host hears of the end of a pause of `h` with the last list: after it has got the list, if it
was sent, and as soon as it has given the list back, if it was received. -/
inductive Timely (d : Driver) (answers : HostAnswers) (h : Handle) : Request → Prop
  | sent {list : BufferList} {status : Status} {a : Adapter}
      (calls : hostCalls (d.serve answers (.completeSend h list status)).events =
        [.sendComplete h list status, .pauseComplete h])
      (there : (d.serve answers (.completeSend h list status)).state.slots.get h = .ok a)
      (idle : a.Idle) : Timely d answers h (.completeSend h list status)
  /-- Up to `y` the host hears nothing, and after `y` nothing more. -/
  | takenBack {level : Level} {xs : List BufferList} {y : BufferList} {zs : List BufferList}
      {flags : ReturnFlags} {a : Adapter}
      (calls : hostCalls (d.serve answers (.takeBack level h (xs ++ y :: zs) flags)).events =
        [.pauseComplete h])
      (before : hostCalls (d.serve answers (.takeBack level h xs flags)).events = [])
      (heard : hostCalls (d.serve answers (.takeBack level h (xs ++ [y]) flags)).events =
        [.pauseComplete h])
      (there : (d.serve answers (.takeBack level h (xs ++ [y]) flags)).state.slots.get h = .ok a)
      (idle : a.Idle) : Timely d answers h (.takeBack level h (xs ++ y :: zs) flags)

/-- **The end of a pause is told in time**, and of an adapter that is there. -/
theorem serve_timely {d : Driver} (steady : d.All Adapter.Steady) {answers : HostAnswers}
    {request : Request} {h : Handle}
    (heard : .pauseComplete h ∈ hostCalls (d.serve answers request).events) :
    (∃ a, d.slots.adapter? h = some a) ∧ d.Timely answers h request := by
  cases d.serve_step answers request with
  | aside errand undisturbed => exact absurd heard (undisturbed.unsettling.unnotified h)
  | missed errand missing same =>
    rw [same] at heard
    exact absurd heard (missed_unnotified errand _ h)
  | declined errand slots answer unsettling => exact absurd heard (unsettling.unnotified h)
  | created errand unused free value slots answer unsettling =>
    exact absurd heard (unsettling.unnotified h)
  | stopped errand missing slots answer silent =>
    exact absurd heard (unnotified_of_silent silent h)
  | halted errand found slots answer calls => exact absurd heard (flushed_unnotified calls h)
  | @visited v i owned errand found same =>
    have named := SlotTable.adapter?_of_locate found
    rw [same] at heard
    cases work_pacing errand (steady v.adapter owned.value named) with
    | still unnotified unpended paces => exact absurd heard (unnotified h)
    | begun asked answer silent paces => exact absurd heard (unnotified_of_silent silent h)
    | @sent list status asked calls idle paces =>
      have here : h = v.adapter := by
        rw [calls] at heard
        simpa using heard
      subst here asked
      refine ⟨⟨_, named⟩, .sent ?_ ?_ idle⟩
      · rw [same]
        exact calls
      · rw [SlotTable.get_eq_ok, same, withSlots_slots, SlotTable.adapter?_rewrite found, if_pos rfl]
    | @takenBack level xs y zs flags asked ends calls paces =>
      have here : h = v.adapter := by
        rw [calls] at heard
        simpa using heard
      subst here asked
      obtain ⟨quiet, -⟩ := serve_takeBack found answers level xs flags
      obtain ⟨told, state⟩ := serve_takeBack found answers level (xs ++ [y]) flags
      obtain ⟨whole, -⟩ := serve_takeBack found answers level (xs ++ y :: zs) flags
      refine ⟨⟨_, named⟩, .takenBack (whole.trans ends.after) (quiet.trans ends.before)
        (told.trans ends.calls) ?_ ends.idle⟩
      rw [SlotTable.get_eq_ok, state, withSlots_slots, SlotTable.adapter?_rewrite found, if_pos rfl]

/-- Without work for `h`, nothing is seen of its pauses. -/
theorem marks_of_unasked {d : Driver} (steady : d.All Adapter.Steady) {answers : HostAnswers}
    {request : Request} {h : Handle}
    (unasked : ∀ v, request.errand = .visit v → v.adapter ≠ h) :
    (d.turn answers request).marks h = [] := by
  have unheard : notified h (d.serve answers request).events = [] := by
    apply notified_of_unheard
    intro heard
    cases (serve_timely steady heard).2 with
    | sent calls there idle => exact unasked (.completeSend h _ _) rfl rfl
    | takenBack calls before told there idle => exact unasked _ rfl rfl
  have unpended : request.pended h (d.serve answers request).answer = [] := by
    apply Request.pended_of_unpaused
    intro asked
    exact unasked (.pause h) (by rw [asked]; rfl) rfl
  rw [turn, Turn.marks, unheard, unpended]
  rfl

/-- **An adapter that is not halted goes on, and its pauses as its marks tell.** -/
theorem serve_paces {d : Driver} (steady : d.All Adapter.Steady) {h : Handle} {a : Adapter}
    (named : d.slots.adapter? h = some a) (answers : HostAnswers) {request : Request}
    (kept : request.halts? ≠ some h) :
    ∃ b, (d.serve answers request).state.slots.adapter? h = some b ∧
      a.Paces ((d.turn answers request).marks h) b := by
  cases d.serve_fate answers request h with
  | kept same unasked unhalted ungiven =>
    refine ⟨a, same.trans named, ?_⟩
    rw [marks_of_unasked steady fun v errand here => ?_]
    · exact (steady h a named).paces
    · cases (unasked v errand here).symm.trans named
  | @worked v b errand here before after answer events =>
    cases before.symm.trans named
    subst here
    rw [turn, answer, events]
    exact ⟨_, after, (work_pacing errand (steady _ a named)).marks⟩
  | arrived unhalted before after answer => cases before.symm.trans named
  | left halts after ungiven => exact absurd halts kept

/-- A pause succeeds at once if nothing is outstanding, and then it is over. -/
theorem serve_pause_success {d : Driver} (steady : d.All Adapter.Steady) {answers : HostAnswers}
    {h : Handle} (answer : (d.serve answers (.pause h)).answer = .ok (.status .success)) :
    hostCalls (d.serve answers (.pause h)).events = [] ∧
      ∃ a b, d.slots.adapter? h = some a ∧ a.Idle ∧
        (d.serve answers (.pause h)).state.slots.adapter? h = some b ∧ b.lifecycle = .paused := by
  cases found : d.slots.locate h with
  | error why =>
    have same := serve_of_missing (show Request.errand (.pause h) = _ from rfl) found answers
    rw [same] at answer
    rcases SlotTable.locate_error found with rfl | rfl <;> cases answer
  | ok there =>
    obtain ⟨i, owned⟩ := there
    have named := SlotTable.adapter?_of_locate found
    have same := serve_of_found (show Request.errand (.pause h) = _ from rfl) found answers
    rw [same] at answer ⊢
    have paused : owned.value.Idle ∧
        ((Visit.pause h).work owned.value).state.lifecycle = .paused := by
      rcases (steady h _ named).toSound.pause_cases with
        ⟨idle, running, told, state⟩ | ⟨busy, running, told, state⟩ | ⟨told, state⟩
      · exact ⟨idle, by simp [Visit.pause, state]⟩
      · simp [Visit.pause, told] at answer
      · simp [Visit.pause, told, Error.status] at answer
    refine ⟨owned.value.pause_onlyMoves.calls, owned.value,
      ((Visit.pause h).work owned.value).state, named, paused.1, ?_, paused.2⟩
    rw [withSlots_slots, SlotTable.adapter?_rewrite found, if_pos rfl]

/-- Of an adapter that is not there, nothing is heard, and it is not there later unless it comes
up. -/
theorem serve_gone {d : Driver} (steady : d.All Adapter.Steady) {h : Handle}
    (missing : d.slots.adapter? h = none) {answers : HostAnswers} {request : Request}
    (answer : (d.serve answers request).answer ≠ .ok (.adapter h)) :
    (d.serve answers request).state.slots.adapter? h = none ∧
      .pauseComplete h ∉ hostCalls (d.serve answers request).events := by
  constructor
  · cases d.serve_fate answers request h with
    | kept same unasked unhalted ungiven => exact same.trans missing
    | worked errand here before after told events => cases before.symm.trans missing
    | arrived unhalted before after told => exact absurd told answer
    | left halts after ungiven => exact after
  · intro heard
    obtain ⟨⟨a, named⟩, -⟩ := serve_timely steady heard
    cases named.symm.trans missing

/-! ## All requests -/

theorem run_steady {d : Driver} (started : d.Started) (requests : List (HostAnswers × Request)) :
    (d.run requests).state.All Adapter.Steady :=
  run_all Adapter.setUpFor_steady
    (fun errand _ steady => (work_pacing errand steady).marks.steady) started requests

theorem run_paces {d : Driver} (steady : d.All Adapter.Steady) {h : Handle} {a : Adapter}
    (named : d.slots.adapter? h = some a) {requests : List (HostAnswers × Request)}
    (kept : ∀ r ∈ requests, r.2.halts? ≠ some h) :
    ∃ b, (d.run requests).state.slots.adapter? h = some b ∧ a.Paces (d.marks h requests) b := by
  induction requests generalizing d a with
  | nil => exact ⟨a, named, (steady h a named).paces⟩
  | cons first requests ih =>
    obtain ⟨b, there, now⟩ :=
      serve_paces steady named first.1 (kept first List.mem_cons_self)
    obtain ⟨c, later, paces⟩ := ih (serve_steady steady first.1 first.2) there fun r member =>
      kept r (List.mem_cons_of_mem _ member)
    refine ⟨c, later, ?_⟩
    rw [marks, turns, List.flatMap_cons]
    exact now.trans paces

theorem run_gone {d : Driver} (steady : d.All Adapter.Steady) {h : Handle}
    (missing : d.slots.adapter? h = none) {requests : List (HostAnswers × Request)}
    (unmade : ∀ t ∈ d.turns requests, t.answer ≠ .ok (.adapter h)) :
    .pauseComplete h ∉ hostCalls (d.run requests).events := by
  induction requests generalizing d with
  | nil => exact List.not_mem_nil
  | cons first requests ih =>
    obtain ⟨gone, unheard⟩ := serve_gone steady missing (unmade _ List.mem_cons_self)
    have later := ih (serve_steady steady first.1 first.2) gone fun t member =>
      unmade t (List.mem_cons_of_mem _ member)
    intro heard
    rw [(d.run_cons first.1 first.2 requests).2, hostCalls_append, List.mem_append] at heard
    exact heard.elim unheard later

/-! ## From creation to halt -/

/-- While the requests are served, pending pauses of `h` and notifications alternate. The adapter is
pausing if the last pause is still pending, and then it waits for a list. -/
def Alternates (d : Driver) (h : Handle) (requests : List (HostAnswers × Request)) : Prop :=
  ∃ a, (d.run requests).state.slots.get h = .ok a ∧ Alternating (d.marks h requests) ∧
    (a.lifecycle = .pausing ↔ (d.marks h requests).getLast? = some .pending) ∧
    (a.lifecycle = .pausing → ¬ a.Idle)

theorem run_alternates {d : Driver} (steady : d.All Adapter.Steady) {h : Handle} {a : Adapter}
    (named : d.slots.adapter? h = some a) (calm : a.waiting = false)
    {requests : List (HostAnswers × Request)} (kept : ∀ r ∈ requests, r.2.halts? ≠ some h) :
    d.Alternates h requests := by
  obtain ⟨b, there, awaiting, busy⟩ := run_paces steady named kept
  rw [calm] at awaiting
  refine ⟨b, SlotTable.get_eq_ok.2 there, awaiting.alternating, ?_, busy.busy⟩
  rw [← awaiting.waits_iff, Adapter.waiting_iff]

/-- Pauses end as they begin, whatever `d` is asked for next. -/
structure EndsPauses (d : Driver) : Prop where
  /-- So it is from the creation of an adapter until it is to be halted. -/
  alternate : ∀ answers request h during,
    (d.serve answers request).answer = .ok (.adapter h) →
      (∀ r ∈ during, Request.halts? r.2 ≠ some h) →
        (d.serve answers request).state.Alternates h during
  timely : ∀ answers request h,
    .pauseComplete h ∈ hostCalls (d.serve answers request).events → d.Timely answers h request
  /-- A pause succeeds at once if nothing is outstanding, and the host never hears of it. -/
  successful : ∀ answers h, (d.serve answers (.pause h)).answer = .ok (.status .success) →
    (∃ a, d.slots.get h = .ok a ∧ a.Idle) ∧
      hostCalls (d.serve answers (.pause h)).events = [] ∧
      ∀ during, (∀ r ∈ during, Request.halts? r.2 ≠ some h) →
        (d.serve answers (.pause h)).state.Alternates h during
  /-- Who is halted is not heard of, then or later, until the handle is given out again. -/
  halted : ∀ answers request h, Request.halts? request = some h →
    Unnotified (d.serve answers request).events ∧
      ∀ later, (∀ t ∈ (d.serve answers request).state.turns later, t.answer ≠ .ok (.adapter h)) →
        .pauseComplete h ∉ hostCalls ((d.serve answers request).state.run later).events
  takenDown : ∀ activity,
    Unnotified (Context.discard (some d.context) d.arena activity).events ∧
      Unnotified (Context.unload (some d.context) d.arena activity).events

theorem serve_halted {d : Driver} (steady : d.All Adapter.Steady) {answers : HostAnswers}
    {request : Request} {h : Handle} (halts : request.halts? = some h) :
    Unnotified (d.serve answers request).events := by
  intro k heard
  cases (serve_timely steady heard).2 with
  | sent calls there idle => cases halts
  | takenBack calls before told there idle => cases halts

/-- **Pauses end as they begin**, wherever a run has got to. -/
theorem run_endsPauses {d : Driver} (started : d.Started)
    (requests : List (HostAnswers × Request)) : (d.run requests).state.EndsPauses := by
  have steady := run_steady started requests
  have coherent := (run_agrees started requests).coherent
  obtain ⟨others, housed⟩ := run_housed started requests
  constructor
  · intro answers request h during answer kept
    obtain ⟨k, config, named⟩ := serve_brings answer
    exact run_alternates (serve_steady steady answers request) named rfl kept
  · intro answers request h heard
    exact (serve_timely steady heard).2
  · intro answers h answer
    obtain ⟨silent, a, b, named, idle, there, paused⟩ := serve_pause_success steady answer
    refine ⟨⟨a, SlotTable.get_eq_ok.2 named, idle⟩, silent, ?_⟩
    intro during kept
    exact run_alternates (serve_steady steady answers _) there
      (Adapter.waiting_of_ne (by simp [paused])) kept
  · intro answers request h halts
    refine ⟨serve_halted steady halts, ?_⟩
    intro later unmade
    exact run_gone (serve_steady steady answers request) (adapter?_of_halts _ answers halts) unmade
  · intro activity
    exact ⟨(housed.discard coherent activity).unnotified, (housed.unload coherent activity).unnotified⟩

/-- A pause that waits for a list to be sent and for one to come back, which it does in a batch with
others. -/
def drained : List (HostAnswers × Request) :=
  [(.willing, .register ⟨1⟩ "radio"), (.willing, .createAdapter ⟨⟨7⟩, none⟩),
    (.willing, .restart ⟨0, 1⟩ 0), (.willing, .send .passive ⟨0, 1⟩ [⟨5⟩] ⟨0⟩),
    (.willing, .indicate ⟨0, 1⟩ ⟨6⟩), (.willing, .pause ⟨0, 1⟩),
    (.willing, .completeSend ⟨0, 1⟩ ⟨5⟩ .success),
    (.willing, .takeBack .passive ⟨0, 1⟩ [⟨9⟩, ⟨6⟩, ⟨6⟩] ⟨0⟩)]

theorem drained_endsPauses :
    sample.Started ∧ sample.marks ⟨0, 1⟩ drained = [.pending, .notified] ∧
      (sample.run drained).state.EndsPauses :=
  ⟨sample_started, by decide +kernel, run_endsPauses sample_started drained⟩

end Driver

end PacketRadio
