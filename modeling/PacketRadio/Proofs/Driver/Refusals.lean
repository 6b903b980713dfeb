import PacketRadio.Proofs.Driver.Handles
import PacketRadio.Proofs.Driver.Succession

/-!
# What is refused changes nothing

A request is either done, or is refused and leaves everything as it was: the adapters with all that
they keep, the registration, the arena and the record of the active context. The host hears nothing
of it, unless the refusal was its own.

A list that is not sent is the one exception. It goes back to the host, and all else is as if it had
not been handed over.
-/

namespace PacketRadio

open Pool

namespace Request

/-- The requests that tell whether they were served. -/
def isJudged : Request → Bool
  | .register .. | .deregister _ | .pause _ | .restart .. | .accessAttribute .. | .completeSend ..
  | .indicate .. => true
  | _ => false

/-- Of those, two are about the registration, and all others are work for an adapter. -/
theorem isJudged_cases {request : Request} (judged : request.isJudged = true) :
    (∃ driver path, request = .register driver path) ∨ (∃ handle, request = .deregister handle) ∨
      ∃ v, request.errand = .visit v := by
  cases request
  case register driver path => exact .inl ⟨driver, path, rfl⟩
  case deregister handle => exact .inr (.inl ⟨handle, rfl⟩)
  all_goals first | exact .inr (.inr ⟨_, rfl⟩) | cases judged

/-- What the host is asked before the request can be served or refused. -/
def consults (c : Context) : Request → List HostCall
  | .register driver path =>
    if c.registration = .unregistered then
      [.register driver path (Characteristics.ofConfig c.config)]
    else []
  | _ => []

end Request

/-- The request was served, or will be. -/
def Response.accepts : Response → Bool
  | .done | .registered _ => true
  | .status s | .attribute _ s => s = .success || s = .pending
  | _ => false

/-- What is answered for an adapter that is not there: a number beyond the slots is no handle. -/
def Handle.absence (h : Handle) : Status :=
  if 16 ≤ h.slot.toNat then .invalidParameter else .adapterNotReady

theorem SlotTable.status_of_missing {t : SlotTable} {h : Handle} {why : Error}
    (missing : t.locate h = .error why) : why.status = h.absence := by
  have beyond : index? h.slot.toNat = none ↔ 16 ≤ h.slot.toNat := by
    unfold index?
    split
    · rename_i inside
      exact iff_of_false nofun (Nat.not_le_of_lt inside)
    · rename_i outside
      exact iff_of_true rfl (Nat.le_of_not_lt outside)
  unfold Handle.absence
  unfold locate resolve at missing
  cases index : index? h.slot.toNat with
  | none =>
    rw [index] at missing
    cases missing
    rw [if_pos (beyond.1 index)]
    rfl
  | some i =>
    have inside : ¬ 16 ≤ h.slot.toNat := fun outside => by
      rw [beyond.2 outside] at index
      cases index
    rw [if_neg inside]
    rw [index] at missing
    dsimp only at missing
    split at missing
    · rename_i stale
      split at stale <;> cases stale
      cases missing
      rfl
    · split at missing <;> cases missing
      rfl

/-! ## Adapters -/

namespace Adapter

/-- A new value is checked as a whole before it takes effect. -/
theorem set_checked (a : Adapter) (r : AttributeRequest) :
    (a.set r).state = a ∨ (a.set r).answer.2 = .ok () := by
  unfold set
  split
  · unfold setFilter
    split
    · exact .inl rfl
    · dsimp only
      split
      · exact .inr rfl
      · exact .inl rfl
  · unfold setVlan
    split
    · exact .inl rfl
    · split
      · exact .inl rfl
      · exact .inr rfl
  · unfold setGroups
    split
    · exact .inl rfl
    · split
      · exact .inl rfl
      · exact .inr rfl
  · exact .inl rfl

theorem query_state (a : Adapter) (r : AttributeRequest) : (a.query r).state = a := by
  unfold query
  split <;> rfl

theorem serve_of_error {a : Adapter} {r : AttributeRequest} {why : Error}
    (refused : (a.serve r).answer.2 = .error why) : (a.serve r).state = a := by
  unfold serve at refused ⊢
  split at refused
  · exact a.query_state r
  · refine (a.set_checked r).resolve_right fun done => ?_
    cases done.symm.trans refused

end Adapter

/-- **Work that is refused leaves the adapter as it was**, and is not told to the host. -/
theorem Driver.work_refused {request : Request} {v : Visit} (errand : request.errand = .visit v)
    (judged : request.isJudged = true) {a : Adapter} (refused : (v.work a).answer.accepts = false) :
    (v.work a).state = a ∧ hostCalls (v.work a).events = [] := by
  cases Request.visits_of_errand errand with
  | pause handle =>
    refine ⟨?_, a.pause_onlyMoves.calls⟩
    by_cases running : a.lifecycle = .running
    · rcases Nat.eq_zero_or_pos a.outstanding with idle | busy
      · simp only [Visit.pause, Adapter.pause_of_idle running idle, Outcome.map_answer] at refused
        cases refused
      · simp only [Visit.pause, Adapter.pause_of_busy running busy, Outcome.map_answer] at refused
        cases refused
    · simp only [Visit.pause, Adapter.pause_of_still running, Outcome.map_state]
  | restart handle flags =>
    refine ⟨?_, (a.restart_onlyMoves flags).calls⟩
    by_cases paused : a.lifecycle = .paused
    · simp only [Visit.restart, Adapter.restart_of_paused paused, Outcome.map_answer] at refused
      cases refused
    · simp only [Visit.restart, Adapter.restart_of_unpaused paused, Outcome.map_state]
  | accessAttribute handle request =>
    refine ⟨?_, (a.serve_onlySets request).2⟩
    cases told : (a.serve request).answer.2 with
    | error why => exact Adapter.serve_of_error told
    | ok _ =>
      simp only [Visit.accessAttribute, Outcome.map_answer, told] at refused
      cases refused
  | completeSend handle list status =>
    cases gone : a.sends.remove? list with
    | none =>
      rw [Visit.completeSend_of_absent gone]
      exact ⟨rfl, rfl⟩
    | some sends =>
      rw [Visit.completeSend_of_held gone] at refused
      cases refused
  | indicate handle list =>
    rcases Visit.indicate_cases a handle list with ⟨receives, -, -, same⟩ | ⟨status, same⟩
    · rw [same] at refused
      cases refused
    · rw [same]
      exact ⟨rfl, rfl⟩
  | _ => cases judged

/-! ## Lists that are not sent -/

namespace Adapter

theorem sendAll_append_state (handle : Handle) (lists more : List BufferList) (a : Adapter) :
    (sendAll handle (lists ++ more) a).state =
      (sendAll handle more (sendAll handle lists a).state).state := by
  induction lists generalizing a with
  | nil => rfl
  | cons list lists ih => exact ih _

theorem sendAll_append_calls (handle : Handle) (lists more : List BufferList) (a : Adapter) :
    hostCalls (sendAll handle (lists ++ more) a).events =
      hostCalls (sendAll handle lists a).events ++
        hostCalls (sendAll handle more (sendAll handle lists a).state).events := by
  induction lists generalizing a with
  | nil => rfl
  | cons list lists ih =>
    rw [List.cons_append, sendAll, sendAll]
    simp only [Outcome.andThen_events, Outcome.andThen_state, Outcome.after_events,
      Outcome.after_state, hostCalls_append, ih, List.append_assoc]

/-- A list that is refused goes back, and the rest of the batch goes on without it. -/
theorem sendAll_of_refused {a : Adapter} {list : BufferList} {status : Status}
    (refused : (a.send list).answer = .error status) (handle : Handle) (lists : List BufferList) :
    (sendAll handle (list :: lists) a).state = (sendAll handle lists a).state ∧
      hostCalls (sendAll handle (list :: lists) a).events =
        .sendComplete handle list status :: hostCalls (sendAll handle lists a).events := by
  rcases a.send_cases list with ⟨sends, -, -, same⟩ | ⟨told, same⟩
  · rw [same] at refused
    cases refused
  · rw [same] at refused
    cases refused
    rw [sendAll, same]
    exact ⟨rfl, rfl⟩

end Adapter

namespace Driver

/-- Working on an adapter that stays as it is leaves the slots as they are. -/
theorem put_slot (d : Driver) {i : Fin maxAdapters} {owned : Owned Adapter}
    (holds : (d.slots.slot i).occupant = some owned) :
    d.withSlots (d.slots.put i
      { d.slots.slot i with occupant := some ⟨owned.block, owned.value⟩ }) = d := by
  have same : (⟨some ⟨owned.block, owned.value⟩, (d.slots.slot i).interface,
      (d.slots.slot i).generation⟩ : Slot) = d.slots.slot i :=
    Slot.mk.injEq .. |>.mpr ⟨holds.symm, rfl, rfl⟩
  have unchanged : d.slots.put i (d.slots.slot i) = d.slots :=
    congrArg SlotTable.mk (Vector.set_getElem_self i.isLt)
  rw [same, unchanged]
  rfl

/-! ## Requests -/

/-- The request is one that tells whether it was served, and it was not. -/
structure Rejects (d : Driver) (answers : HostAnswers) (request : Request) : Prop where
  judged : request.isJudged = true
  told : ∀ response, (d.serve answers request).answer = .ok response → response.accepts = false

/-- Nobody is asked before work for an adapter, and nobody hears that the adapter is not there. -/
theorem visit_consults {request : Request} {v : Visit} (errand : request.errand = .visit v)
    (judged : request.isJudged = true) (c : Context) (why : Error) :
    request.consults c = [] ∧ hostCalls (v.missed why).2 = [] := by
  cases Request.visits_of_errand errand with
  | send => cases judged
  | takeBack => cases judged
  | _ => exact ⟨rfl, rfl⟩

theorem register_rejected {d : Driver} {answers : HostAnswers} {driver : DriverObject}
    {path : String} (rejects : d.Rejects answers (.register driver path)) :
    (d.serve answers (.register driver path)).state = d ∧
      hostCalls (d.serve answers (.register driver path)).events =
        Request.consults d.context.value (.register driver path) := by
  have told := rejects.told
  simp only [serve, onContext, Context.register, Request.consults] at told ⊢
  cases registration : d.context.value.registration with
  | registered handle driver => exact ⟨rfl, rfl⟩
  | unregistered =>
    simp only [registration] at told ⊢
    cases asked : answers.registration with
    | ok handle =>
      rw [asked] at told
      cases told _ rfl
    | error status =>
      have same : ({ d.context.value with registration := .unregistered } : Context) =
          d.context.value := by
        rw [← registration]
      refine ⟨?_, rfl⟩
      simp only [Outcome.within_state, Outcome.map_state, same]

theorem deregister_rejected {d : Driver} {answers : HostAnswers} {handle : DriverHandle}
    (rejects : d.Rejects answers (.deregister handle)) :
    (d.serve answers (.deregister handle)).state = d ∧
      hostCalls (d.serve answers (.deregister handle)).events = [] := by
  have told := rejects.told
  simp only [serve, onContext, Context.deregister] at told ⊢
  split at told
  · exact ⟨rfl, rfl⟩
  · split at told
    · rename_i other
      rw [if_pos other]
      exact ⟨rfl, rfl⟩
    · cases told _ rfl

/-- **A request that is rejected changes nothing**, and the host hears of none but its own. -/
theorem Rejects.unchanged {d : Driver} {answers : HostAnswers} {request : Request}
    (rejects : d.Rejects answers request) :
    (d.serve answers request).state = d ∧
      hostCalls (d.serve answers request).events = request.consults d.context.value := by
  have judged := rejects.judged
  rcases Request.isJudged_cases judged with ⟨driver, path, rfl⟩ | ⟨handle, rfl⟩ | ⟨v, errand⟩
  · exact register_rejected rejects
  · exact deregister_rejected rejects
  · cases found : d.slots.locate v.adapter with
    | error why =>
      obtain ⟨unasked, silent⟩ := visit_consults errand judged d.context.value why
      rw [serve_of_missing errand found, unasked]
      exact ⟨rfl, silent⟩
    | ok there =>
      obtain ⟨i, owned⟩ := there
      obtain ⟨holds, -⟩ := SlotTable.locate_eq_ok.1 found
      have served := serve_of_found errand found answers
      have refused : (v.work owned.value).answer.accepts = false :=
        rejects.told _ (congrArg Outcome.answer served)
      obtain ⟨same, silent⟩ := work_refused errand judged refused
      rw [served, same, silent, (visit_consults errand judged d.context.value .notSupported).1]
      exact ⟨d.put_slot holds, rfl⟩

/-! ## All refusals -/

/-- `list` goes back to the host from its place in a batch, and that is all. -/
structure Unsent (d : Driver) (answers : HostAnswers) (level : Level) (h : Handle)
    (before : List BufferList) (list : BufferList) (after : List BufferList) (flags : SendFlags)
    (status : Status) : Prop where
  state : (d.serve answers (.send level h (before ++ list :: after) flags)).state =
    (d.serve answers (.send level h (before ++ after) flags)).state
  calls : ∃ later,
    hostCalls (d.serve answers (.send level h (before ++ after) flags)).events =
        hostCalls (d.serve answers (.send level h before flags)).events ++ later ∧
      hostCalls (d.serve answers (.send level h (before ++ list :: after) flags)).events =
        hostCalls (d.serve answers (.send level h before flags)).events ++
          .sendComplete h list status :: later

/-- `h` is answered in one way, whatever is asked of it, and nothing comes of it. -/
structure Absent (d : Driver) (h : Handle) : Prop where
  pause : ∀ answers, d.serve answers (.pause h) = .quiet (.ok (.status h.absence)) d
  restart : ∀ answers flags,
    d.serve answers (.restart h flags) = .quiet (.ok (.status h.absence)) d
  accessAttribute : ∀ answers request,
    d.serve answers (.accessAttribute h request) = .quiet (.ok (.attribute request h.absence)) d
  indicate : ∀ answers list,
    d.serve answers (.indicate h list) = .quiet (.ok (.status h.absence)) d
  completeSend : ∀ answers list status, ∃ why, why.status = h.absence ∧
    d.serve answers (.completeSend h list status) = .quiet (.ok (.refused why)) d
  send : ∀ answers level lists flags,
    (d.serve answers (.send level h lists flags)).state = d ∧
      hostCalls (d.serve answers (.send level h lists flags)).events =
        lists.map fun list => .sendComplete h list h.absence

theorem unsent_of_refused {d : Driver} {answers : HostAnswers} {level : Level} {h : Handle}
    {before : List BufferList} {flags : SendFlags} {a : Adapter}
    (there : (d.serve answers (.send level h before flags)).state.slots.get h = .ok a)
    {list : BufferList} {status : Status} (refused : (a.send list).answer = .error status)
    (after : List BufferList) : d.Unsent answers level h before list after flags status := by
  rw [SlotTable.get_eq_ok] at there
  cases found : d.slots.locate h with
  | error why =>
    rw [serve_of_missing (v := _) rfl found, SlotTable.adapter?_of_missing found] at there
    cases there
  | ok at_ =>
    obtain ⟨i, owned⟩ := at_
    have send := fun lists => serve_send found answers level lists flags
    rw [(send before).2, withSlots_slots, SlotTable.adapter?_rewrite found, if_pos rfl,
      Option.some.injEq] at there
    subst there
    obtain ⟨state, calls⟩ := Adapter.sendAll_of_refused refused h after
    constructor
    · rw [(send _).2, (send _).2, Adapter.sendAll_append_state, Adapter.sendAll_append_state, state]
    · refine ⟨hostCalls ((owned.value.sendAll h before).state.sendAll h after).events, ?_, ?_⟩
      · rw [(send _).1, (send before).1, Adapter.sendAll_append_calls]
      · rw [(send _).1, (send before).1, Adapter.sendAll_append_calls, calls]

theorem absent_of_unresolved {d : Driver} {h : Handle} {why : Error}
    (unresolved : d.slots.resolve h = .error why) : d.Absent h := by
  have missing := SlotTable.locate_of_unresolved unresolved
  have status := SlotTable.status_of_missing missing
  constructor
  · intro answers
    rw [serve_of_missing (v := .pause h) rfl missing, ← status]
    rfl
  · intro answers flags
    rw [serve_of_missing (v := .restart h flags) rfl missing, ← status]
    rfl
  · intro answers request
    rw [serve_of_missing (v := .accessAttribute h request) rfl missing, ← status]
    rfl
  · intro answers list
    rw [serve_of_missing (v := .indicate h list) rfl missing, ← status]
    rfl
  · intro answers list given
    exact ⟨why, status, serve_of_missing (v := .completeSend h list given) rfl missing answers⟩
  · intro answers level lists flags
    rw [serve_of_missing (v := _) rfl missing]
    refine ⟨rfl, ?_⟩
    simp only [Visit.after, Visit.send, hostCalls_append, Request.levelWarning_calls,
      List.nil_append, hostCalls_flatMap, status]
    exact List.map_eq_flatMap.symm

end Driver

/-- A live context, as a driver in its arena. -/
def LiveContext.driverIn (c : LiveContext) (p : Process) : Driver := ⟨c.context, p.arenas c.home⟩

/-- A driver that is left as it was leaves its process as it was. -/
theorem Process.serve_of_unchanged {p : Process} {n : Nat} {c : LiveContext}
    (live : p.contexts[n]? = some c) {answers : HostAnswers} {request : Request}
    (same : ((c.driverIn p).serve answers request).state = c.driverIn p) :
    (p.serve n answers request).state = p := by
  have context : p.contexts.set n c = p.contexts := by
    obtain ⟨inside, there⟩ := List.getElem?_eq_some_iff.1 live
    rw [← there, List.set_getElem_self]
  unfold LiveContext.driverIn at same
  simp only [serve, live, same, Function.update_eq_self, context]

namespace Driver

/-- What is refused leaves no trace in `d`. -/
structure RefusesCleanly (d : Driver) : Prop where
  /-- Slots with their adapters, registration and arena are as before. -/
  unchanged : ∀ answers request, d.Rejects answers request →
    (d.serve answers request).state = d
  /-- So are the record of the active context, and whatever else there is in the process. -/
  process : ∀ (p : Process) n c answers request, p.contexts[n]? = some c → c.driverIn p = d →
    d.Rejects answers request → (p.serve n answers request).state = p
  silent : ∀ answers request, d.Rejects answers request →
    hostCalls (d.serve answers request).events = request.consults d.context.value
  /-- A list that its adapter does not take is given back, and nothing else comes of it. -/
  unsent : ∀ answers level h before flags a list status,
    (d.serve answers (.send level h before flags)).state.slots.get h = .ok a →
      (a.send list).answer = .error status → (a.send list).state = a ∧
        ∀ after, d.Unsent answers level h before list after flags status
  absent : ∀ h why, d.slots.resolve h = .error why → d.Absent h

theorem send_of_refused {a : Adapter} {list : BufferList} {status : Status}
    (refused : (a.send list).answer = .error status) : (a.send list).state = a := by
  rcases a.send_cases list with ⟨sends, -, -, same⟩ | ⟨told, same⟩
  · rw [same] at refused
    cases refused
  · rw [same]
    rfl

/-- **Whatever a driver refuses leaves it as it was.** -/
theorem refusesCleanly (d : Driver) : d.RefusesCleanly where
  unchanged _ _ rejects := rejects.unchanged.1
  process p n c answers request live here rejects := by
    subst here
    exact Process.serve_of_unchanged live rejects.unchanged.1
  silent _ _ rejects := rejects.unchanged.2
  unsent _ _ _ _ _ _ _ _ there refused :=
    ⟨send_of_refused refused, unsent_of_refused there refused⟩
  absent _ _ unresolved := absent_of_unresolved unresolved

/-- An adapter that runs and holds a list to be sent. -/
def pressed : List (HostAnswers × Request) :=
  [(.willing, .register ⟨1⟩ "radio"), (.willing, .createAdapter ⟨⟨7⟩, none⟩),
    (.willing, .restart ⟨0, 1⟩ 0), (.willing, .send .passive ⟨0, 1⟩ [⟨5⟩] ⟨0⟩)]

/-- It is not restarted again, and does not take the list a second time. -/
theorem pressed_refusesCleanly :
    (sample.run pressed).state.RefusesCleanly ∧
      (sample.run pressed).state.Rejects .willing (.restart ⟨0, 1⟩ 0) ∧
      (sample.run pressed).state.Unsent .willing .passive ⟨0, 1⟩ [⟨6⟩] ⟨5⟩ [⟨7⟩] ⟨0⟩ .resources := by
  have clean := refusesCleanly (sample.run pressed).state
  have told : ((sample.run pressed).state.serve .willing (.restart ⟨0, 1⟩ 0)).answer =
      .ok (.status .failure) := by decide +kernel
  refine ⟨clean, ⟨rfl, fun response same => ?_⟩, ?_⟩
  · cases told.symm.trans same
    rfl
  · exact (clean.unsent .willing .passive ⟨0, 1⟩ [⟨6⟩] ⟨0⟩ _ ⟨5⟩ .resources rfl rfl).2 [⟨7⟩]

end Driver

end PacketRadio
