import PacketRadio.Proofs.Adapter.Pauses
import PacketRadio.Proofs.Driver.Runs

/-!
# Pauses in the work of an adapter

What host and caller see of the pauses of an adapter: that one is answered as pending, and that the
host is told of its end. Whatever an adapter is asked for, at most one of these is seen, and it is
seen of no other adapter.
-/

namespace PacketRadio

open Pool

/-! ## What is seen of pauses -/

/-- The host is told that a pause of `h` is complete. -/
def HostCall.notifies? (h : Handle) : HostCall → Option Mark
  | .pauseComplete other => if other = h then some .notified else none
  | _ => none

/-- What the host is told about the pauses of `h`. -/
def notified (h : Handle) (events : List Event) : List Mark :=
  (hostCalls events).filterMap (HostCall.notifies? h)

/-- A pause of `h` is answered as pending. -/
def Request.pended (h : Handle) : Request → Except Fatal Response → List Mark
  | .pause other, .ok (.status .pending) => if other = h then [.pending] else []
  | _, _ => []

/-- What is seen of the pauses of `h` in a turn. -/
def Turn.marks (h : Handle) (t : Turn) : List Mark :=
  notified h t.events ++ t.request.pended h t.answer

/-- What is seen of the pauses of `h` in a run. -/
def Driver.marks (h : Handle) (d : Driver) (requests : List (HostAnswers × Request)) : List Mark :=
  (d.turns requests).flatMap (Turn.marks h)

theorem notified_of_unheard {events : List Event} {h : Handle}
    (unheard : .pauseComplete h ∉ hostCalls events) : notified h events = [] := by
  apply List.filterMap_eq_nil_iff.2
  intro call member
  cases call
  case pauseComplete other =>
    apply if_neg
    intro same
    apply unheard
    rw [← same]
    exact member
  all_goals rfl

theorem Request.pended_of_unpaused {request : Request} {h : Handle} (other : request ≠ .pause h)
    (answer : Except Fatal Response) : request.pended h answer = [] := by
  unfold pended
  split
  · rename_i same
    apply if_neg
    intro here
    apply other
    rw [here]
  · rfl

theorem Request.pended_of_answer {answer : Except Fatal Response}
    (other : answer ≠ .ok (.status .pending)) (request : Request) (h : Handle) :
    request.pended h answer = [] := by
  unfold pended
  split
  · exact absurd rfl other
  · rfl

/-! ## One adapter at work -/

/-- Sending tells the host about the lists that go back only. -/
theorem Adapter.sendAll_unnotified (handle : Handle) (lists : List BufferList) (a : Adapter) :
    Unnotified (sendAll handle lists a).events := by
  induction lists generalizing a with
  | nil => exact unnotified_of_silent rfl
  | cons list lists ih =>
    rw [sendAll, Outcome.andThen_events, Outcome.after_events, send_events, List.nil_append]
    refine Unnotified.append ?_ (ih _)
    split
    · exact unnotified_of_silent rfl
    · intro h member
      simp [sendRefused] at member

/-- All that the work of an adapter can have to do with its pauses. -/
inductive Pacing (request : Request) (v : Visit) (a : Adapter) : Prop
  | still (unnotified : Unnotified (v.work a).events)
      (unpended : ∀ h, request.pended h (.ok (v.work a).answer) = [])
      (paces : a.Paces [] (v.work a).state)
  | begun (asked : request = .pause v.adapter) (answer : (v.work a).answer = .status .pending)
      (silent : hostCalls (v.work a).events = []) (paces : a.Paces [.pending] (v.work a).state)
  /-- The last list that was outstanding has been sent. -/
  | sent {list : BufferList} {status : Status}
      (asked : request = .completeSend v.adapter list status)
      (calls : hostCalls (v.work a).events =
        [.sendComplete v.adapter list status, .pauseComplete v.adapter])
      (idle : (v.work a).state.Idle) (paces : a.Paces [.notified] (v.work a).state)
  /-- The last list that was outstanding has come back. -/
  | takenBack {level : Level} {xs : List BufferList} {y : BufferList} {zs : List BufferList}
      {flags : ReturnFlags} (asked : request = .takeBack level v.adapter (xs ++ y :: zs) flags)
      (ends : Adapter.Ends v.adapter a xs y zs)
      (calls : hostCalls (v.work a).events = [.pauseComplete v.adapter])
      (paces : a.Paces [.notified] (v.work a).state)

theorem pause_pacing {a : Adapter} (steady : a.Steady) (handle : Handle) :
    Pacing (.pause handle) (.pause handle) a := by
  have silent : hostCalls ((Visit.pause handle).work a).events = [] := a.pause_onlyMoves.calls
  rcases steady.toSound.pause_cases with
    ⟨idle, running, answer, state⟩ | ⟨busy, running, answer, state⟩ | ⟨answer, state⟩
  · refine .still (unnotified_of_silent silent) (fun h => ?_) ?_
    · apply Request.pended_of_answer
      simp [Visit.pause, answer]
    · simp only [Visit.pause, Outcome.map_state, state]
      exact Adapter.Sound.paces_of_ne ⟨steady.sends, steady.receives⟩ (by simp [running]) (by simp)
  · refine .begun rfl ?_ silent ?_
    · simp [Visit.pause, answer]
    · simp only [Visit.pause, Outcome.map_state, state]
      refine ⟨?_, ⟨steady.sends, steady.receives⟩, fun _ => busy⟩
      rw [Adapter.waiting_of_ne (by simp [running])]
      exact .begun
  · refine .still (unnotified_of_silent silent) (fun h => ?_) ?_
    · apply Request.pended_of_answer
      simp [Visit.pause, answer, Error.status]
    · simp only [Visit.pause, Outcome.map_state, state]
      exact steady.paces

theorem takeBack_pacing {a : Adapter} (steady : a.Steady) (level : Level) (handle : Handle)
    (lists : List BufferList) (flags : ReturnFlags) {warning : List Event}
    (silent : hostCalls warning = []) :
    Pacing (.takeBack level handle lists flags) ((Visit.takeBack handle lists).after warning) a := by
  have calls : hostCalls (((Visit.takeBack handle lists).after warning).work a).events =
      hostCalls (Adapter.takeBackAll handle lists a).events := by
    simp only [Visit.after, Visit.takeBack, Outcome.after_events, Outcome.map_events,
      hostCalls_append, silent, List.nil_append]
  rcases steady.takeBackAll handle lists with ⟨xs, y, zs, rfl, ends⟩ | ⟨quiet, paces⟩
  · exact .takenBack rfl ends (calls.trans ends.after) ends.paces
  · exact .still (unnotified_of_silent (calls.trans quiet))
      (fun h => Request.pended_of_unpaused (by simp) _) paces

theorem completeSend_pacing {a : Adapter} (steady : a.Steady) (handle : Handle)
    (list : BufferList) (status : Status) :
    Pacing (.completeSend handle list status) (.completeSend handle list status) a := by
  have unpended : ∀ h answer, (Request.completeSend handle list status).pended h answer = [] :=
    fun h => Request.pended_of_unpaused (by simp)
  cases gone : a.sends.remove? list with
  | none =>
    have same := Visit.completeSend_of_absent gone handle status
    refine .still (unnotified_of_silent ?_) (fun h => unpended h _) ?_
    · rw [same]
      rfl
    · rw [same]
      exact steady.paces
  | some sends =>
    have same := Visit.completeSend_of_held gone handle status
    have calls := Visit.completeSend_calls gone handle status
    have sound := (Adapter.Change.sendGone gone).sound steady.toSound
    rcases sound.settlePause_cases with ⟨answer, idle, paces⟩ | ⟨answer, paces⟩
    · rw [if_pos answer] at calls
      refine .sent rfl calls ?_ ?_
      · rw [same]
        exact idle
      · rw [same]
        exact ⟨paces.awaiting, paces.steady⟩
    · rw [answer] at calls
      refine .still ?_ (fun h => unpended h _) ?_
      · intro h member
        rw [calls] at member
        simp at member
      · rw [same]
        exact ⟨paces.awaiting, paces.steady⟩

theorem indicate_pacing {a : Adapter} (steady : a.Steady) (handle : Handle) (list : BufferList) :
    Pacing (.indicate handle list) (.indicate handle list) a := by
  have state : ((Visit.indicate handle list).work a).state = (a.receive list).state := by
    simp only [Visit.indicate]
    split <;> rfl
  refine .still ?_ (fun h => Request.pended_of_unpaused (by simp) _) ?_
  · intro h member
    rcases Visit.indicate_cases a handle list with ⟨receives, -, -, same⟩ | ⟨status, same⟩
    · rw [same] at member
      simp at member
    · rw [same] at member
      simp at member
  · rw [state]
    exact steady.receive list

/-- **A visit has to do with pauses in these ways only.** -/
theorem work_pacing {request : Request} {v : Visit} (errand : request.errand = .visit v)
    {a : Adapter} (steady : a.Steady) : Pacing request v a := by
  cases Request.visits_of_errand errand with
  | pause handle => exact pause_pacing steady handle
  | restart handle flags =>
    exact .still (unnotified_of_silent (a.restart_onlyMoves flags).calls)
      (fun h => Request.pended_of_unpaused (by simp) _) (steady.restart flags)
  | accessAttribute handle request =>
    exact .still (unnotified_of_silent (a.serve_onlySets request).2)
      (fun h => Request.pended_of_unpaused (by simp) _) (steady.serve request)
  | send level handle lists flags =>
    have warned := unnotified_of_silent (Request.levelWarning_calls
      (flags.includes SendFlags.dispatchLevel == level.mayBlock) (.sendLevel handle flags level))
    exact .still (warned.append (a.sendAll_unnotified handle lists))
      (fun h => Request.pended_of_unpaused (by simp) _) (steady.sendAll handle lists)
  | takeBack level handle lists flags =>
    exact takeBack_pacing steady level handle lists flags (Request.levelWarning_calls _ _)
  | completeSend handle list status => exact completeSend_pacing steady handle list status
  | indicate handle list => exact indicate_pacing steady handle list

/-- For the adapter at work, pauses go on as its marks tell. -/
theorem Pacing.marks {request : Request} {v : Visit} {a : Adapter} (pacing : Pacing request v a) :
    a.Paces (Turn.marks v.adapter ⟨request, .ok (v.work a).answer, (v.work a).events⟩)
      (v.work a).state := by
  unfold Turn.marks
  cases pacing with
  | still unnotified unpended paces =>
    simp only [notified_of_unheard (unnotified v.adapter), unpended]
    exact paces
  | begun asked answer silent paces =>
    simp only [notified, silent, asked, answer, List.filterMap_nil, List.nil_append,
      Request.pended, if_true]
    exact paces
  | sent asked calls idle paces =>
    simp only [notified, calls, asked, HostCall.notifies?, List.filterMap_cons, List.filterMap_nil,
      Request.pended, List.append_nil, if_true]
    exact paces
  | takenBack asked ends calls paces =>
    simp only [notified, calls, asked, HostCall.notifies?, List.filterMap_cons, List.filterMap_nil,
      Request.pended, List.append_nil, if_true]
    exact paces

theorem missed_unnotified {request : Request} {v : Visit} (errand : request.errand = .visit v)
    (why : Error) : Unnotified (v.missed why).2 := by
  cases Request.visits_of_errand errand with
  | send level handle lists flags =>
    refine (unnotified_of_silent (Request.levelWarning_calls _ _)).append fun h member => ?_
    simp [Visit.send, hostCalls_flatMap, Adapter.sendRefused] at member
  | takeBack level handle lists flags =>
    refine (unnotified_of_silent (Request.levelWarning_calls _ _)).append fun h member => ?_
    simp [Visit.takeBack] at member
  | _ => exact unnotified_of_silent rfl

theorem Adapter.setUpFor_steady (handle : Handle) (interface : Interface) (config : AdapterConfig) :
    (setUpFor handle interface config).Steady :=
  (setUpFor_sound handle interface config).steady_of_ne (by simp [setUpFor])

end PacketRadio
