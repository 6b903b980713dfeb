import PacketRadio.Proofs.Driver.Identity

/-!
# Every send is accounted for

A list that is handed over to be sent goes back to the host, or is held by the adapter that its
handle names. The books are kept for each handle and each list, by occurrences: a list can be handed
over again while it is held. Every request balances.
-/

namespace PacketRadio

open Pool

/-- The call gives `list` back to the host, for the adapter `h`. -/
def HostCall.completes (h : Handle) (list : BufferList) : HostCall → Bool
  | .sendComplete other given _ => other == h && given == list
  | _ => false

/-- How often `list` was given back for the adapter `h`. -/
def completions (h : Handle) (list : BufferList) (events : List Event) : Nat :=
  (hostCalls events).countP (HostCall.completes h list)

/-- How often the request hands `list` over to be sent by the adapter `h`. -/
def Request.submits (h : Handle) (list : BufferList) : Request → Nat
  | .send _ other lists _ => if other = h then lists.count list else 0
  | _ => 0

/-- How often `list` was handed over to be sent by the adapter `h`. -/
def submissions (h : Handle) (list : BufferList) : List (HostAnswers × Request) → Nat
  | [] => 0
  | (_, request) :: requests => request.submits h list + submissions h list requests

/-- How often the adapter that `h` names holds `list` to be sent. -/
def SlotTable.owed (t : SlotTable) (h : Handle) (list : BufferList) : Nat :=
  match t.adapter? h with
  | some a => a.sends.held.count list
  | none => 0

section Counting

variable (h : Handle) (list : BufferList)

@[simp] theorem completions_nil : completions h list [] = 0 := rfl

@[simp] theorem completions_append (events more : List Event) :
    completions h list (events ++ more) = completions h list events + completions h list more := by
  simp [completions]

theorem completions_of_silent {events : List Event} (silent : hostCalls events = []) :
    completions h list events = 0 := by
  rw [completions, silent, List.countP_nil]

theorem completions_of_unsettling {events : List Event} (unsettling : Unsettling events) :
    completions h list events = 0 := by
  apply List.countP_eq_zero.2
  intro call member
  have quiet := unsettling call member
  cases call <;> simp_all [HostCall.completes, HostCall.settles]

theorem count_flushed (lists : List BufferList) (other : Handle) (status : Status) :
    (lists.map fun given => HostCall.sendComplete other given status).countP
        (HostCall.completes h list) =
      if other = h then lists.count list else 0 := by
  rw [List.countP_map]
  split
  · rename_i same
    subst same
    apply List.countP_congr
    intro given _
    simp [HostCall.completes]
  · rename_i differ
    apply List.countP_eq_zero.2
    intro given _
    simp [HostCall.completes, differ]

end Counting

/-! ## One adapter at work -/

namespace Adapter

theorem sendRefused_completions (h : Handle) (list : BufferList) (other : Handle)
    (given : BufferList) (status : Status) :
    completions h list (sendRefused other given status) =
      if other = h ∧ given = list then 1 else 0 := by
  simp [completions, sendRefused, List.countP_cons, HostCall.completes]

theorem refused_completions (h : Handle) (list : BufferList) (other : Handle)
    (lists : List BufferList) (status : Status) :
    completions h list (lists.flatMap fun given => sendRefused other given status) =
      if other = h then lists.count list else 0 := by
  induction lists with
  | nil => simp
  | cons given lists ih =>
    rw [List.flatMap_cons, completions_append, sendRefused_completions, ih, List.count_cons]
    by_cases same : other = h
    · by_cases here : given = list
      · simp [same, here, Nat.add_comm]
      · simp [same, here]
    · simp [same]

/-- Each list that is handed over is held or goes back. -/
theorem sendAll_balance (h : Handle) (list : BufferList) (lists : List BufferList) (a : Adapter) :
    completions h list (sendAll h lists a).events + (sendAll h lists a).state.sends.held.count list =
      a.sends.held.count list + lists.count list := by
  induction lists generalizing a with
  | nil => simp [sendAll]
  | cons first lists ih =>
    rw [sendAll]
    simp only [Outcome.andThen_events, Outcome.andThen_state, Outcome.after_events,
      Outcome.after_state, completions_append, send_events, completions_nil, Nat.zero_add]
    have rest := ih (a.send first).state
    rcases a.send_cases first with ⟨sends, taken, -, same⟩ | ⟨status, same⟩
    · have held := (InFlight.insert?_held taken).2.1.count_eq list
      rw [List.count_cons] at held
      rw [same] at rest ⊢
      simp only [Outcome.quiet_state, Outcome.quiet_answer, completions_nil] at rest ⊢
      rw [List.count_cons]
      omega
    · rw [same] at rest ⊢
      simp only [Outcome.quiet_state, Outcome.quiet_answer, sendRefused_completions, true_and]
        at rest ⊢
      rw [List.count_cons]
      simp only [beq_iff_eq]
      omega

/-- Other adapters do not hear of it. -/
theorem sendAll_completions_other {h other : Handle} (differ : other ≠ h) (list : BufferList)
    (lists : List BufferList) (a : Adapter) :
    completions h list (sendAll other lists a).events = 0 := by
  induction lists generalizing a with
  | nil => rfl
  | cons first lists ih =>
    rw [sendAll]
    simp only [Outcome.andThen_events, Outcome.after_events, completions_append, send_events,
      completions_nil, Nat.zero_add, ih, Nat.add_zero]
    split
    · rfl
    · simp [sendRefused_completions, differ]

theorem takeBack_sends (a : Adapter) (list : BufferList) :
    (a.takeBack list).state.sends = a.sends := by
  cases gone : a.receives.remove? list with
  | none =>
    rw [takeBack_of_absent gone]
    rfl
  | some receives =>
    rw [takeBack_of_held gone]
    exact (settlePause_onlyMoves _).sends

theorem takeBackAll_sends (h : Handle) (lists : List BufferList) (a : Adapter) :
    (takeBackAll h lists a).state.sends = a.sends := by
  induction lists generalizing a with
  | nil => rfl
  | cons first lists ih => exact (ih _).trans (a.takeBack_sends first)

theorem takeBackAll_completions (h other : Handle) (list : BufferList) (lists : List BufferList)
    (a : Adapter) : completions h list (takeBackAll other lists a).events = 0 := by
  induction lists generalizing a with
  | nil => rfl
  | cons first lists ih =>
    rw [takeBackAll]
    simp only [Outcome.andThen_events, Outcome.after_events, completions_append,
      completions_of_silent h list (a.takeBack_calls first), ih, Nat.zero_add, Nat.add_zero]
    split <;> rfl

end Adapter

/-! ## One request -/

theorem Request.submits_of_errand {request : Request} (h : Handle) (list : BufferList)
    (errand : ∀ v, request.errand ≠ .visit v) : request.submits h list = 0 := by
  cases request
  case send => exact absurd rfl (errand _)
  all_goals rfl

namespace Driver

variable (h : Handle) (list : BufferList)

/-- A list that was sent goes back if it was held. -/
theorem completeSend_balance (a : Adapter) (handle : Handle) (given : BufferList)
    (status : Status) :
    completions h list ((Visit.completeSend handle given status).work a).events +
        (if handle = h then
          ((Visit.completeSend handle given status).work a).state.sends.held.count list else 0) =
      if handle = h then a.sends.held.count list else 0 := by
  cases gone : a.sends.remove? given with
  | none =>
    rw [Visit.completeSend_of_absent gone, Outcome.quiet_events, Outcome.quiet_state,
      completions_nil, Nat.zero_add]
  | some sends =>
    have held := (InFlight.remove?_held gone).1.count_eq list
    have calls : completions h list ((Visit.completeSend handle given status).work a).events =
        if handle = h ∧ given = list then 1 else 0 := by
      rw [completions, Visit.completeSend_calls gone, List.countP_cons]
      split <;> simp [HostCall.completes]
    rw [calls, Visit.completeSend_of_held gone, (Adapter.settlePause_onlyMoves _).sends]
    rw [List.count_cons] at held
    by_cases same : handle = h
    · simp only [same, true_and, if_true, held, beq_iff_eq]
      omega
    · simp [same]

/-- Work balances for the adapter that does it, and no other one hears of it. -/
theorem work_balance {request : Request} {v : Visit} (errand : request.errand = .visit v)
    (a : Adapter) :
    completions h list (v.work a).events +
        (if v.adapter = h then (v.work a).state.sends.held.count list else 0) =
      (if v.adapter = h then a.sends.held.count list else 0) + request.submits h list := by
  -- Work that neither takes nor completes sends balances trivially.
  have apart : completions h list (v.work a).events = 0 → (v.work a).state.sends = a.sends →
      request.submits h list = 0 →
      completions h list (v.work a).events +
          (if v.adapter = h then (v.work a).state.sends.held.count list else 0) =
        (if v.adapter = h then a.sends.held.count list else 0) + request.submits h list := by
    intro none same idle
    rw [none, same, idle, Nat.zero_add, Nat.add_zero]
  cases Request.visits_of_errand errand with
  | pause handle =>
    have moves := a.pause_onlyMoves
    exact apart (completions_of_silent h list moves.calls) moves.sends rfl
  | restart handle flags =>
    have moves := a.restart_onlyMoves flags
    exact apart (completions_of_silent h list moves.calls) moves.sends rfl
  | accessAttribute handle request =>
    obtain ⟨⟨filter, vlan, multicast, same⟩, silent⟩ := a.serve_onlySets request
    exact apart (completions_of_silent h list silent) (by
      change (a.serve request).state.sends = a.sends
      rw [same]) rfl
  | send level handle lists flags =>
    simp only [Visit.after, Visit.send, Outcome.after_events, Outcome.after_state, Outcome.map_events,
      Outcome.map_state, completions_append, Request.submits,
      completions_of_silent h list (Request.levelWarning_calls _ _), Nat.zero_add]
    by_cases same : handle = h
    · subst same
      simp only [if_true]
      exact Adapter.sendAll_balance handle list lists a
    · simp only [same, if_false]
      exact Adapter.sendAll_completions_other same list lists a
  | takeBack level handle lists flags =>
    refine apart ?_ (a.takeBackAll_sends handle lists) rfl
    simp only [Visit.after, Visit.takeBack, Outcome.after_events, Outcome.map_events,
      completions_append, completions_of_silent h list (Request.levelWarning_calls _ _),
      Adapter.takeBackAll_completions]
  | completeSend handle given status =>
    exact completeSend_balance h list a handle given status
  | indicate handle given =>
    rcases Visit.indicate_cases a handle given with ⟨receives, -, -, same⟩ | ⟨status, same⟩
    · exact apart (by rw [same]; rfl) (by rw [same]) rfl
    · exact apart (by rw [same]; rfl) (by rw [same]; rfl) rfl

/-- Without its adapter, a request gives back all that it hands over. -/
theorem missed_balance {request : Request} {v : Visit} (errand : request.errand = .visit v)
    (why : Error) : completions h list (v.missed why).2 = request.submits h list := by
  cases Request.visits_of_errand errand with
  | send level handle lists flags =>
    simp only [Visit.after, Visit.send, completions_append, Request.submits,
      completions_of_silent h list (Request.levelWarning_calls _ _), Nat.zero_add]
    exact Adapter.refused_completions h list handle lists why.status
  | takeBack level handle lists flags =>
    simp only [Visit.after, Visit.takeBack, completions_append,
      completions_of_silent h list (Request.levelWarning_calls _ _), Nat.zero_add]
    rfl
  | _ => rfl

theorem owed_of_locate {t : SlotTable} {k : Handle} {i : Fin maxAdapters} {owned : Owned Adapter}
    (found : t.locate k = .ok (i, owned)) : t.owed k list = owned.value.sends.held.count list := by
  rw [SlotTable.owed, SlotTable.adapter?_of_locate found]

theorem owed_of_missing {t : SlotTable} (missing : t.adapter? h = none) : t.owed h list = 0 := by
  rw [SlotTable.owed, missing]

theorem owed_rewrite {t : SlotTable} {k : Handle} {i : Fin maxAdapters} {owned : Owned Adapter}
    (found : t.locate k = .ok (i, owned)) (a : Adapter) :
    (t.put i { t.slot i with occupant := some ⟨owned.block, a⟩ }).owed h list =
      if k = h then a.sends.held.count list else t.owed h list := by
  rw [SlotTable.owed, SlotTable.adapter?_rewrite found]
  by_cases here : h = k
  · rw [if_pos here, if_pos here.symm]
  · rw [if_neg here, if_neg fun same => here same.symm]
    rfl

theorem owed_vacate (t : SlotTable) (i : Fin maxAdapters) :
    (t.vacate i).owed h list = if t.handleAt i = h then 0 else t.owed h list := by
  rw [SlotTable.owed, SlotTable.adapter?_vacate]
  by_cases here : h = t.handleAt i
  · rw [if_pos here, if_pos here.symm]
  · rw [if_neg here, if_neg fun same => here same.symm]
    rfl

theorem owed_vacate_free {t : SlotTable} {i : Fin maxAdapters} (free : (t.slot i).occupant = none) :
    (t.vacate i).owed h list = t.owed h list := by
  rw [owed_vacate]
  split
  · rename_i here
    rw [owed_of_missing h list (SlotTable.adapter?_of_slot (by rw [← here]; rfl) (.inr free))]
  · rfl

/-- An adapter that moves in owes nothing. -/
theorem owed_fill {t : SlotTable} {i : Fin maxAdapters} {owned : Owned Adapter}
    (free : (t.slot i).occupant = none) (nothing : owned.value.sends.held = [])
    (interface : Option Interface) :
    (t.put i ⟨some owned, interface, (t.slot i).generation + 1⟩).owed h list = t.owed h list := by
  rw [SlotTable.owed, SlotTable.adapter?_fill free]
  by_cases here : h = t.nextHandle i
  · have unnamed : t.adapter? h = none := SlotTable.adapter?_of_slot (by rw [here]; rfl) (.inr free)
    rw [if_pos here, owed_of_missing h list unnamed]
    simp [nothing]
  · rw [if_neg here]
    rfl

/-- **Every request balances**: what it hands over is owed afterwards or given back, and so is what
was owed before. -/
theorem serve_balance {d : Driver} (coherent : d.slots.Coherent) (answers : HostAnswers)
    (request : Request) :
    completions h list (d.serve answers request).events +
        (d.serve answers request).state.slots.owed h list =
      d.slots.owed h list + request.submits h list := by
  have unasked : (∀ v, request.errand ≠ .visit v) → request.submits h list = 0 :=
    request.submits_of_errand h list
  cases d.serve_step answers request with
  | aside errand undisturbed =>
    rw [undisturbed.slots, completions_of_unsettling h list undisturbed.unsettling,
      unasked (by simp [errand])]
    omega
  | missed errand missing same =>
    rw [same, missed_balance h list errand, Nat.add_comm]
  | @visited v i owned errand found same =>
    have balance := work_balance h list errand owned.value
    rw [same, withSlots_slots, owed_rewrite h list found]
    by_cases here : v.adapter = h
    · subst here
      rw [owed_of_locate list found]
      simpa using balance
    · simp only [here, if_false] at balance ⊢
      omega
  | declined errand slots answer unsettling =>
    rw [slots, completions_of_unsettling h list unsettling, unasked (by simp [errand])]
    omega
  | created errand unused free value slots answer unsettling =>
    have nothing := congrArg (fun a => a.sends.held) value
    rw [slots, completions_of_unsettling h list unsettling, unasked (by simp [errand]),
      owed_fill h list (SlotTable.firstFree?_vacant free) (nothing.trans InFlight.held_empty)]
    omega
  | stopped errand missing slots answer silent =>
    rw [slots, completions_of_silent h list silent, unasked (by simp [errand])]
    omega
  | @halted handle action i owned errand found slots answer calls =>
    obtain ⟨holds, at_⟩ := SlotTable.locate_eq_ok.1 found
    rw [completions, calls, count_flushed, slots, owed_vacate, unasked (by simp [errand]),
      coherent.handle i owned holds, ← at_]
    by_cases here : handle = h
    · subst here
      rw [if_pos rfl, if_pos rfl, owed_of_locate list found]
    · rw [if_neg here, if_neg here]
      omega

/-! ## All requests -/

theorem run_balance {d : Driver} (started : d.Started) (requests : List (HostAnswers × Request)) :
    submissions h list requests =
      completions h list (d.run requests).events + (d.run requests).state.slots.owed h list := by
  have books : ∀ (requests : List (HostAnswers × Request)) (d : Driver), (∃ past, Agrees past d) →
      completions h list (d.run requests).events + (d.run requests).state.slots.owed h list =
        d.slots.owed h list + submissions h list requests := by
    intro requests
    induction requests with
    | nil => intro d _; simp [run, submissions]
    | cons first requests ih =>
      intro d ⟨past, agrees⟩
      have now := serve_balance h list agrees.coherent first.1 first.2
      have later := ih _ ⟨_, agrees.step first.1 first.2⟩
      obtain ⟨state, events⟩ := d.run_cons first.1 first.2 requests
      rw [state, events, completions_append]
      rw [submissions]
      omega
  have none : d.slots.owed h list = 0 := by
    rw [started.spec.1]
    exact owed_of_missing h list (SlotTable.adapter?_empty h)
  have whole := books requests d ⟨[], run_agrees started []⟩
  omega

end Driver

end PacketRadio
