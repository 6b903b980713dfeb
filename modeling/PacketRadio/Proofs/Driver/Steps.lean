import PacketRadio.Proofs.Driver.Lifespan

/-!
# Steps of a driver

All that serving a request can do to the slots of a driver, and to its host. An adapter works, comes
or goes; every other adapter stays as it is.
-/

namespace PacketRadio

open Pool

namespace Driver

/-- What serving `request` does, as far as slots and host are concerned. -/
inductive Step (d : Driver) (request : Request)
    (o : Outcome Event Driver (Except Fatal Response)) : Prop
  | aside (errand : request.errand = .aside) (undisturbed : Undisturbed d o)
  /-- The adapter that is to work is not there. -/
  | missed {v : Visit} {why : Error} (errand : request.errand = .visit v)
      (missing : d.slots.locate v.adapter = .error why)
      (same : o = ⟨.ok (v.missed why).1, d, (v.missed why).2⟩)
  | visited {v : Visit} {i : Fin maxAdapters} {owned : Owned Adapter}
      (errand : request.errand = .visit v) (found : d.slots.locate v.adapter = .ok (i, owned))
      (same : o =
        ⟨.ok (v.work owned.value).answer,
          d.withSlots (d.slots.put i
            { d.slots.slot i with occupant := some ⟨owned.block, (v.work owned.value).state⟩ }),
          (v.work owned.value).events⟩)
  /-- No adapter comes up. -/
  | declined {p : Parameters} {refuse : Error → Response}
      (errand : request.errand = .create p refuse) (slots : o.state.slots = d.slots)
      (answer : ∀ handle, o.answer ≠ .ok (.adapter handle)) (unsettling : Unsettling o.events)
  | created {p : Parameters} {refuse : Error → Response} {i : Fin maxAdapters}
      {owned : Owned Adapter} {config : AdapterConfig}
      (errand : request.errand = .create p refuse)
      (unused : d.slots.findInterface? p.interface = none) (free : d.slots.firstFree? = some i)
      (value : owned.value = Adapter.setUpFor (d.slots.nextHandle i) p.interface config)
      (slots : o.state.slots = d.slots.put i
        ⟨some owned, some p.interface, (d.slots.slot i).generation + 1⟩)
      (answer : o.answer = .ok (.adapter (d.slots.nextHandle i)))
      (unsettling : Unsettling o.events)
      (got : (d.arena.allocateFor Adapter).answer = .ok owned.block)
  /-- What is to be brought down is not there. -/
  | stopped {handle : Handle} {action : HaltAction} {why : Error}
      (errand : request.errand = .halt handle action)
      (missing : d.slots.locate handle = .error why) (slots : o.state.slots = d.slots)
      (answer : ∀ handle, o.answer ≠ .ok (.adapter handle)) (silent : hostCalls o.events = [])
  | halted {handle : Handle} {action : HaltAction} {i : Fin maxAdapters} {owned : Owned Adapter}
      (errand : request.errand = .halt handle action)
      (found : d.slots.locate handle = .ok (i, owned))
      (slots : o.state.slots = d.slots.vacate i)
      (answer : ∀ handle, o.answer ≠ .ok (.adapter handle))
      (calls : hostCalls o.events =
        owned.value.sends.held.map fun list => .sendComplete owned.value.handle list .failure)

/-- A refusal is never told as a handle. -/
theorem readCreated_error {request : Request} {p : Parameters} {refuse : Error → Response}
    (errand : request.errand = .create p refuse) (why : Failure) (handle : Handle) :
    readCreated refuse (.error why) ≠ .ok (.adapter handle) := by
  have told : ∀ error, refuse error ≠ .adapter handle := by
    cases request
    case halt handle action => cases handle <;> cases errand
    all_goals cases errand
    all_goals exact nofun
  cases why with
  | refused error => exact fun same => told error (Except.ok.inj same)
  | fatal why => exact nofun

theorem step_create {request : Request} {p : Parameters} {refuse : Error → Response}
    (errand : request.errand = .create p refuse) (d : Driver) (answers : HostAnswers) :
    Step d request (d.serve answers request) := by
  have told := readCreated_error errand
  have quiet := d.context.value.createAdapter_unsettling d.arena answers p
  rw [serve_create errand]
  rcases d.context.value.createAdapter_creation d.arena answers p with
    ⟨answer, state⟩ | ⟨made, answer, state⟩ | ⟨made, answer, state⟩ |
    ⟨unused, free, made, answer, state⟩
  · refine .declined errand ?_ ?_ quiet
    · simp only [onBoth, Outcome.within_state, Outcome.map_state, state]
    · simp only [onBoth, Outcome.within_answer, Outcome.map_answer, answer]
      exact told _
  · refine .declined errand ?_ ?_ quiet
    · simp only [onBoth, Outcome.within_state, Outcome.map_state, state]
    · simp only [onBoth, Outcome.within_answer, Outcome.map_answer, answer]
      exact told _
  · refine .declined errand ?_ ?_ quiet
    · simp only [onBoth, Outcome.within_state, Outcome.map_state, state]
    · simp only [onBoth, Outcome.within_answer, Outcome.map_answer, answer]
      split <;> exact told _
  · rename_i i owned
    obtain ⟨value, got⟩ := Adapter.create_made made
    refine .created errand unused free value ?_ ?_ quiet got
    · simp only [onBoth, Outcome.within_state, Outcome.map_state, state]
    · simp only [onBoth, Outcome.within_answer, Outcome.map_answer, answer]
      rfl

theorem step_halt {request : Request} {handle : Handle} {action : HaltAction}
    (errand : request.errand = .halt handle action) (d : Driver) (answers : HostAnswers) :
    Step d request (d.serve answers request) := by
  have told : ∀ answer : Except Fatal Unit, ∀ handle,
      answer.map (fun _ => Response.done) ≠ .ok (.adapter handle) := by
    intro answer handle
    cases answer <;> exact nofun
  rw [serve_halt errand]
  cases found : d.slots.locate handle with
  | error why =>
    obtain ⟨-, state, calls⟩ := Context.haltAdapter_of_missing found d.arena action
    refine .stopped errand found ?_ (told _) calls
    simp only [onBoth, Outcome.within_state, Outcome.map_state, state]
  | ok there =>
    obtain ⟨i, owned⟩ := there
    obtain ⟨-, state, calls⟩ := Context.haltAdapter_of_found found d.arena action
    refine .halted errand found ?_ (told _) calls
    simp only [onBoth, Outcome.within_state, Outcome.map_state, state]

/-- **Every request takes one of these steps.** -/
theorem serve_step (d : Driver) (answers : HostAnswers) (request : Request) :
    Step d request (d.serve answers request) := by
  cases errand : request.errand with
  | aside => exact .aside errand (serve_aside errand answers)
  | visit v =>
    cases found : d.slots.locate v.adapter with
    | error why => exact .missed errand found (serve_of_missing errand found answers)
    | ok there =>
      obtain ⟨i, owned⟩ := there
      exact .visited errand found (serve_of_found errand found answers)
  | create p refuse => exact step_create errand d answers
  | halt handle action => exact step_halt errand d answers

/-! ## One adapter -/

/-- What becomes of the adapter `h`, if there is one, and of the name if there is none. -/
inductive Fate (d : Driver) (request : Request)
    (o : Outcome Event Driver (Except Fatal Response)) (h : Handle) : Prop
  /-- It was not asked for, or is not there. -/
  | kept (same : o.state.slots.adapter? h = d.slots.adapter? h)
      (unasked : ∀ v, request.errand = .visit v → v.adapter = h → d.slots.adapter? h = none)
      (unhalted : request.halts? ≠ some h) (ungiven : o.answer ≠ .ok (.adapter h))
  | worked {v : Visit} {a : Adapter} (errand : request.errand = .visit v) (here : v.adapter = h)
      (before : d.slots.adapter? h = some a)
      (after : o.state.slots.adapter? h = some (v.work a).state)
      (answer : o.answer = .ok (v.work a).answer) (events : o.events = (v.work a).events)
  | arrived {interface : Interface} {config : AdapterConfig} (unhalted : request.halts? ≠ some h)
      (before : d.slots.adapter? h = none)
      (after : o.state.slots.adapter? h = some (Adapter.setUpFor h interface config))
      (answer : o.answer = .ok (.adapter h))
  | left (halts : request.halts? = some h) (after : o.state.slots.adapter? h = none)
      (ungiven : o.answer ≠ .ok (.adapter h))

/-- **Every adapter meets one of these fates.** -/
theorem serve_fate (d : Driver) (answers : HostAnswers) (request : Request) (h : Handle) :
    Fate d request (d.serve answers request) h := by
  have halts := request.wants_of_errand.2
  cases d.serve_step answers request with
  | aside errand undisturbed =>
    rw [errand] at halts
    refine .kept (by rw [undisturbed.slots]) ?_ (by simp [halts]) (undisturbed.answer h)
    simp [errand]
  | @missed v why errand missing same =>
    rw [errand] at halts
    refine .kept (by rw [same]) ?_ (by simp [halts]) ?_
    · intro other asked here
      cases errand.symm.trans asked
      rw [← here]
      exact SlotTable.adapter?_of_missing missing
    · rw [same]
      exact fun answer => missed_answer errand why h (Except.ok.inj answer)
  | @visited v i owned errand found same =>
    rw [errand] at halts
    have after := SlotTable.adapter?_rewrite found (v.work owned.value).state h
    by_cases here : h = v.adapter
    · subst here
      rw [if_pos rfl] at after
      rw [same]
      exact .worked errand rfl (SlotTable.adapter?_of_locate found) after rfl rfl
    · rw [if_neg here] at after
      refine .kept (by rw [same]; exact after) ?_ (by simp [halts]) ?_
      · intro other asked there
        cases errand.symm.trans asked
        exact absurd there.symm here
      · rw [same]
        exact fun answer => work_answer errand owned.value h (Except.ok.inj answer)
  | declined errand slots answer unsettling =>
    rw [errand] at halts
    refine .kept (by rw [slots]) ?_ (by simp [halts]) (answer h)
    simp [errand]
  | @created p refuse i owned config errand unused free value slots answer unsettling =>
    rw [errand] at halts
    have vacant := SlotTable.firstFree?_vacant free
    by_cases here : h = d.slots.nextHandle i
    · have before : d.slots.adapter? h = none :=
        SlotTable.adapter?_of_slot (by rw [here]; rfl) (.inr vacant)
      have after : (d.serve answers request).state.slots.adapter? h =
          some (Adapter.setUpFor h p.interface config) := by
        rw [slots, SlotTable.adapter?_fill vacant, if_pos here, value, here]
      exact .arrived (by simp [halts]) before after (by rw [answer, here])
    · refine .kept ?_ (by simp [errand]) (by simp [halts]) ?_
      · rw [slots, SlotTable.adapter?_fill vacant, if_neg here]
      · rw [answer]
        exact fun same => here (Response.adapter.inj (Except.ok.inj same)).symm
  | @stopped handle action why errand missing slots answer silent =>
    rw [errand] at halts
    by_cases here : handle = h
    · subst here
      refine .left halts ?_ (answer handle)
      rw [slots]
      exact SlotTable.adapter?_of_missing missing
    · refine .kept (by rw [slots]) (by simp [errand]) ?_ (answer h)
      rw [halts]
      exact fun same => here (Option.some.inj same)
  | @halted handle action i owned errand found slots answer calls =>
    rw [errand] at halts
    obtain ⟨-, at_⟩ := SlotTable.locate_eq_ok.1 found
    have after := SlotTable.adapter?_vacate d.slots i h
    by_cases here : handle = h
    · subst here
      rw [if_pos at_] at after
      exact .left halts (by rw [slots]; exact after) (answer handle)
    · rw [if_neg fun there => here (at_.trans there.symm)] at after
      refine .kept (by rw [slots]; exact after) (by simp [errand]) ?_ (answer h)
      rw [halts]
      exact fun same => here (Option.some.inj same)

/-- An adapter that comes up is one that has just been set up. -/
theorem serve_brings {d : Driver} {answers : HostAnswers} {request : Request} {h : Handle}
    (answer : (d.serve answers request).answer = .ok (.adapter h)) :
    ∃ interface config, (d.serve answers request).state.slots.adapter? h =
      some (Adapter.setUpFor h interface config) := by
  cases d.serve_fate answers request h with
  | kept same unasked unhalted ungiven => exact absurd answer ungiven
  | @worked v a errand here before after told events =>
    exact absurd (Except.ok.inj (told.symm.trans answer)) (work_answer errand a h)
  | arrived unhalted before after told => exact ⟨_, _, after⟩
  | left halts after ungiven => exact absurd answer ungiven

/-- A request to halt `h` leaves nothing under that name. -/
theorem adapter?_of_halts (d : Driver) (answers : HostAnswers) {request : Request} {h : Handle}
    (halts : request.halts? = some h) :
    (d.serve answers request).state.slots.adapter? h = none := by
  cases d.serve_fate answers request h with
  | kept same unasked unhalted ungiven => exact absurd halts unhalted
  | worked errand here before after answer events =>
    obtain ⟨action, other⟩ := Request.errand_of_halts halts
    cases errand.symm.trans other
  | arrived unhalted before after answer => exact absurd halts unhalted
  | left _ after ungiven => exact after

end Driver

end PacketRadio
