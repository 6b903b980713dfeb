import PacketRadio.Proofs.Driver.Reachable
import PacketRadio.Proofs.Driver.Teardown

/-!
# The blocks of a driver in a shared arena

A driver is made in an arena in which blocks of others are live, and which nobody else uses while it
runs. Then what is live is known exactly: the blocks of the others, one for the context, and one for
each adapter. An adapter keeps its block from its creation until it is halted, wherever the box that
owns the block goes meanwhile, and the arena takes every block back.
-/

namespace PacketRadio

open Pool

namespace SlotTable

/-- The adapter that `h` names lies in `block`. -/
def LiesIn (t : SlotTable) (h : Handle) (block : Block) : Prop :=
  ∃ i owned, (t.slot i).occupant = some owned ∧ owned.block = block ∧ h = t.handleAt i

theorem LiesIn.put_other {t : SlotTable} {h : Handle} {block : Block} (lies : t.LiesIn h block)
    {i : Fin maxAdapters} (other : h ≠ t.handleAt i ∨ (t.slot i).occupant = none) (s : Slot) :
    (t.put i s).LiesIn h block := by
  obtain ⟨j, owned, holds, place, rfl⟩ := lies
  have apart : j ≠ i := by
    rintro rfl
    rcases other with other | free
    · exact other rfl
    · rw [free] at holds
      cases holds
  have same := slot_put_other t s apart
  exact ⟨j, owned, by rw [same]; exact holds, place, by rw [handleAt, handleAt, same]⟩

/-- An adapter that works stays in its block, and so do the others. -/
theorem LiesIn.rewrite {t : SlotTable} {h : Handle} {block : Block} (lies : t.LiesIn h block)
    {i : Fin maxAdapters} {owned : Owned Adapter} (holds : (t.slot i).occupant = some owned)
    (a : Adapter) :
    (t.put i { t.slot i with occupant := some ⟨owned.block, a⟩ }).LiesIn h block := by
  by_cases here : h = t.handleAt i
  · obtain ⟨j, owner, there, place, same⟩ := lies
    have : j = i := slotNumber_inj (congrArg Handle.slot (same.symm.trans here))
    subst this
    cases there.symm.trans holds
    refine ⟨j, ⟨owned.block, a⟩, by rw [slot_put_same], place, ?_⟩
    rw [here, handleAt, handleAt, slot_put_same]
  · exact lies.put_other (.inl here) _

end SlotTable

namespace Driver

/-! ## Where an adapter lies -/

/-- **An adapter that comes up lies in the block that was handed out for it.** -/
theorem serve_places {d : Driver} {answers : HostAnswers} {request : Request} {h : Handle}
    (answer : (d.serve answers request).answer = .ok (.adapter h)) :
    ∃ block, (d.arena.allocateFor Adapter).answer = .ok block ∧
      (d.serve answers request).state.slots.LiesIn h block := by
  cases d.serve_step answers request with
  | aside errand undisturbed => exact absurd answer (undisturbed.answer h)
  | @missed v why errand missing same =>
    rw [same] at answer
    exact absurd (Except.ok.inj answer) (missed_answer errand why h)
  | @visited v i owned errand found same =>
    rw [same] at answer
    exact absurd (Except.ok.inj answer) (work_answer errand owned.value h)
  | declined errand slots told unsettling => exact absurd answer (told h)
  | @created p refuse i owned config errand unused free value slots told unsettling got =>
    cases told.symm.trans answer
    refine ⟨owned.block, got, i, owned, ?_, rfl, ?_⟩
    · rw [slots, SlotTable.slot_put_same]
    · rw [slots, SlotTable.handleAt, SlotTable.slot_put_same]
      rfl
  | stopped errand missing slots told silent => exact absurd answer (told h)
  | halted errand found slots told calls => exact absurd answer (told h)

/-- **An adapter that is not halted stays where it is**, whatever becomes of the others. -/
theorem serve_liesIn {d : Driver} {h : Handle} {block : Block} (lies : d.slots.LiesIn h block)
    (answers : HostAnswers) {request : Request} (unhalted : request.halts? ≠ some h) :
    (d.serve answers request).state.slots.LiesIn h block := by
  have halts := request.wants_of_errand.2
  cases d.serve_step answers request with
  | aside errand undisturbed => rwa [undisturbed.slots]
  | missed errand missing same => rwa [same]
  | visited errand found same =>
    rw [same]
    exact lies.rewrite (SlotTable.locate_eq_ok.1 found).1 _
  | declined errand slots answer unsettling => rwa [slots]
  | created errand unused free value slots answer unsettling =>
    rw [slots]
    exact lies.put_other (.inr (SlotTable.firstFree?_vacant free)) _
  | stopped errand missing slots answer silent => rwa [slots]
  | halted errand found slots answer calls =>
    rw [errand] at halts
    rw [slots]
    refine lies.put_other (.inl fun same => unhalted ?_) _
    rw [halts, same, (SlotTable.locate_eq_ok.1 found).2]

theorem run_liesIn {d : Driver} {h : Handle} {block : Block} (lies : d.slots.LiesIn h block)
    {requests : List (HostAnswers × Request)}
    (unhalted : ∀ asked ∈ requests, asked.2.halts? ≠ some h) :
    (d.run requests).state.slots.LiesIn h block := by
  induction requests generalizing d with
  | nil => exact lies
  | cons first requests ih =>
    obtain ⟨now, later⟩ := List.forall_mem_cons.1 unhalted
    exact ih (serve_liesIn lies first.1 now) later

/-- **The block of an adapter that is halted, and no other one, goes back.** -/
theorem serve_releases {d : Driver} {others : List Record} (housed : d.Housed others) {h : Handle}
    {block : Block} (lies : d.slots.LiesIn h block) (answers : HostAnswers) {request : Request}
    (halts : request.halts? = some h) :
    (d.serve answers request).answer = .ok .done ∧
      d.arena.live.Perm (block.recordFor Adapter :: (d.serve answers request).state.arena.live) := by
  obtain ⟨i, owned, holds, rfl, at_⟩ := lies
  have found : d.slots.locate h = .ok (i, owned) := SlotTable.locate_eq_ok.2 ⟨holds, at_⟩
  obtain ⟨back, -, -, live⟩ :=
    Arena.surrenderOf_of_hosts housed.lodging.sound (housed.lodging.hosts holds)
  obtain ⟨action, errand⟩ := Request.errand_of_halts halts
  obtain ⟨answer, state, -⟩ := Context.haltAdapter_of_found found d.arena action
  rw [serve_halt errand]
  simp only [onBoth, Outcome.within_answer, Outcome.map_answer, Outcome.within_state,
    Outcome.map_state, answer, state, back]
  exact ⟨rfl, live⟩

/-! ## No fault -/

/-- What neither brings an adapter up nor down is always answered. -/
theorem serve_answers {request : Request}
    (plain : request.errand = .aside ∨ ∃ v, request.errand = .visit v) (d : Driver)
    (answers : HostAnswers) : ∃ response, (d.serve answers request).answer = .ok response := by
  cases request
  case halt handle action =>
    cases handle with
    | none => exact ⟨_, rfl⟩
    | some handle => rcases plain with errand | ⟨v, errand⟩ <;> cases errand
  case createAdapter => rcases plain with errand | ⟨v, errand⟩ <;> cases errand
  case bringUp => rcases plain with errand | ⟨v, errand⟩ <;> cases errand
  case haltAdapter => rcases plain with errand | ⟨v, errand⟩ <;> cases errand
  all_goals exact ⟨_, rfl⟩

theorem createAdapter_answers (c : Context) {arena : Arena} (sound : arena.Sound)
    (answers : HostAnswers) (p : Parameters) :
    (∃ handle, (c.createAdapter arena answers p).answer = .ok handle) ∨
      ∃ why, (c.createAdapter arena answers p).answer = .error (.refused why) := by
  have lodges := fun i => Adapter.create_lodges sound (c.slots.nextHandle i) p.interface
    (c.settingsFor p)
  cases c.createAdapter_creation arena answers p with
  | turnedAway answer => exact .inr ⟨_, answer⟩
  | @unmade i why made answer =>
    obtain ⟨-, -, ⟨owned, same, -⟩ | ⟨why, refused, -⟩⟩ := lodges i
    · cases made.symm.trans same
    · cases made.symm.trans refused
      exact .inr ⟨_, answer⟩
  | @withdrawn i owned why made answer =>
    obtain ⟨sound, id, ⟨owned, same, own, live⟩ | ⟨why, refused, -⟩⟩ := lodges i
    · cases made.symm.trans same
      obtain ⟨back, -⟩ := Arena.surrenderOf_of_new sound id own live
      rw [back] at answer
      exact .inr ⟨_, answer⟩
    · cases made.symm.trans refused
  | installed _ _ _ answer => exact .inl ⟨_, answer⟩

/-- **The arena takes every block that the driver gives back.** -/
theorem serve_faultless {d : Driver} {others : List Record} (housed : d.Housed others)
    (answers : HostAnswers) (request : Request) (fault : Fault) :
    (d.serve answers request).answer ≠ .error (.pool fault) := by
  have answered : (∃ response, (d.serve answers request).answer = .ok response) →
      (d.serve answers request).answer ≠ .error (.pool fault) := by
    rintro ⟨response, answer⟩
    rw [answer]
    rintro ⟨⟩
  cases errand : request.errand with
  | aside => exact answered (serve_answers (.inl errand) d answers)
  | visit v => exact answered (serve_answers (.inr ⟨v, errand⟩) d answers)
  | create p refuse =>
    rw [serve_create errand]
    simp only [onBoth, Outcome.within_answer, Outcome.map_answer]
    rcases createAdapter_answers d.context.value housed.lodging.sound answers p with
      ⟨handle, answer⟩ | ⟨why, answer⟩
    · rw [answer]
      rintro ⟨⟩
    · rw [answer]
      rintro ⟨⟩
  | halt handle action =>
    rw [serve_halt errand]
    cases found : d.slots.locate handle with
    | error why =>
      obtain ⟨⟨check, answer⟩, -⟩ := Context.haltAdapter_of_missing found d.arena action
      simp only [onBoth, Outcome.within_answer, Outcome.map_answer, answer]
      rintro ⟨⟩
    | ok there =>
      obtain ⟨i, owned⟩ := there
      obtain ⟨back, -⟩ := housed.lodging.vacate (SlotTable.locate_eq_ok.1 found).1
      obtain ⟨answer, -⟩ := Context.haltAdapter_of_found found d.arena action
      simp only [onBoth, Outcome.within_answer, Outcome.map_answer, answer, back]
      rintro ⟨⟩

/-! ## Runs -/

/-- The driver was made in `arena`. -/
inductive MadeIn (arena : Arena) : Driver → Prop
  | created {activity : Activity} {config : DriverConfig} {owned : Owned Context}
      (made : (Context.create arena activity config).answer = .ok owned) :
      MadeIn arena ⟨owned, (Context.create arena activity config).state.1⟩
  | loaded {activity : Activity} {answers : HostAnswers} {driver : DriverObject} {path : String}
      {config : DriverConfig} {owned : Owned Context}
      (made : (Context.load arena activity answers driver path config).answer = .ok owned) :
      MadeIn arena ⟨owned, (Context.load arena activity answers driver path config).state.1⟩

theorem MadeIn.started {arena : Arena} (opened : arena.Opened) {d : Driver} (made : d.MadeIn arena) :
    d.Started := by
  cases made with
  | created made => exact .created opened _ _ made
  | loaded made => exact .loaded opened _ _ _ _ _ made

theorem MadeIn.housed {arena : Arena} (opened : arena.Opened) {d : Driver}
    (made : d.MadeIn arena) : d.Housed arena.live := by
  cases made with
  | created made =>
    obtain ⟨got, state, slots⟩ := Context.create_made made
    exact housed_of_new opened.sound slots got state
  | loaded made =>
    obtain ⟨first, created, rfl, same⟩ := Context.load_made made
    obtain ⟨got, state, slots⟩ := Context.create_made created
    refine housed_of_new opened.sound ?_ got ((congrArg Prod.fst same).trans state)
    exact (first.value.register_slots _ _ _).trans slots

theorem MadeIn.opened {arena : Arena} (opened : arena.Opened) {d : Driver} (made : d.MadeIn arena) :
    d.arena.Opened := by
  cases made with
  | created made => exact Context.create_opened opened made
  | loaded made => exact Context.load_opened opened made

/-- All that is live in the arena of `d` is known, and no block of the driver's is lost, moved, or
given back when it should not be. -/
structure KeepsBlocks (others : List Record) (d : Driver) : Prop where
  /-- One block for each adapter, one for the context, and those of the others. -/
  live : d.arena.live.Perm (d.slots.tenants ++ d.context.block.recordFor Context :: others)
  own : d.context.block.arena = d.arena.id ∧
    ∀ i owned, (d.slots.slot i).occupant = some owned → owned.block.arena = d.arena.id
  apart : (d.arena.live.map Record.offset).Nodup
  counted : d.arena.stats.liveBlocks = others.length + 1 + d.slots.inUseCount
  /-- No request ends with a block that the arena does not take. -/
  faultless : ∀ answers request fault,
    (d.serve answers request).answer ≠ .error (.pool fault)
  /-- Neither does the end of the driver. -/
  ends : ∀ activity, (Context.discard (some d.context) d.arena activity).answer = .ok () ∧
    (Context.unload (some d.context) d.arena activity).answer = .ok ()
  comes : ∀ answers request h, (d.serve answers request).answer = .ok (.adapter h) →
    ∃ block, (d.arena.allocateFor Adapter).answer = .ok block ∧
      (d.serve answers request).state.slots.LiesIn h block
  stays : ∀ h block, d.slots.LiesIn h block → ∀ requests : List (HostAnswers × Request),
    (∀ asked ∈ requests, asked.2.halts? ≠ some h) → (d.run requests).state.slots.LiesIn h block
  goes : ∀ h block, d.slots.LiesIn h block → ∀ answers request, request.halts? = some h →
    (d.serve answers request).answer = .ok .done ∧
      d.arena.live.Perm (block.recordFor Adapter :: (d.serve answers request).state.arena.live)

/-- **Whatever a driver is asked to do in a shared arena, it keeps its blocks in order** and leaves
those of the others alone. -/
theorem run_keepsBlocks {arena : Arena} (opened : arena.Opened) {d : Driver}
    (made : d.MadeIn arena) (requests : List (HostAnswers × Request)) :
    (d.run requests).state.KeepsBlocks arena.live := by
  have housed : (d.run requests).state.Housed arena.live :=
    run_keeps (P := Housed arena.live) (fun _ answers request before =>
      serve_housed before answers request) (made.housed opened) requests
  have opened' : (d.run requests).state.arena.Opened :=
    run_keeps (P := fun e => e.arena.Opened) (fun _ answers request before =>
      serve_opened before answers request) (made.opened opened) requests
  have coherent := (run_agrees (made.started opened) requests).coherent
  refine {
    live := housed.lodging.live
    own := ⟨housed.own, housed.lodging.own⟩
    apart := opened'.sound.offsets_nodup
    counted := ?_
    faultless := fun answers request fault => serve_faultless housed answers request fault
    ends := fun activity => ⟨(housed.discard coherent activity).answer,
      (housed.unload coherent activity).answer⟩
    comes := fun answers request h answer => serve_places answer
    stays := fun h block lies requests unhalted => run_liesIn lies unhalted
    goes := fun h block lies answers request halts => serve_releases housed lies answers halts }
  have count : (d.run requests).state.arena.stats.liveBlocks =
      (d.run requests).state.arena.live.length := opened'.counted
  have length := housed.lodging.live.length_eq
  rw [List.length_append, List.length_cons, SlotTable.length_tenants] at length
  omega

/-- A region in which somebody has a block, behind a hole that is too small for an adapter. -/
def sharedRegion : Arena :=
  ((Arena.fresh 1 4096 16384).run
    [.allocate ⟨512, 1⟩ ⟨0, rfl⟩ 512 Tag.generic, .allocate ⟨100, 1⟩ ⟨0, rfl⟩ 100 Tag.generic,
      .release (some ⟨1, 0⟩) Tag.generic]).state

theorem churned_keepsBlocks :
    sharedRegion.Opened ∧
      ∃ d : Driver, d.MadeIn sharedRegion ∧ (d.run churned).state.KeepsBlocks sharedRegion.live := by
  have fresh : (Arena.fresh 1 4096 16384).Opened := ⟨1, 4096, 16384, _, _, [], rfl, rfl⟩
  have opened : sharedRegion.Opened := fresh.run _
  have made : (Context.create sharedRegion .initial {}).answer =
      .ok ⟨⟨1, 616⟩, Context.fresh 1 {}⟩ := by decide +kernel
  exact ⟨opened, _, .created made, run_keepsBlocks opened (.created made) churned⟩

end Driver

end PacketRadio
