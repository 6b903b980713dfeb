import PacketRadio.Proofs.Driver.Runs

/-!
# The blocks of a driver

What is live in the arena of a driver is the context's block, one block for each adapter in a slot,
and what was live for others before. So every block that the driver gives back is live under its
tag, and the arena takes it.
-/

namespace PacketRadio

open Pool

theorem adapter_layout_ofType : (Pooled.layout Adapter).OfType := ⟨3, rfl⟩

theorem context_layout_ofType : (Pooled.layout Context).OfType := ⟨3, rfl⟩

namespace SlotTable

/-- The record of the block of the adapter in a slot, if there is one. -/
def tenant? (s : Slot) : Option Record := s.occupant.map fun owned => owned.block.recordFor Adapter

/-- The records of the blocks of all adapters. -/
def tenants (t : SlotTable) : List Record :=
  (List.finRange maxAdapters).filterMap fun i => tenant? (t.slot i)

/-- A member of a list without repetitions that is dropped from a selection. -/
theorem filterMap_drop_one {α β : Type} {f g : α → Option β} {i : α} {r : β} (here : f i = some r)
    (gone : g i = none) (same : ∀ j, j ≠ i → f j = g j) {l : List α} (nodup : l.Nodup)
    (member : i ∈ l) : (l.filterMap f).Perm (r :: l.filterMap g) := by
  induction l with
  | nil => cases member
  | cons j l ih =>
    obtain ⟨fresh, nodup⟩ := List.nodup_cons.1 nodup
    by_cases first : j = i
    · subst first
      rw [List.filterMap_cons_some here, List.filterMap_cons_none gone]
      have rest : l.filterMap f = l.filterMap g :=
        List.filterMap_congr fun k there => same k fun same => fresh (same ▸ there)
      rw [rest]
    · have later := ih nodup ((List.mem_cons.1 member).resolve_left fun same => first same.symm)
      cases kept : g j with
      | none =>
        rw [List.filterMap_cons_none ((same j first).trans kept), List.filterMap_cons_none kept]
        exact later
      | some s =>
        rw [List.filterMap_cons_some ((same j first).trans kept), List.filterMap_cons_some kept]
        exact (later.cons s).trans (List.Perm.swap r s _)

theorem tenants_empty : empty.tenants = [] := by
  apply List.filterMap_eq_nil_iff.2
  intro i _
  rw [slot_empty]
  rfl

/-- There is one block for each slot in use. -/
theorem length_tenants (t : SlotTable) : t.tenants.length = t.inUseCount := by
  rw [tenants, inUseCount, toList_slots, List.length_filterMap_eq_countP, List.countP_map]
  congr 1
  funext i
  simp [tenant?, Slot.inUse]

/-- An adapter that leaves takes its block with it. -/
theorem tenants_vacate {t : SlotTable} {i : Fin maxAdapters} {owned : Owned Adapter}
    (holds : (t.slot i).occupant = some owned) :
    t.tenants.Perm (owned.block.recordFor Adapter :: (t.vacate i).tenants) := by
  refine filterMap_drop_one (i := i) ?_ ?_ (fun j other => ?_) (List.nodup_finRange _)
    (List.mem_finRange i)
  · rw [tenant?, holds]
    rfl
  · rw [slot_vacate, if_pos rfl]
    rfl
  · rw [slot_vacate, if_neg other]

theorem tenants_vacate_free {t : SlotTable} {i : Fin maxAdapters}
    (free : (t.slot i).occupant = none) : (t.vacate i).tenants = t.tenants := by
  apply List.filterMap_congr
  intro j _
  rw [slot_vacate]
  split
  · rename_i here
    rw [here, tenant?, tenant?, free]
  · rfl

/-- An adapter that moves in brings its block. -/
theorem tenants_fill {t : SlotTable} {i : Fin maxAdapters} (free : (t.slot i).occupant = none)
    {s : Slot} {owned : Owned Adapter} (holds : s.occupant = some owned) :
    (t.put i s).tenants.Perm (owned.block.recordFor Adapter :: t.tenants) := by
  refine filterMap_drop_one (i := i) ?_ ?_ (fun j other => ?_) (List.nodup_finRange _)
    (List.mem_finRange i)
  · rw [slot_put_same, tenant?, holds]
    rfl
  · rw [tenant?, free]
    rfl
  · rw [slot_put_other t s other]

/-- An adapter that works stays in its block. -/
theorem tenants_rewrite {t : SlotTable} {i : Fin maxAdapters} {owned : Owned Adapter}
    (holds : (t.slot i).occupant = some owned) (a : Adapter) :
    (t.put i { t.slot i with occupant := some ⟨owned.block, a⟩ }).tenants = t.tenants := by
  apply List.filterMap_congr
  intro j _
  rw [slot_put]
  split
  · rename_i here
    rw [here, tenant?, tenant?, holds]
    rfl
  · rfl

end SlotTable

/-- The adapters of `t` have their blocks in the arena, beside what `rest` tells, and there is
nothing else. -/
structure Lodging (t : SlotTable) (rest : List Record) (arena : Arena) : Prop where
  sound : arena.Sound
  own : ∀ i owned, (t.slot i).occupant = some owned → owned.block.arena = arena.id
  live : arena.live.Perm (t.tenants ++ rest)

namespace Lodging

variable {t : SlotTable} {rest : List Record} {arena : Arena}

theorem hosts (lodging : Lodging t rest arena) {i : Fin maxAdapters} {owned : Owned Adapter}
    (holds : (t.slot i).occupant = some owned) : arena.Hosts Adapter owned.block where
  own := lodging.own i owned holds
  live := by
    refine lodging.live.mem_iff.2 (List.mem_append_left rest ?_)
    exact (SlotTable.tenants_vacate holds).mem_iff.2 List.mem_cons_self

/-- **The block of an adapter that leaves is taken back**, and the others keep theirs. -/
theorem vacate (lodging : Lodging t rest arena) {i : Fin maxAdapters} {owned : Owned Adapter}
    (holds : (t.slot i).occupant = some owned) :
    (arena.surrenderOf Adapter owned.block).answer = .ok () ∧
      (arena.surrenderOf Adapter owned.block).state.id = arena.id ∧
      Lodging (t.vacate i) rest (arena.surrenderOf Adapter owned.block).state := by
  obtain ⟨answer, sound, id, live⟩ := Arena.surrenderOf_of_hosts lodging.sound (lodging.hosts holds)
  refine ⟨answer, id, sound, fun j other there => ?_, ?_⟩
  · rw [SlotTable.slot_vacate] at there
    split at there
    · cases there
    · rw [id]
      exact lodging.own j other there
  · have whole := live.symm.trans lodging.live
    have split := (SlotTable.tenants_vacate holds).append_right rest
    exact (whole.trans split).cons_inv

theorem vacate_free (lodging : Lodging t rest arena) {i : Fin maxAdapters}
    (free : (t.slot i).occupant = none) : Lodging (t.vacate i) rest arena where
  sound := lodging.sound
  own j other there := by
    rw [SlotTable.slot_vacate] at there
    split at there
    · cases there
    · exact lodging.own j other there
  live := by
    rw [SlotTable.tenants_vacate_free free]
    exact lodging.live

theorem rewrite (lodging : Lodging t rest arena) {i : Fin maxAdapters} {owned : Owned Adapter}
    (holds : (t.slot i).occupant = some owned) (a : Adapter) :
    Lodging (t.put i { t.slot i with occupant := some ⟨owned.block, a⟩ }) rest arena where
  sound := lodging.sound
  own j other there := by
    rw [SlotTable.slot_put] at there
    split at there
    · cases there
      exact lodging.own i owned holds
    · exact lodging.own j other there
  live := by
    rw [SlotTable.tenants_rewrite holds]
    exact lodging.live

/-- A new adapter brings the block that it was made in. -/
theorem fill (lodging : Lodging t rest arena) {i : Fin maxAdapters} {owned : Owned Adapter} {s : Slot}
    (free : (t.slot i).occupant = none) (holds : s.occupant = some owned) {arena' : Arena}
    (sound : arena'.Sound) (id : arena'.id = arena.id) (own : owned.block.arena = arena.id)
    (live : arena'.live.Perm (owned.block.recordFor Adapter :: arena.live)) :
    Lodging (t.put i s) rest arena' where
  sound := sound
  own j other there := by
    rw [SlotTable.slot_put] at there
    rw [id]
    split at there
    · rw [holds] at there
      cases there
      exact own
    · exact lodging.own j other there
  live := by
    have filled := (SlotTable.tenants_fill free holds).append_right rest
    exact live.trans ((lodging.live.cons _).trans filled.symm)

end Lodging

/-! ## Requests -/

/-- Making an adapter brings one block, or nothing. -/
theorem Adapter.create_lodges {arena : Arena} (sound : arena.Sound) (handle : Handle)
    (interface : Interface) (config : AdapterConfig) :
    (create arena handle interface config).state.Sound ∧
      (create arena handle interface config).state.id = arena.id ∧
      ((∃ owned, (create arena handle interface config).answer = .ok owned ∧
          owned.block.arena = arena.id ∧
          (create arena handle interface config).state.live.Perm
            (owned.block.recordFor Adapter :: arena.live)) ∨
        ∃ why, (create arena handle interface config).answer = .error (.refused why) ∧
          (create arena handle interface config).state.live.Perm arena.live) := by
  obtain ⟨sound', id, got⟩ := arena.allocateFor_cases adapter_layout_ofType sound
  cases (create_making arena handle interface config).1 with
  | made obtained answer state =>
    rw [state]
    rcases got with ⟨block, handed, own, live⟩ | ⟨why, refused, -⟩
    · cases obtained.symm.trans handed
      exact ⟨sound', id, .inl ⟨_, answer, own, live⟩⟩
    · cases obtained.symm.trans refused
  | unhoused obtained answer state =>
    rw [state]
    rcases got with ⟨block, handed, -, -⟩ | ⟨why, refused, live⟩
    · cases obtained.symm.trans handed
    · exact ⟨sound', id, .inr ⟨_, answer, List.Perm.of_eq live⟩⟩
  | unfit obtained answer state =>
    rw [state]
    rcases got with ⟨block, handed, own, live⟩ | ⟨why, refused, -⟩
    · cases obtained.symm.trans handed
      obtain ⟨back, sound, same, rest⟩ := Arena.surrenderOf_of_new sound' id own live
      rw [back] at answer
      exact ⟨sound, same, .inr ⟨_, answer, rest⟩⟩
    · cases obtained.symm.trans refused

namespace Driver

/-- What is live in the arena of a driver: the blocks of its adapters and of its context, and those
of others. -/
structure Housed (others : List Record) (d : Driver) : Prop where
  own : d.context.block.arena = d.arena.id
  lodging : Lodging d.slots (d.context.block.recordFor Context :: others) d.arena

/-- A driver that has just got its block has no other one. -/
theorem housed_of_new {d : Driver} {arena : Arena} (sound : arena.Sound)
    (slots : d.slots = SlotTable.empty)
    (got : (arena.allocateFor Context).answer = .ok d.context.block)
    (state : d.arena = (arena.allocateFor Context).state) : d.Housed arena.live := by
  obtain ⟨sound, id, cases⟩ := arena.allocateFor_cases context_layout_ofType sound
  rcases cases with ⟨block, handed, own, live⟩ | ⟨why, refused, -⟩
  · cases handed.symm.trans got
    refine ⟨?_, ?_, fun i owned holds => ?_, ?_⟩
    · rw [state, id]
      exact own
    · rw [state]
      exact sound
    · rw [slots, SlotTable.slot_empty] at holds
      cases holds
    · rw [slots, state, SlotTable.tenants_empty, List.nil_append]
      exact live
  · cases refused.symm.trans got

theorem Started.housed {d : Driver} (started : d.Started) : ∃ others, d.Housed others := by
  obtain ⟨slots, arena, opened, got, state⟩ := started.spec
  exact ⟨arena.live, housed_of_new opened.sound slots got state⟩

theorem create_housed {others : List Record} {d : Driver} (housed : d.Housed others)
    (answers : HostAnswers) (p : Parameters) (read : Except Failure Handle → Except Fatal Response) :
    (d.onBoth (fun c arena => c.createAdapter arena answers p) read).state.Housed others := by
  have lodging := housed.lodging
  have lodged : ∀ arena : Arena, arena.Sound → arena.id = d.arena.id →
      arena.live.Perm d.arena.live →
      (Driver.mk d.context arena).Housed others := fun arena sound id live =>
    ⟨housed.own.trans id.symm, sound, fun i owned holds => (lodging.own i owned holds).trans id.symm,
      live.trans lodging.live⟩
  simp only [onBoth, Outcome.within_state, Outcome.map_state]
  cases d.context.value.createAdapter_creation d.arena answers p with
  | turnedAway answer state =>
    rw [state]
    exact housed
  | @unmade i why made answer state =>
    rw [state]
    obtain ⟨sound, id, made' | ⟨_, -, live⟩⟩ :=
      Adapter.create_lodges lodging.sound (d.slots.nextHandle i) p.interface
        (d.context.value.settingsFor p)
    · obtain ⟨owned, same, -⟩ := made'
      cases made.symm.trans same
    · exact lodged _ sound id live
  | @withdrawn i owned why made answer state =>
    rw [state]
    obtain ⟨sound, id, ⟨owned', same, own, live⟩ | ⟨_, refused, -⟩⟩ :=
      Adapter.create_lodges lodging.sound (d.slots.nextHandle i) p.interface
        (d.context.value.settingsFor p)
    · cases made.symm.trans same
      obtain ⟨-, sound, id, live⟩ := Arena.surrenderOf_of_new sound id own live
      exact lodged _ sound id live
    · cases made.symm.trans refused
  | @installed i owned unused free made answer state =>
    rw [state]
    obtain ⟨sound, id, ⟨owned', same, own, live⟩ | ⟨_, refused, -⟩⟩ :=
      Adapter.create_lodges lodging.sound (d.slots.nextHandle i) p.interface
        (d.context.value.settingsFor p)
    · cases made.symm.trans same
      exact ⟨housed.own.trans id.symm,
        lodging.fill (SlotTable.firstFree?_vacant free) rfl sound id own live⟩
    · cases made.symm.trans refused

theorem halt_housed {others : List Record} {d : Driver} (housed : d.Housed others) (handle : Handle)
    (action : HaltAction) (read : Except Fatal Unit → Except Fatal Response) :
    (d.onBoth (fun c arena => c.haltAdapter arena handle action) read).state.Housed others := by
  simp only [onBoth, Outcome.within_state, Outcome.map_state]
  cases found : d.slots.locate handle with
  | error why =>
    rw [(Context.haltAdapter_of_missing found d.arena action).2.1]
    exact housed
  | ok there =>
    obtain ⟨i, owned⟩ := there
    obtain ⟨holds, -⟩ := SlotTable.locate_eq_ok.1 found
    rw [(Context.haltAdapter_of_found found d.arena action).2.1]
    obtain ⟨-, id, left⟩ := housed.lodging.vacate holds
    exact ⟨housed.own.trans id.symm, left⟩

/-- **Every request keeps the blocks in order.** -/
theorem serve_housed {others : List Record} {d : Driver} (housed : d.Housed others)
    (answers : HostAnswers) (request : Request) :
    (d.serve answers request).state.Housed others := by
  cases errand : request.errand with
  | aside =>
    obtain ⟨slots, block, arena, -, -⟩ := serve_aside errand answers (d := d)
    constructor
    · rw [block, arena]
      exact housed.own
    · rw [block, slots, arena]
      exact housed.lodging
  | visit v =>
    cases found : d.slots.locate v.adapter with
    | error why =>
      rw [serve_of_missing errand found]
      exact housed
    | ok there =>
      obtain ⟨i, owned⟩ := there
      obtain ⟨holds, -⟩ := SlotTable.locate_eq_ok.1 found
      rw [serve_of_found errand found]
      exact ⟨housed.own, housed.lodging.rewrite holds _⟩
  | create p refuse =>
    rw [serve_create errand]
    exact create_housed housed answers p _
  | halt handle action =>
    rw [serve_halt errand]
    exact halt_housed housed handle action _

theorem run_housed {d : Driver} (started : d.Started) (requests : List (HostAnswers × Request)) :
    ∃ others, (d.run requests).state.Housed others := by
  obtain ⟨others, housed⟩ := started.housed
  have step : ∀ d answers request, Housed others d → Housed others (d.serve answers request).state :=
    fun _ answers request housed => serve_housed housed answers request
  exact ⟨others, run_keeps step housed requests⟩

end Driver

end PacketRadio
