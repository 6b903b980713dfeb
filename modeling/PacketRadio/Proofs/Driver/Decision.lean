import PacketRadio.Proofs.Driver.Reachable
import PacketRadio.Proofs.Pool.Restoration

/-!
# Whether an adapter comes up

A request to bring an adapter up is decided by six questions: whether the driver is registered,
whether the interface has an adapter, whether there is a slot, whether there is a block, whether the
settings fit, and whether the host takes both descriptors. The first one that goes against the
request counts. Some of them are asked when a block has been taken or the host has taken one
descriptor; still a request that is refused leaves behind nothing but counters of the arena.
-/

namespace PacketRadio

open Pool

/-- The first status with which the host refuses an adapter. -/
def HostAnswers.refusal? (answers : HostAnswers) : Option Status :=
  [answers.registrationAttributes, answers.generalAttributes].find? fun status => !status.isSuccess

/-- What the host is shown of an adapter: both descriptors, the second one only if it takes the
first. -/
def Adapter.shown (a : Adapter) (answers : HostAnswers) : List HostCall :=
  .registrationAttributes a.handle a.registration ::
    if answers.registrationAttributes.isSuccess then [.generalAttributes a.handle a.general] else []

/-! ## The questions -/

namespace SlotTable

/-- A slot holds the adapter of the interface. -/
def Serves (t : SlotTable) (k : Interface) : Prop :=
  ∃ i, (t.slot i).inUse = true ∧ (t.slot i).interface = some k

instance (t : SlotTable) (k : Interface) : Decidable (t.Serves k) :=
  inferInstanceAs (Decidable (∃ i, (t.slot i).inUse = true ∧ (t.slot i).interface = some k))

/-- Every slot holds an adapter. -/
def Full (t : SlotTable) : Prop := ∀ i, (t.slot i).inUse = true

instance (t : SlotTable) : Decidable t.Full :=
  inferInstanceAs (Decidable (∀ i, (t.slot i).inUse = true))

/-- Slot `i` is free, and none before it is. -/
structure LowestFree (t : SlotTable) (i : Fin maxAdapters) : Prop where
  free : (t.slot i).inUse = false
  before : ∀ j < i, (t.slot j).inUse = true

theorem findInterface?_eq_none {t : SlotTable} {k : Interface} :
    t.findInterface? k = none ↔ ¬ t.Serves k := by
  rw [findInterface?, lowest?_eq_none, Serves]
  simp

theorem firstFree?_eq_none {t : SlotTable} : t.firstFree? = none ↔ t.Full := by
  rw [firstFree?, lowest?_eq_none, Full]
  simp

theorem firstFree?_lowest {t : SlotTable} {i : Fin maxAdapters} (found : t.firstFree? = some i) :
    t.LowestFree i := by
  obtain ⟨free, before, after, split, none⟩ := List.find?_eq_some_iff_append.1 found
  refine ⟨by simpa using free, fun j lower => ?_⟩
  have order := List.pairwise_lt_finRange maxAdapters
  rw [split, List.pairwise_append] at order
  have member := List.mem_finRange j
  rw [split, List.mem_append, List.mem_cons] at member
  rcases member with earlier | rfl | later
  · simpa using none j earlier
  · exact absurd lower (Fin.lt_irrefl j)
  · exact absurd lower (Fin.lt_asymm ((List.pairwise_cons.1 order.2.1).1 j later))

end SlotTable

namespace Pool.Arena

instance (a : Arena) (l : Layout) : Decidable (a.HasRoom l) :=
  inferInstanceAs (Decidable
    ((∃ h ∈ a.free, h.size = l.footprint ∨ l.footprint + Hole.least ≤ h.size) ∧
      a.live.length ≠ maxBlocks))

end Pool.Arena

/-- With settings of a driver that fit, only the address that the host asks for can be at fault. -/
theorem DriverConfig.fault?_withOverrides {config : DriverConfig} (fits : config.fault? = none)
    (p : Parameters) :
    (config.adapter.withOverrides p).fault? = none ↔ p.networkAddress ≠ some Address.unused := by
  have template : config.adapter.fault? = none := by
    unfold fault? at fits
    split at fits
    · cases fits
    · exact fits
  cases asked : p.networkAddress with
  | none =>
    have same : config.adapter.withOverrides p = config.adapter := by
      simp [AdapterConfig.withOverrides, asked]
    rw [same]
    simp [template]
  | some address =>
    have other : config.adapter.withOverrides p = { config.adapter with current := address } := by
      simp [AdapterConfig.withOverrides, asked]
    rw [other, ne_eq, Option.some.injEq, ← Address.isUnused_iff]
    unfold AdapterConfig.fault? at template ⊢
    simp only [Bool.or_eq_true] at template ⊢
    grind

/-! ## Making the adapter -/

namespace Adapter

variable {arena : Arena} (handle : Handle) (interface : Interface) {config : AdapterConfig}

theorem adapter_allocation (sound : arena.Sound) :
    (∃ block, arena.HasRoom (Pooled.layout Adapter) ∧
      (arena.allocateFor Adapter).answer = .ok block) ∨
    ∃ why, ¬ arena.HasRoom (Pooled.layout Adapter) ∧ Error.ofRefusal why = .outOfMemory ∧
      (arena.allocateFor Adapter).answer = .error why ∧
      (arena.allocateFor Adapter).state = arena.afterRefusal := by
  rcases Arena.allocateFor_of_room (α := Adapter) sound (by decide) (by decide) with
    ⟨offset, free, room, -, -, got, -⟩ | ⟨why, crowded, exhausted, got, state⟩
  · exact .inl ⟨_, room, got⟩
  · exact .inr ⟨why, crowded, if_pos exhausted, got, state⟩

/-- Without a block, no adapter is made. -/
theorem create_of_crowded (config : AdapterConfig) (sound : arena.Sound)
    (crowded : ¬ arena.HasRoom (Pooled.layout Adapter)) :
    (create arena handle interface config).answer = .error (.refused .outOfMemory) ∧
      (create arena handle interface config).state = arena.afterRefusal := by
  obtain ⟨block, room, -⟩ | ⟨why, -, word, refused, state⟩ := adapter_allocation sound
  · exact absurd room crowded
  · cases (create_making arena handle interface config).1 with
    | made got => cases refused.symm.trans got
    | unhoused got answer same =>
      cases refused.symm.trans got
      rw [answer, word, same, state]
      exact ⟨rfl, rfl⟩
    | unfit got => cases refused.symm.trans got

/-- A block in which no adapter can run goes back at once. -/
theorem create_of_unfit (sound : arena.Sound) (room : arena.HasRoom (Pooled.layout Adapter))
    (unfit : config.fault? ≠ none) :
    (create arena handle interface config).answer = .error (.refused .invalidConfig) ∧
      (create arena handle interface config).state = arena.afterReturn := by
  obtain ⟨block, -, handed⟩ | ⟨why, crowded, -⟩ := adapter_allocation sound
  · cases (create_making arena handle interface config).1 with
    | made _ _ _ fits => exact absurd fits unfit
    | unhoused got => cases handed.symm.trans got
    | unfit got answer state =>
      obtain ⟨back, after⟩ := Arena.surrenderOf_allocateFor sound adapter_layout_ofType got
      rw [answer, state, back, after]
      exact ⟨rfl, rfl⟩
  · exact absurd room crowded

/-- With a block and settings that fit, the adapter is made. -/
theorem create_of_fit (sound : arena.Sound) (room : arena.HasRoom (Pooled.layout Adapter))
    (fits : config.fault? = none) :
    ∃ block, (arena.allocateFor Adapter).answer = .ok block ∧
      (create arena handle interface config).answer =
        .ok ⟨block, setUpFor handle interface config⟩ ∧
      (create arena handle interface config).state = (arena.allocateFor Adapter).state := by
  obtain ⟨block, -, handed⟩ | ⟨why, crowded, -⟩ := adapter_allocation sound
  · cases (create_making arena handle interface config).1 with
    | made got answer state => exact ⟨_, got, answer, state⟩
    | unhoused got => cases handed.symm.trans got
    | unfit _ _ _ unfit => exact absurd fits unfit
  · exact absurd room crowded

end Adapter

/-! ## Showing it to the host -/

namespace Context

theorem present_shown (answers : HostAnswers) (a : Adapter) :
    (present answers a).1 = answers.refusal? ∧
      hostCalls (present answers a).2 = a.shown answers := by
  unfold present HostAnswers.refusal? Adapter.shown
  cases first : answers.registrationAttributes.isSuccess
  · simp [first]
  · cases second : answers.generalAttributes.isSuccess <;> simp [first, second]

/-- An adapter that found no slot is destroyed, and its block goes back. -/
theorem withdraw_eq (owned : Owned Adapter) {arena after : Arena} (c : Context) (why : Error)
    (answer : (arena.surrenderOf Adapter owned.block).answer = .ok ())
    (state : (arena.surrenderOf Adapter owned.block).state = after) :
    (c.withdraw owned arena why).answer = .error (.refused why) ∧
      (c.withdraw owned arena why).state = (c, after) := by
  subst state
  simp [withdraw, Adapter.discard_some, answer]

/-! ## The decision -/

/-- Why an adapter does not come up, if it does not. The questions are asked in this order. -/
def refusal? (c : Context) (arena : Arena) (answers : HostAnswers) (p : Parameters) :
    Option Error :=
  if c.registration = .unregistered then some .notRegistered
  else if c.slots.Serves p.interface then some .interfaceInUse
  else if c.slots.Full then some .slotsExhausted
  else if ¬ arena.HasRoom (Pooled.layout Adapter) then some .outOfMemory
  else if p.networkAddress = some Address.unused then some .invalidConfig
  else answers.refusal?.map .registration

/-- The adapter that would fill slot `i`: paused, with empty tables. -/
def candidate (c : Context) (p : Parameters) (i : Fin maxAdapters) : Adapter :=
  .setUpFor (c.slots.nextHandle i) p.interface (c.settingsFor p)

/-- The arena after a request was refused: what was taken is back. -/
def arenaAfter (arena : Arena) : Error → Arena
  | .outOfMemory => arena.afterRefusal
  | .invalidConfig | .registration _ => arena.afterReturn
  | _ => arena

/-- What the host hears of a request that is refused. -/
def HeardOf (c : Context) (answers : HostAnswers) (p : Parameters) (calls : List HostCall) :
    Error → Prop
  | .slotsExhausted => calls = [.errorLog none .adapterLimitReached]
  | .outOfMemory => calls = [.errorLog none .outOfResources]
  | .registration _ => ∃ i, c.slots.LowestFree i ∧ calls = (c.candidate p i).shown answers
  | _ => calls = []

/-- The request was refused because of `why`, and nothing is left of it but counters. -/
structure TurnedDown (c : Context) (arena : Arena) (answers : HostAnswers) (p : Parameters)
    (o : Outcome Event (Context × Arena) (Except Failure Handle)) (why : Error) : Prop where
  answer : o.answer = .error (.refused why)
  context : o.state.1 = c
  memory : o.state.2 = arenaAfter arena why
  kept : o.state.2 =
    { arena with stats := { arena.stats with
        allocations := o.state.2.stats.allocations
        deallocations := o.state.2.stats.deallocations
        failedAllocations := o.state.2.stats.failedAllocations } }
  calls : c.HeardOf answers p (hostCalls o.events) why

/-- The adapter came up in slot `i`, under the slot's next count. -/
structure BroughtUp (c : Context) (arena : Arena) (answers : HostAnswers) (p : Parameters)
    (o : Outcome Event (Context × Arena) (Except Failure Handle)) (i : Fin maxAdapters) :
    Prop where
  lowest : c.slots.LowestFree i
  answer : o.answer = .ok ⟨UInt8.ofNat i, (c.slots.slot i).generation + 1⟩
  state : ∃ block, (arena.allocateFor Adapter).answer = .ok block ∧
    o.state = ({ c with slots := c.slots.put i ⟨some ⟨block, c.candidate p i⟩, some p.interface,
      (c.slots.slot i).generation + 1⟩ }, (arena.allocateFor Adapter).state)
  calls : hostCalls o.events = (c.candidate p i).shown answers

/-- The request ended as it was decided. -/
def Ended (c : Context) (arena : Arena) (answers : HostAnswers) (p : Parameters)
    (o : Outcome Event (Context × Arena) (Except Failure Handle)) : Option Error → Prop
  | some why => TurnedDown c arena answers p o why
  | none => ∃ i, BroughtUp c arena answers p o i

variable {c : Context} {arena : Arena} {answers : HostAnswers} {p : Parameters}

theorem TurnedDown.of {o : Outcome Event (Context × Arena) (Except Failure Handle)} {why : Error}
    (answer : o.answer = .error (.refused why)) (state : o.state = (c, arenaAfter arena why))
    (calls : c.HeardOf answers p (hostCalls o.events) why) :
    TurnedDown c arena answers p o why := by
  refine ⟨answer, by rw [state], by rw [state], ?_, calls⟩
  rw [state]
  cases why <;> rfl

/-- An adapter that is made is shown to the host, and stays if the host takes it. -/
theorem install_ended {i : Fin maxAdapters} {block : Block} {made : List Event}
    (sound : arena.Sound) (free : c.slots.firstFree? = some i)
    (got : (arena.allocateFor Adapter).answer = .ok block) (silent : hostCalls made = []) :
    Ended c arena answers p ((c.install answers i p.interface ⟨block, c.candidate p i⟩
      (arena.allocateFor Adapter).state).after made) (answers.refusal?.map .registration) := by
  have lowest := SlotTable.firstFree?_lowest free
  obtain ⟨verdict, shown⟩ := present_shown answers (c.candidate p i)
  obtain ⟨back, after⟩ := Arena.surrenderOf_allocateFor sound adapter_layout_ofType got
  rw [← verdict]
  unfold install
  rcases presented : present answers (c.candidate p i) with ⟨_ | status, events⟩
  all_goals rw [presented] at shown
  · simp only
    rw [SlotTable.occupy_of_free (SlotTable.firstFree?_vacant free)]
    exact ⟨i, lowest, rfl, ⟨block, got, rfl⟩, by simpa [silent] using shown⟩
  · obtain ⟨answer, state⟩ := withdraw_eq ⟨block, c.candidate p i⟩ c (.registration status) back
      after
    exact .of answer state ⟨i, lowest, by simpa [withdraw_calls, silent] using shown⟩

/-- With a slot for the adapter, the arena is asked, then the settings, then the host. -/
theorem createAdapter_ended_of_slot {i : Fin maxAdapters} (sound : arena.Sound)
    (fits : (c.config.adapter.withOverrides p).fault? = none ↔
      p.networkAddress ≠ some Address.unused)
    (known : c.registration ≠ .unregistered) (found : c.slots.findInterface? p.interface = none)
    (free : c.slots.firstFree? = some i) :
    Ended c arena answers p (c.createAdapter arena answers p)
      (if ¬ arena.HasRoom (Pooled.layout Adapter) then some .outOfMemory
      else if p.networkAddress = some Address.unused then some .invalidConfig
      else answers.refusal?.map .registration) := by
  have silent := (Adapter.create_making arena (c.slots.nextHandle i) p.interface
    (c.config.adapter.withOverrides p)).2
  unfold createAdapter
  simp only [if_neg known, found, free]
  by_cases room : arena.HasRoom (Pooled.layout Adapter)
  · rw [if_neg (not_not_intro room)]
    by_cases unset : p.networkAddress = some Address.unused
    · obtain ⟨answer, state⟩ := Adapter.create_of_unfit (c.slots.nextHandle i) p.interface
        sound room (fun none => fits.1 none unset)
      rw [if_pos unset]
      simp only [answer, state]
      exact .of rfl rfl (by simp [silent, HeardOf])
    · obtain ⟨block, got, answer, state⟩ := Adapter.create_of_fit (c.slots.nextHandle i)
        p.interface sound room (fits.2 unset)
      rw [if_neg unset]
      simp only [answer, state]
      exact install_ended sound free got silent
  · obtain ⟨answer, state⟩ := Adapter.create_of_crowded (c.slots.nextHandle i) p.interface
      (c.config.adapter.withOverrides p) sound room
    rw [if_pos room]
    simp only [answer, state]
    exact .of rfl rfl (by simp [silent, HeardOf])

/-- **Whether an adapter comes up is decided by the first question that goes against it**, and a
request that is refused leaves the driver as it was: every slot, the registration, and the blocks
and holes of the arena. Who is active does not enter into it at all. -/
theorem createAdapter_decided {d : Driver} {activity : Activity} (reachable : d.Reachable activity)
    (answers : HostAnswers) (p : Parameters) :
    Ended d.context.value d.arena answers p (d.context.value.createAdapter d.arena answers p)
      (d.context.value.refusal? d.arena answers p) := by
  have sound := reachable.opened.sound
  have fits := DriverConfig.fault?_withOverrides reachable.fit p
  generalize d.context.value = c at fits ⊢
  generalize d.arena = arena at sound ⊢
  unfold refusal?
  by_cases unknown : c.registration = .unregistered
  · simp only [createAdapter, if_pos unknown]
    exact .of rfl rfl rfl
  rw [if_neg unknown]
  cases found : c.slots.findInterface? p.interface with
  | some i =>
    have serves : c.slots.Serves p.interface := by
      by_contra unserved
      rw [SlotTable.findInterface?_eq_none.2 unserved] at found
      cases found
    simp only [createAdapter, if_neg unknown, found, if_pos serves]
    exact .of rfl rfl rfl
  | none =>
    rw [if_neg (SlotTable.findInterface?_eq_none.1 found)]
    cases free : c.slots.firstFree? with
    | none =>
      simp only [createAdapter, if_neg unknown, found, free,
        if_pos (SlotTable.firstFree?_eq_none.1 free)]
      exact .of rfl rfl rfl
    | some i =>
      have vacancy : ¬ c.slots.Full := fun full => by
        rw [SlotTable.firstFree?_eq_none.2 full] at free
        cases free
      rw [if_neg vacancy]
      exact createAdapter_ended_of_slot sound fits unknown found free

/-- The host takes the first descriptor of a second adapter and refuses the other one. -/
theorem half_shown_adapter_turned_down :
    let d := (Driver.sample.run [(.willing, .register ⟨1⟩ "radio"),
      (.willing, .createAdapter ⟨⟨7⟩, none⟩)]).state
    let answers : HostAnswers := ⟨.ok ⟨1⟩, .success, .resources⟩
    d.Reachable ⟨1, 2⟩ ∧
      d.context.value.refusal? d.arena answers ⟨⟨8⟩, none⟩ = some (.registration .resources) ∧
      Ended d.context.value d.arena answers ⟨⟨8⟩, none⟩
        (d.context.value.createAdapter d.arena answers ⟨⟨8⟩, none⟩)
        (d.context.value.refusal? d.arena answers ⟨⟨8⟩, none⟩) :=
  have reachable := Driver.sample_reachable.run [(.willing, .register ⟨1⟩ "radio"),
    (.willing, .createAdapter ⟨⟨7⟩, none⟩)]
  ⟨reachable, by decide +kernel, createAdapter_decided reachable _ _⟩

end Context

end PacketRadio
