import PacketRadio.Proofs.Driver.Role

/-!
# Loading a driver is all or nothing

A driver that is loaded is live, holds the role of the active context, is registered as the host said,
and has no adapters yet. Four things can keep it from being loaded, each of them at a point where
more has been taken than before: its settings, another active context, the arena, and the host. In
each case all that was taken is given back, and nothing was undone with the host that the host had
not done.
-/

namespace PacketRadio

open Pool

namespace Context

/-! ## What the host hears -/

/-- A context that was never registered has nothing to tell the host when it is taken down. -/
theorem teardown_fresh_calls (id : UInt32) (config : DriverConfig) (arena : Arena)
    (activity : Activity) : hostCalls ((fresh id config).teardown arena activity).events = [] := by
  have vacant : ∀ i, ((fresh id config).slots.slot i).occupant = none := fun i =>
    congrArg Slot.occupant (SlotTable.slot_empty i)
  obtain ⟨cleared, -, silent⟩ :=
    clearSlots_of_vacant (fresh id config).id (List.finRange maxAdapters) vacant arena
  have released := release_silent activity (fresh id config).id
  unfold teardown
  simp only [cleared, silent, hostCalls_append, hostCalls_notice, hostCalls_nil, released]
  rfl

theorem discard_fresh_calls (block : Block) (id : UInt32) (config : DriverConfig) (arena : Arena)
    (activity : Activity) :
    hostCalls (discard (some ⟨block, fresh id config⟩) arena activity).events = [] := by
  have torn := teardown_fresh_calls id config arena activity
  unfold discard
  rw [Outcome.andThen_events, hostCalls_append, torn, List.nil_append]
  split
  · rfl
  · exact hostCalls_pool _

/-- The host has no part in making a context. -/
theorem create_calls (arena : Arena) (activity : Activity) (config : DriverConfig) :
    hostCalls (create arena activity config).events = [] := by
  have claimed : hostCalls activity.claim.events = [] := by
    by_cases unclaimed : activity.active = 0
    · rw [Activity.claim_of_unclaimed unclaimed]
      rfl
    · rw [Activity.claim_of_claimed unclaimed]
      rfl
  have settled : ∀ id activity,
      hostCalls ((fresh id config).settleIn arena activity).events = [] := by
    intro id activity
    have torn := teardown_fresh_calls id config (arena.allocateFor Context).state activity
    unfold settleIn
    simp only [Outcome.mapEvents_answer, Outcome.mapEvents_state, Outcome.mapEvents_events]
    split
    · simp
    · simp [torn]
  unfold create
  split
  · rfl
  · rw [Outcome.andThen_events, hostCalls_append, claimed]
    split
    · rfl
    · exact settled _ _

/-- Once the context is made, the host is asked to register the driver, and nothing else. -/
theorem load_calls (arena : Arena) (activity : Activity) (answers : HostAnswers)
    (driver : DriverObject) (path : String) (config : DriverConfig) :
    hostCalls (load arena activity answers driver path config).events =
      match (create arena activity config).answer with
      | .ok _ => [.register driver path (.ofConfig config)]
      | .error _ => [] := by
  have before := create_calls arena activity config
  unfold load
  rw [Outcome.after_events, Outcome.andThen_events, hostCalls_append, hostCalls_append, before]
  cases created : (create arena activity config).answer with
  | error why => rfl
  | ok owned =>
    obtain ⟨block, c⟩ := owned
    have new : c = fresh activity.next config := (create_grants created).2.1
    subst new
    cases host : answers.registration with
    | ok handle =>
      simp only [register, fresh, host]
      rfl
    | error status =>
      have gone := discard_fresh_calls block activity.next config
        (create arena activity config).state.1 (create arena activity config).state.2
      simp only [fresh] at gone
      simp only [register, fresh, host, Outcome.after_events, Outcome.map_events, hostCalls_append,
        hostCalls_call, hostCalls_notice, hostCalls_nil, gone]
      rfl

/-! ## The decision -/

/-- Why a driver is not loaded, if it is not. The questions are asked in this order. -/
def loadRefusal? (arena : Arena) (activity : Activity) (answers : HostAnswers)
    (config : DriverConfig) : Option Error :=
  if config.fault? ≠ none then some .invalidConfig
  else if activity.active ≠ 0 then some .contextAlreadyActive
  else if ¬ arena.HasRoom (Pooled.layout Context) then some .outOfMemory
  else answers.rebuff?.map .registration

/-- What the host has heard of an attempt that failed: only its own refusal was asked for. -/
def askedInVain (driver : DriverObject) (path : String) (config : DriverConfig) :
    Error → List HostCall
  | .registration _ => [.register driver path (.ofConfig config)]
  | _ => []

/-- The driver was loaded. -/
structure Loaded (arena : Arena) (answers : HostAnswers) (driver : DriverObject) (path : String)
    (config : DriverConfig) (o : Outcome Event (Arena × Activity) (Except Failure (Owned Context)))
    (owned : Owned Context) : Prop where
  answer : o.answer = .ok owned
  /-- The context is live, in a block that is new. -/
  hosts : o.state.1.Hosts Context owned.block
  live : o.state.1.live.Perm (owned.block.recordFor Context :: arena.live)
  /-- What is recorded is the number of this context. -/
  active : o.state.2.active = owned.value.id
  named : o.state.2.Names owned.value.id
  /-- The host was asked once, and what it answered is kept. -/
  registered : ∃ handle, answers.registration = .ok handle ∧
    hostCalls o.events = [.register driver path (.ofConfig config)] ∧
    owned.value.registration = .registered handle driver
  config : owned.value.config = config
  adapters : owned.value.slots = SlotTable.empty

/-- The driver was not loaded because of `why`, and nothing is left of the attempt but counters. -/
structure TurnedAway (arena : Arena) (activity : Activity) (driver : DriverObject) (path : String)
    (config : DriverConfig) (o : Outcome Event (Arena × Activity) (Except Failure (Owned Context)))
    (why : Error) : Prop where
  answer : o.answer = .error (.refused why)
  memory : o.state.1 =
    { arena with stats := { arena.stats with
        allocations := o.state.1.stats.allocations
        deallocations := o.state.1.stats.deallocations
        failedAllocations := o.state.1.stats.failedAllocations } }
  active : o.state.2.active = activity.active
  calls : hostCalls o.events = askedInVain driver path config why
  /-- A later attempt is served under conditions that are right, whatever became of the arena and the
  record in the meantime. -/
  again : ∀ (calls : List Arena.Call) (activity : Activity) (answers : HostAnswers)
    (config : DriverConfig) (handle : DriverHandle), config.fault? = none → activity.active = 0 →
    (o.state.1.run calls).state.HasRoom (Pooled.layout Context) →
    answers.registration = .ok handle →
    ∃ owned, Loaded (o.state.1.run calls).state answers driver path config
      (load (o.state.1.run calls).state activity answers driver path config) owned

/-- The attempt ended as it was decided. -/
def LoadEnded (arena : Arena) (activity : Activity) (answers : HostAnswers) (driver : DriverObject)
    (path : String) (config : DriverConfig)
    (o : Outcome Event (Arena × Activity) (Except Failure (Owned Context))) : Option Error → Prop
  | some why => TurnedAway arena activity driver path config o why
  | none => ∃ owned, Loaded arena answers driver path config o owned

variable {arena : Arena} {activity : Activity} {answers : HostAnswers} {driver : DriverObject}
  {path : String} {config : DriverConfig}

/-- A driver that is loaded is a context that the host has registered, and that is otherwise new. -/
theorem loaded_of_ok (sound : arena.Sound) {owned : Owned Context}
    (made : (load arena activity answers driver path config).answer = .ok owned) :
    Loaded arena answers driver path config (load arena activity answers driver path config)
      owned := by
  obtain ⟨⟨block, c⟩, created, same, state⟩ := load_made made
  obtain ⟨got, memory, -⟩ := create_made created
  obtain ⟨-, new, active⟩ := create_grants created
  have calls := load_calls arena activity answers driver path config
  dsimp only at new got same
  subst new
  obtain ⟨-, id, ⟨there, handed, own, live⟩ | ⟨why, refused, -⟩⟩ :=
    arena.allocateFor_cases context_layout_ofType sound
  · cases handed.symm.trans got
    rw [← memory, ← state] at id live
    have live' := live.mem_iff.2 List.mem_cons_self
    cases host : answers.registration with
    | ok handle =>
      have registered : ((fresh activity.next config).register answers driver path).state =
          { fresh activity.next config with registration := .registered handle driver } := by
        simp only [register, fresh, host]
      rw [registered] at same
      rw [created] at calls
      rw [← state] at active
      subst same
      exact ⟨made, ⟨own.trans id.symm, live'⟩, live, active, Activity.names_of_active active,
        ⟨handle, host, calls, rfl⟩, rfl, rfl⟩
    | error status =>
      have coming := load_coming sound activity answers driver path config
      have rebuffed : answers.rebuff? = some status := by rw [HostAnswers.rebuff?, host]
      rw [rebuffed] at coming
      cases coming with
      | unfit _ answer | contended _ _ answer | unhoused _ _ _ answer
      | declined _ _ _ _ answer => cases made.symm.trans answer
      | housed _ _ _ welcome => cases welcome
  · cases refused.symm.trans got

/-- What was asked in vain does not keep a driver from being loaded later. -/
theorem load_of_willing (sound : arena.Sound) (fits : config.fault? = none)
    (unclaimed : activity.active = 0) (room : arena.HasRoom (Pooled.layout Context))
    {handle : DriverHandle} (willing : answers.registration = .ok handle) :
    ∃ owned, Loaded arena answers driver path config
      (load arena activity answers driver path config) owned := by
  cases load_coming sound activity answers driver path config with
  | unfit unfit => exact absurd fits unfit
  | contended _ claimed => exact absurd unclaimed claimed
  | unhoused _ _ crowded => exact absurd room crowded
  | declined _ _ _ refused =>
    rw [HostAnswers.rebuff?, willing] at refused
    cases refused
  | housed _ _ _ _ answer => exact ⟨_, loaded_of_ok sound answer⟩

/-- The host hears of an attempt once the context is made. -/
theorem load_heard (sound : arena.Sound) {why : Error}
    (failed : (load arena activity answers driver path config).answer = .error (.refused why)) :
    hostCalls (load arena activity answers driver path config).events =
      askedInVain driver path config why := by
  rw [load_calls]
  cases create_coming sound activity config with
  | unfit _ answer | contended _ _ answer | unhoused _ _ _ answer =>
    obtain ⟨same, -⟩ := load_of_failed answer answers driver path
    cases failed.symm.trans same
    rw [answer]
    rfl
  | declined _ _ _ refused => cases refused
  | housed fits unclaimed room _ answer =>
    rw [answer]
    cases load_coming sound activity answers driver path config with
    | unfit unfit => exact absurd fits unfit
    | contended _ claimed => exact absurd unclaimed claimed
    | unhoused _ _ crowded => exact absurd room crowded
    | declined _ _ _ _ same =>
      cases failed.symm.trans same
      rfl
    | housed _ _ _ _ same => cases failed.symm.trans same

theorem TurnedAway.of (opened : arena.Opened) {why : Error} {after : Arena} {next : UInt32}
    (answer : (load arena activity answers driver path config).answer = .error (.refused why))
    (state : (load arena activity answers driver path config).state =
      (after, ⟨activity.active, next⟩))
    (kept : after = { arena with stats := { arena.stats with
      allocations := after.stats.allocations
      deallocations := after.stats.deallocations
      failedAllocations := after.stats.failedAllocations } }) :
    TurnedAway arena activity driver path config (load arena activity answers driver path config)
      why := by
  have still := (load_coming opened.sound activity answers driver path config).opened opened
  refine ⟨answer, by rw [state]; exact kept, by rw [state], load_heard opened.sound answer, ?_⟩
  intro later activity answers config handle fits unclaimed room willing
  exact load_of_willing (still.run later).sound fits unclaimed room willing

/-- **A driver is loaded as a whole or not at all.** Four questions decide it, in their order. A
driver that is loaded is live, active and registered, and has no adapters; one that is not leaves
the arena and the record as they were, has undone nothing with the host, and can be loaded later. -/
theorem load_all_or_nothing (opened : arena.Opened) (activity : Activity) (answers : HostAnswers)
    (driver : DriverObject) (path : String) (config : DriverConfig) :
    LoadEnded arena activity answers driver path config
      (load arena activity answers driver path config)
      (loadRefusal? arena activity answers config) := by
  unfold loadRefusal?
  cases load_coming opened.sound activity answers driver path config with
  | unfit unfit answer state =>
    rw [if_pos unfit]
    exact .of opened answer state rfl
  | contended fits claimed answer state =>
    rw [if_neg (not_not_intro fits), if_pos claimed]
    exact .of opened answer state rfl
  | unhoused fits unclaimed crowded answer state =>
    rw [if_neg (not_not_intro fits), if_neg (not_not_intro unclaimed), if_pos crowded]
    exact .of opened answer (unclaimed ▸ state) rfl
  | declined fits unclaimed room refused answer state =>
    rw [if_neg (not_not_intro fits), if_neg (not_not_intro unclaimed),
      if_neg (not_not_intro room), refused]
    exact .of opened answer (unclaimed ▸ state) rfl
  | housed fits unclaimed room welcome answer =>
    rw [if_neg (not_not_intro fits), if_neg (not_not_intro unclaimed),
      if_neg (not_not_intro room), welcome]
    exact ⟨_, loaded_of_ok opened.sound answer⟩

/-- The host refuses the driver when its context has been made already, in an arena with a block of
somebody else behind a hole. -/
theorem rebuffed_all_or_nothing :
    let tenanted : Arena :=
      ((Arena.fresh 1 4104 16384).run
        [.allocate ⟨100, 1⟩ ⟨0, rfl⟩ 100 Tag.generic, .allocate ⟨128, 64⟩ ⟨6, rfl⟩ 128 Tag.generic,
          .release (some ⟨1, 0⟩) Tag.generic]).state
    let rebuff : HostAnswers := ⟨.error .failure, .success, .success⟩
    tenanted.Opened ∧
      loadRefusal? tenanted .initial rebuff {} = some (.registration .failure) ∧
      LoadEnded tenanted .initial rebuff ⟨1⟩ "radio" {}
        (load tenanted .initial rebuff ⟨1⟩ "radio" {})
        (loadRefusal? tenanted .initial rebuff {}) := by
  intro tenanted rebuff
  have opened : tenanted.Opened := ⟨1, 4104, 16384, _, _, _, rfl, rfl⟩
  exact ⟨opened, by decide +kernel, load_all_or_nothing opened .initial rebuff ⟨1⟩ "radio" {}⟩

end Context

end PacketRadio
