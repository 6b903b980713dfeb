import PacketRadio.Proofs.Driver.Errands
import PacketRadio.Proofs.Pool.Boxes

/-!
# Adapters come and go

All that can come of a request to bring an adapter up, and of one to bring an adapter down. Each
inversion names the calls to the arena that were made on the way, in the arenas that they met.
-/

namespace PacketRadio

open Pool

namespace Adapter

/-- The adapter that has been set up: paused, with empty tables. -/
def setUpFor (handle : Handle) (interface : Interface) (config : AdapterConfig) : Adapter :=
  { initial handle interface config with lifecycle := .paused }

theorem setUpFor_sound (handle : Handle) (interface : Interface) (config : AdapterConfig) :
    (setUpFor handle interface config).Sound :=
  ⟨InFlight.empty_sound, InFlight.empty_sound⟩

/-- What can come of making an adapter in a block. -/
inductive Making (arena : Arena) (handle : Handle) (interface : Interface) (config : AdapterConfig)
    (o : Outcome Event Arena (Except Failure (Owned Adapter))) : Prop
  | made {block : Block} (got : (arena.allocateFor Adapter).answer = .ok block)
      (answer : o.answer = .ok ⟨block, setUpFor handle interface config⟩)
      (state : o.state = (arena.allocateFor Adapter).state) (fits : config.fault? = none)
  | unhoused {why : Refusal} (got : (arena.allocateFor Adapter).answer = .error why)
      (answer : o.answer = .error (.refused (.ofRefusal why)))
      (state : o.state = (arena.allocateFor Adapter).state)
  /-- The settings do not fit, and the block goes back. -/
  | unfit {block : Block} (got : (arena.allocateFor Adapter).answer = .ok block)
      (answer : o.answer =
        match ((arena.allocateFor Adapter).state.surrenderOf Adapter block).answer with
        | .ok () => .error (.refused .invalidConfig)
        | .error fault => .error (.fatal (.pool fault)))
      (state : o.state = ((arena.allocateFor Adapter).state.surrenderOf Adapter block).state)
      (unfit : config.fault? ≠ none)

theorem create_making (arena : Arena) (handle : Handle) (interface : Interface)
    (config : AdapterConfig) :
    Making arena handle interface config (create arena handle interface config) ∧
      hostCalls (create arena handle interface config).events = [] := by
  unfold create
  cases got : (arena.allocateFor Adapter).answer with
  | error why =>
    rw [ArenaIn.placeWith_of_refused ArenaIn.self _ _ _ got]
    exact ⟨.unhoused got rfl rfl, by simp⟩
  | ok block =>
    cases fits : config.fault? with
    | none =>
      have made : make handle interface config (ArenaIn.self.asked Adapter arena) =
          .quiet (.ok (initial handle interface config)) (arena.allocateFor Adapter).state := by
        unfold make
        rw [fits]
        rfl
      rw [ArenaIn.placeWith_of_made ArenaIn.self _ _ _ got (congrArg Outcome.answer made), made]
      exact ⟨.made got rfl rfl fits, by simp [setUp, move_of_allowed, initial, Lifecycle.next?]⟩
    | some fault =>
      have made : make handle interface config (ArenaIn.self.asked Adapter arena) =
          ⟨.error .invalidConfig, (arena.allocateFor Adapter).state,
            [.notice (.badConfig fault)]⟩ := by
        unfold make
        rw [fits]
        rfl
      rw [ArenaIn.placeWith_of_failed ArenaIn.self _ _ _ got (congrArg Outcome.answer made), made]
      cases back : ((arena.allocateFor Adapter).state.surrenderOf Adapter block).answer with
      | ok _ =>
        simp only [ArenaIn.self, id, back]
        exact ⟨.unfit got (by rw [back]; rfl) rfl (by simp [fits]), by simp⟩
      | error why =>
        simp only [ArenaIn.self, id, back]
        exact ⟨.unfit got (by rw [back]; rfl) rfl (by simp [fits]), by simp⟩

/-- An adapter that is made is set up, in the block that was asked for. -/
theorem create_made {arena : Arena} {handle : Handle} {interface : Interface}
    {config : AdapterConfig} {owned : Owned Adapter}
    (made : (create arena handle interface config).answer = .ok owned) :
    owned.value = setUpFor handle interface config ∧
      (arena.allocateFor Adapter).answer = .ok owned.block := by
  cases (create_making arena handle interface config).1 with
  | made got answer _ =>
    cases made.symm.trans answer
    exact ⟨rfl, got⟩
  | unhoused got answer _ => cases made.symm.trans answer
  | unfit got answer _ =>
    rw [made] at answer
    split at answer <;> cases answer

@[simp] theorem destroy_calls (a : Adapter) : hostCalls a.destroy = [] := by
  unfold destroy
  split <;> rfl

/-- An adapter is destroyed and its block goes back. -/
theorem discard_some (owned : Owned Adapter) (arena : Arena) :
    discard (some owned) arena =
      ((arena.surrenderOf Adapter owned.block).mapEvents Event.pool).after owned.value.destroy :=
  rfl

end Adapter

namespace Context

/-! ## Coming -/

/-- The settings of an adapter that is brought up with `p`. -/
def settingsFor (c : Context) (p : Parameters) : AdapterConfig := c.config.adapter.withOverrides p

/-- What can come of bringing an adapter up. -/
inductive Creation (c : Context) (arena : Arena) (p : Parameters)
    (o : Outcome Event (Context × Arena) (Except Failure Handle)) : Prop
  /-- There is no slot for it. -/
  | turnedAway {why : Error} (answer : o.answer = .error (.refused why))
      (state : o.state = (c, arena))
  | unmade {i : Fin maxAdapters} {why : Failure}
      (made : (Adapter.create arena (c.slots.nextHandle i) p.interface (c.settingsFor p)).answer =
        .error why)
      (answer : o.answer = .error why)
      (state : o.state =
        (c, (Adapter.create arena (c.slots.nextHandle i) p.interface (c.settingsFor p)).state))
  /-- The host does not want it. -/
  | withdrawn {i : Fin maxAdapters} {owned : Owned Adapter} {why : Error}
      (made : (Adapter.create arena (c.slots.nextHandle i) p.interface (c.settingsFor p)).answer =
        .ok owned)
      (answer : o.answer =
        match ((Adapter.create arena (c.slots.nextHandle i) p.interface
          (c.settingsFor p)).state.surrenderOf Adapter owned.block).answer with
        | .ok () => .error (.refused why)
        | .error fault => .error (.fatal (.pool fault)))
      (state : o.state =
        (c, ((Adapter.create arena (c.slots.nextHandle i) p.interface
          (c.settingsFor p)).state.surrenderOf Adapter owned.block).state))
  | installed {i : Fin maxAdapters} {owned : Owned Adapter}
      (unused : c.slots.findInterface? p.interface = none)
      (free : c.slots.firstFree? = some i)
      (made : (Adapter.create arena (c.slots.nextHandle i) p.interface (c.settingsFor p)).answer =
        .ok owned)
      (answer : o.answer = .ok (c.slots.nextHandle i))
      (state : o.state =
        ({ c with
            slots := c.slots.put i
              ⟨some owned, some p.interface, (c.slots.slot i).generation + 1⟩ },
          (Adapter.create arena (c.slots.nextHandle i) p.interface (c.settingsFor p)).state))

theorem present_unsettling (answers : HostAnswers) (a : Adapter) :
    Unsettling (present answers a).2 := by
  unfold present
  split
  · simp [Unsettling, HostCall.settles]
  · split
    · simp [Unsettling, HostCall.settles]
    · simp [Unsettling, HostCall.settles]

theorem withdraw_calls (c : Context) (owned : Owned Adapter) (arena : Arena) (why : Error) :
    hostCalls (c.withdraw owned arena why).events = [] := by
  simp [withdraw, Adapter.discard_some]

theorem createAdapter_creation (c : Context) (arena : Arena) (answers : HostAnswers)
    (p : Parameters) : Creation c arena p (c.createAdapter arena answers p) := by
  unfold createAdapter
  dsimp only
  split
  · exact .turnedAway rfl rfl
  · split
    · exact .turnedAway rfl rfl
    · rename_i unused
      split
      · exact .turnedAway rfl rfl
      · rename_i i free
        split
        · rename_i why made
          exact .unmade made rfl rfl
        · rename_i owned made
          unfold install
          split
          · exact .withdrawn made rfl rfl
          · rw [SlotTable.occupy_of_free (SlotTable.firstFree?_vacant free)]
            exact .installed unused free made rfl rfl

/-- Bringing an adapter up settles nothing, whatever comes of it. -/
theorem createAdapter_unsettling (c : Context) (arena : Arena) (answers : HostAnswers)
    (p : Parameters) : Unsettling (c.createAdapter arena answers p).events := by
  unfold createAdapter
  dsimp only
  split
  · exact unsettling_of_silent rfl
  · split
    · exact unsettling_of_silent rfl
    · split
      · simp [Unsettling, HostCall.settles]
      · rename_i i free
        have silent := (Adapter.create_making arena (c.slots.nextHandle i) p.interface
          (c.settingsFor p)).2
        split
        · refine (unsettling_of_silent silent).append ?_
          split
          · simp [Unsettling, HostCall.settles]
          · exact unsettling_of_silent rfl
        · rename_i owned made
          refine (unsettling_of_silent silent).append ?_
          have shown := present_unsettling answers owned.value
          unfold install
          split
          · rename_i status events presented
            rw [presented] at shown
            exact (shown.append (unsettling_of_silent rfl)).append
              (unsettling_of_silent (c.withdraw_calls _ _ _))
          · rename_i events presented
            rw [presented] at shown
            rw [SlotTable.occupy_of_free (SlotTable.firstFree?_vacant free)]
            exact shown

/-! ## Going -/

/-- An adapter that is brought down leaves its slot, every list it had still to send goes back as
failed, and so does its block. -/
theorem haltAdapter_of_found {c : Context} {handle : Handle} {i : Fin maxAdapters}
    {owned : Owned Adapter} (found : c.slots.locate handle = .ok (i, owned)) (arena : Arena)
    (action : HaltAction) :
    (c.haltAdapter arena handle action).answer =
        (arena.surrenderOf Adapter owned.block).answer.mapError Fatal.pool ∧
      (c.haltAdapter arena handle action).state =
        ({ c with slots := c.slots.vacate i }, (arena.surrenderOf Adapter owned.block).state) ∧
      hostCalls (c.haltAdapter arena handle action).events =
        owned.value.sends.held.map fun list => .sendComplete owned.value.handle list .failure := by
  unfold haltAdapter
  rw [found]
  refine ⟨rfl, rfl, ?_⟩
  simp [Adapter.discard_some, owned.value.flushSends_spec.1]

/-- What stops the driver depends on the handle and on what is wrong with it. -/
theorem haltAdapter_lost (handle : Handle) (action : HaltAction) (why : Error) :
    ∃ check, ∀ (c : Context) (arena : Arena), c.slots.locate handle = .error why →
      c.haltAdapter arena handle action =
        ⟨.error (.bugCheck check), (c, arena), [.notice (.bugCheck check)]⟩ := by
  refine ⟨if why = .invalidHandle then .haltOfInvalidAdapter handle
    else .haltOfStaleAdapter handle, fun c arena missing => ?_⟩
  unfold haltAdapter
  rw [missing]

/-- A handle that names no adapter stops the driver and nothing else happens. -/
theorem haltAdapter_of_missing {c : Context} {handle : Handle} {why : Error}
    (missing : c.slots.locate handle = .error why) (arena : Arena) (action : HaltAction) :
    (∃ check, (c.haltAdapter arena handle action).answer = .error (.bugCheck check)) ∧
      (c.haltAdapter arena handle action).state = (c, arena) ∧
      hostCalls (c.haltAdapter arena handle action).events = [] := by
  obtain ⟨check, lost⟩ := haltAdapter_lost handle action why
  rw [lost c arena missing]
  exact ⟨⟨check, rfl⟩, rfl, rfl⟩

end Context

namespace Driver

theorem serve_create {request : Request} {p : Parameters} {refuse : Error → Response}
    (errand : request.errand = .create p refuse) (d : Driver) (answers : HostAnswers) :
    d.serve answers request =
      d.onBoth (fun c arena => c.createAdapter arena answers p) (readCreated refuse) := by
  cases request
  case halt handle action => cases handle <;> cases errand
  all_goals cases errand
  all_goals rfl

theorem serve_halt {request : Request} {handle : Handle} {action : HaltAction}
    (errand : request.errand = .halt handle action) (d : Driver) (answers : HostAnswers) :
    d.serve answers request =
      d.onBoth (fun c arena => c.haltAdapter arena handle action) (Except.map fun _ => .done) := by
  cases request
  case halt handle action => cases handle <;> cases errand; rfl
  all_goals cases errand
  all_goals rfl

end Driver

end PacketRadio
