import PacketRadio.Proofs.Driver.Activity
import PacketRadio.Proofs.Driver.Confined
import PacketRadio.Proofs.Driver.Decision
import PacketRadio.Proofs.Driver.Teardown

/-!
# The role of the active context

A context that is made claims the role, and holds it from then on. It gives the role up on every way
out: when it is destroyed or unloaded, when there is no block for it in the arena, and when the host
refuses the driver. What is reported of the role is that a context which holds it came to life, and,
should that ever happen, that one which gives it up was not the one recorded.
-/

namespace PacketRadio

open Pool

/-! ## Reports -/

/-- What is reported of the role: a context that took it came to life, or one that gave it up was
not recorded. -/
inductive RoleReport
  | created (context : UInt32)
  | notRecorded (context active : UInt32)
  deriving DecidableEq

def Event.roleReport? : Event → Option RoleReport
  | .notice (.contextCreated context) => some (.created context)
  | .notice (.claimNotRecorded context active) => some (.notRecorded context active)
  | _ => none

def roleReports (events : List Event) : List RoleReport := events.filterMap Event.roleReport?

@[simp] theorem roleReports_append (events more : List Event) :
    roleReports (events ++ more) = roleReports events ++ roleReports more :=
  List.filterMap_append

theorem Confined.roleReports {events : List Event} (confined : Confined events) :
    roleReports events = [] := by
  refine List.filterMap_eq_nil_iff.2 fun e member => ?_
  have plain := confined e member
  cases e with
  | pool notice => rfl
  | call c => rfl
  | notice notice =>
    cases notice
    case contextCreated => cases plain
    case claimNotRecorded => cases plain
    all_goals rfl

/-! ## Contexts come and go -/

/-- The status with which the host refuses to register the driver. -/
def HostAnswers.rebuff? (answers : HostAnswers) : Option Status :=
  match answers.registration with
  | .ok _ => none
  | .error status => some status

namespace Context

variable {arena : Arena} {activity : Activity}

/-- Where there are no adapters, none is cleared, and nothing is reported. -/
theorem clearSlots_of_vacant (context : UInt32) (is : List (Fin maxAdapters)) {t : SlotTable}
    (vacant : ∀ i, (t.slot i).occupant = none) (arena : Arena) :
    (clearSlots context is t arena).answer = .ok 0 ∧
      (clearSlots context is t arena).state.2 = arena ∧
      (clearSlots context is t arena).events = [] := by
  induction is generalizing t with
  | nil => exact ⟨rfl, rfl, rfl⟩
  | cons i is ih =>
    rw [clearSlots_of_free (vacant i)]
    refine ih fun j => ?_
    rw [SlotTable.slot_vacate]
    split
    · rfl
    · exact vacant j

/-- A new context leaves the arena alone when it is taken down. -/
theorem teardown_fresh (id : UInt32) (config : DriverConfig) (arena : Arena) (activity : Activity) :
    ((fresh id config).teardown arena activity).answer = .ok () ∧
      ((fresh id config).teardown arena activity).state.1 = arena := by
  have vacant : ∀ i, ((fresh id config).slots.slot i).occupant = none := fun i =>
    congrArg Slot.occupant (SlotTable.slot_empty i)
  obtain ⟨cleared, kept, -⟩ :=
    clearSlots_of_vacant (fresh id config).id (List.finRange maxAdapters) vacant arena
  obtain ⟨answer, state, -⟩ := teardown_of_cleared cleared activity
  exact ⟨answer, state.trans kept⟩

theorem leave_role (c : Context) : roleReports c.leave.events = [] := by
  unfold leave
  split <;> rfl

/-- However a context is taken down that is recorded as the active one, it gives the role up. -/
theorem teardown_role (c : Context) (arena : Arena) {activity : Activity}
    (recorded : activity.active = c.id) :
    (c.teardown arena activity).state.2 = { activity with active := 0 } ∧
      roleReports (c.teardown arena activity).events = [] := by
  have cleared := clearSlots_confined c.id (List.finRange maxAdapters) c.slots arena
  unfold teardown
  rw [Activity.release_of_recorded recorded]
  dsimp only
  split
  · refine ⟨rfl, ?_⟩
    simp only [roleReports_append, cleared.roleReports, c.leave_role]
    rfl
  · have dropped := dropSlots_confined (List.finRange maxAdapters)
      (clearSlots c.id (List.finRange maxAdapters) c.slots arena).state.1
      (clearSlots c.id (List.finRange maxAdapters) c.slots arena).state.2
    refine ⟨rfl, ?_⟩
    simp only [roleReports_append, cleared.roleReports, dropped.roleReports]
    rfl

theorem discard_role (owned : Owned Context) (arena : Arena) {activity : Activity}
    (recorded : activity.active = owned.value.id) :
    (discard (some owned) arena activity).state.2 = { activity with active := 0 } ∧
      roleReports (discard (some owned) arena activity).events = [] := by
  obtain ⟨state, reports⟩ := owned.value.teardown_role arena recorded
  unfold discard
  simp only [Outcome.andThen_state, Outcome.andThen_events, roleReports_append, reports]
  split
  · exact ⟨state, rfl⟩
  · exact ⟨state, (Confined.pool _).roleReports⟩

theorem unload_role (owned : Owned Context) (arena : Arena) {activity : Activity}
    (recorded : activity.active = owned.value.id) :
    (unload (some owned) arena activity).state.2 = { activity with active := 0 } ∧
      roleReports (unload (some owned) arena activity).events = [] := by
  obtain ⟨state, reports⟩ := discard_role ⟨owned.block, owned.value.leave.state⟩ arena
    (recorded.trans owned.value.leave_make.1.symm)
  refine ⟨state, ?_⟩
  change roleReports ((.notice _ :: owned.value.leave.events) ++ _) = []
  rw [roleReports_append, reports, List.append_nil]
  exact owned.value.leave_role

/-- What can come of making a context, or of loading a driver that the host may turn down. -/
inductive Coming (arena : Arena) (activity : Activity) (config : DriverConfig)
    (refusal? : Option Status)
    (o : Outcome Event (Arena × Activity) (Except Failure (Owned Context))) : Prop
  | unfit (unfit : config.fault? ≠ none) (answer : o.answer = .error (.refused .invalidConfig))
      (state : o.state = (arena, activity)) (reports : roleReports o.events = [])
  /-- Another context is active. The claim has taken a number. -/
  | contended (fits : config.fault? = none) (claimed : activity.active ≠ 0)
      (answer : o.answer = .error (.refused .contextAlreadyActive))
      (state : o.state = (arena, { activity with next := activity.next + 1 }))
      (reports : roleReports o.events = [])
  | unhoused (fits : config.fault? = none) (unclaimed : activity.active = 0)
      (crowded : ¬ arena.HasRoom (Pooled.layout Context))
      (answer : o.answer = .error (.refused .outOfMemory))
      (state : o.state = (arena.afterRefusal, ⟨0, activity.next + 1⟩))
      (reports : roleReports o.events = [])
  /-- The context came to life, but the host does not want the driver. -/
  | declined {status : Status} (fits : config.fault? = none) (unclaimed : activity.active = 0)
      (room : arena.HasRoom (Pooled.layout Context)) (refused : refusal? = some status)
      (answer : o.answer = .error (.refused (.registration status)))
      (state : o.state = (arena.afterReturn, ⟨0, activity.next + 1⟩))
      (reports : roleReports o.events = [.created activity.next])
  | housed {owned : Owned Context} (fits : config.fault? = none) (unclaimed : activity.active = 0)
      (room : arena.HasRoom (Pooled.layout Context)) (welcome : refusal? = none)
      (answer : o.answer = .ok owned) (id : owned.value.id = activity.next)
      (state : o.state = ((arena.allocateFor Context).state, ⟨activity.next, activity.next + 1⟩))
      (reports : roleReports o.events = [.created activity.next])

/-- Making a context checks the settings, claims the role and asks for a block, in this order. -/
theorem create_coming (sound : arena.Sound) (activity : Activity) (config : DriverConfig) :
    Coming arena activity config none (create arena activity config) := by
  unfold create
  split
  · rename_i fault unfit
    exact .unfit (by rw [unfit]; exact nofun) rfl rfl rfl
  · rename_i fits
    by_cases unclaimed : activity.active = 0
    · rw [Activity.claim_of_unclaimed unclaimed]
      have asked : roleReports ((arena.allocateFor Context).events.map .pool) = [] :=
        (Confined.pool _).roleReports
      simp only [Outcome.andThen, Outcome.after, List.nil_append, settleIn,
        Outcome.mapEvents_answer, Outcome.mapEvents_state, Outcome.mapEvents_events]
      rcases Arena.allocateFor_of_room (α := Context) sound (by decide) (by decide) with
        ⟨offset, free, room, -, -, got, -⟩ | ⟨why, crowded, exhausted, refused, after⟩
      · rw [got]
        refine .housed fits unclaimed room rfl rfl rfl rfl ?_
        simp only [roleReports_append, asked]
        rfl
      · obtain ⟨torn, kept⟩ := teardown_fresh activity.next config arena.afterRefusal
          ⟨activity.next, activity.next + 1⟩
        have recorded : (⟨activity.next, activity.next + 1⟩ : Activity).active =
            (fresh activity.next config).id := rfl
        obtain ⟨role, reports⟩ := teardown_role _ arena.afterRefusal recorded
        rw [refused, after]
        simp only [torn]
        refine .unhoused fits unclaimed crowded ?_ ?_ ?_
        · rw [Error.ofRefusal, if_pos exhausted]
        · dsimp only
          exact Prod.ext kept role
        · simp only [roleReports_append, asked, reports]
          rfl
    · rw [Activity.claim_of_claimed unclaimed]
      exact .contended fits unclaimed rfl rfl rfl

/-- A context that is destroyed as soon as it was made leaves its arena as it was. -/
theorem discard_fresh (sound : arena.Sound) {block : Block}
    (got : (arena.allocateFor Context).answer = .ok block) (id : UInt32) (config : DriverConfig)
    (activity : Activity) :
    (discard (some ⟨block, fresh id config⟩) (arena.allocateFor Context).state activity).answer =
        .ok () ∧
      (discard (some ⟨block, fresh id config⟩) (arena.allocateFor Context).state activity).state.1 =
        arena.afterReturn := by
  obtain ⟨torn, kept⟩ := teardown_fresh id config (arena.allocateFor Context).state activity
  obtain ⟨back, after⟩ := Arena.surrenderOf_allocateFor sound context_layout_ofType got
  unfold discard
  simp only [Outcome.andThen_answer, Outcome.andThen_state, torn, Outcome.within_answer,
    Outcome.within_state, Outcome.mapEvents_answer, Outcome.mapEvents_state, kept]
  exact ⟨back, after⟩

/-- Where no context can be made, there is nothing to register. -/
theorem load_of_failed {config : DriverConfig} {why : Failure}
    (failed : (create arena activity config).answer = .error why) (answers : HostAnswers)
    (driver : DriverObject) (path : String) :
    (load arena activity answers driver path config).answer = .error why ∧
      (load arena activity answers driver path config).state =
        (create arena activity config).state ∧
      roleReports (load arena activity answers driver path config).events =
        roleReports (create arena activity config).events := by
  unfold load
  simp only [Outcome.after_answer, Outcome.after_state, Outcome.after_events,
    Outcome.andThen_answer, Outcome.andThen_state, Outcome.andThen_events, failed,
    roleReports_append]
  exact ⟨rfl, rfl, List.append_nil _⟩

/-- Loading a driver makes a context, which goes again if the host refuses. -/
theorem load_coming (sound : arena.Sound) (activity : Activity) (answers : HostAnswers)
    (driver : DriverObject) (path : String) (config : DriverConfig) :
    Coming arena activity config answers.rebuff?
      (load arena activity answers driver path config) := by
  cases create_coming sound activity config with
  | unfit unfit answer state reports =>
    obtain ⟨answer', state', reports'⟩ := load_of_failed answer answers driver path
    exact .unfit unfit answer' (state'.trans state) (reports'.trans reports)
  | contended fits claimed answer state reports =>
    obtain ⟨answer', state', reports'⟩ := load_of_failed answer answers driver path
    exact .contended fits claimed answer' (state'.trans state) (reports'.trans reports)
  | unhoused fits unclaimed crowded answer state reports =>
    obtain ⟨answer', state', reports'⟩ := load_of_failed answer answers driver path
    exact .unhoused fits unclaimed crowded answer' (state'.trans state) (reports'.trans reports)
  | declined _ _ _ refused => cases refused
  | @housed owned fits unclaimed room _ answer id state reports =>
    obtain ⟨block, c⟩ := owned
    have got : (arena.allocateFor Context).answer = .ok block := (create_made answer).1
    have new : c = fresh activity.next config := (create_grants answer).2.1
    subst new
    unfold load
    cases host : answers.registration with
    | ok handle =>
      have registered : (fresh activity.next config).register answers driver path =
          ⟨.ok handle,
            { fresh activity.next config with registration := .registered handle driver },
            [.call (.register driver path (.ofConfig config)),
              .notice (.registered (.ofConfig config))]⟩ := by
        simp only [register, fresh, host]
      simp only [Outcome.andThen, Outcome.after, answer, registered]
      refine .housed fits unclaimed room ?_ rfl rfl state ?_
      · rw [HostAnswers.rebuff?, host]
      · simp only [roleReports_append, reports]
        rfl
    | error status =>
      have refused : (fresh activity.next config).register answers driver path =
          ⟨.error (.registration status), fresh activity.next config,
            [.call (.register driver path (.ofConfig config)),
              .notice (.registrationFailed status)]⟩ := by
        simp only [register, fresh, host]
      obtain ⟨gone, after⟩ := discard_fresh sound got activity.next config
        ⟨activity.next, activity.next + 1⟩
      have recorded : (⟨activity.next, activity.next + 1⟩ : Activity).active =
          (fresh activity.next config).id := rfl
      obtain ⟨role, silent⟩ := discard_role ⟨block, fresh activity.next config⟩
        (arena.allocateFor Context).state recorded
      simp only [Outcome.andThen, Outcome.after, Outcome.map, answer, refused, state]
      have rebuffed : answers.rebuff? = some status := by
        rw [HostAnswers.rebuff?, host]
      refine .declined fits unclaimed room rebuffed ?_ ?_ ?_
      · dsimp only
        rw [gone]
      · dsimp only
        exact Prod.ext after role
      · simp only [roleReports_append, reports, silent]
        rfl

end Context

/-! ## Arenas stay in order -/

theorem Adapter.discard_opened {arena : Arena} (opened : arena.Opened) (box : Box Adapter) :
    (discard box arena).state.Opened := by
  cases box with
  | none => exact opened
  | some owned => exact opened.surrenderOf owned.block

namespace Context

variable {arena : Arena} {activity : Activity}

theorem Coming.opened {config : DriverConfig} {refusal? : Option Status}
    {o : Outcome Event (Arena × Activity) (Except Failure (Owned Context))}
    (coming : Coming arena activity config refusal? o) (opened : arena.Opened) :
    o.state.1.Opened := by
  have asked := opened.allocateFor context_layout_ofType
  have found := Arena.allocateFor_of_room (α := Context) opened.sound (by decide) (by decide)
  cases coming with
  | unfit _ _ state _ => rwa [state]
  | contended _ _ _ state _ => rwa [state]
  | unhoused _ _ crowded _ state _ =>
    rcases found with ⟨_, _, room, -⟩ | ⟨why, -, -, -, after⟩
    · exact absurd room crowded
    · rw [state, ← after]
      exact asked
  | declined _ _ room _ _ state _ =>
    rcases found with ⟨_, _, -, -, -, got, -⟩ | ⟨why, crowded, -⟩
    · rw [state, ← (Arena.surrenderOf_allocateFor opened.sound context_layout_ofType got).2]
      exact asked.surrenderOf _
    · exact absurd room crowded
  | housed _ _ _ _ _ _ state _ =>
    rw [state]
    exact asked

theorem clearSlots_opened (opened : arena.Opened) (context : UInt32)
    (is : List (Fin maxAdapters)) (t : SlotTable) :
    (clearSlots context is t arena).state.2.Opened := by
  induction is generalizing t arena with
  | nil => exact opened
  | cons i is ih =>
    unfold clearSlots
    split
    · exact ih opened _
    · rename_i owned holds
      have gone := Adapter.discard_opened opened (some ⟨owned.block, owned.value.flushSends.state⟩)
      dsimp only
      split
      · exact gone
      · exact ih gone _

theorem dropSlots_opened (opened : arena.Opened) (is : List (Fin maxAdapters)) (t : SlotTable) :
    (dropSlots is t arena).state.Opened := by
  induction is generalizing arena with
  | nil => exact opened
  | cons i is ih => exact ih (Adapter.discard_opened opened _)

theorem discard_opened (opened : arena.Opened) (box : Box Context) (activity : Activity) :
    (discard box arena activity).state.1.Opened := by
  cases box with
  | none => exact opened
  | some owned =>
    have torn : (owned.value.teardown arena activity).state.1.Opened := by
      have cleared := clearSlots_opened opened owned.value.id (List.finRange maxAdapters)
        owned.value.slots
      unfold teardown
      dsimp only
      split
      · exact cleared
      · exact dropSlots_opened cleared _ _
    unfold discard
    rw [Outcome.andThen_state]
    split
    · exact torn
    · exact torn.surrenderOf owned.block

/-- What is unloaded is discarded. -/
theorem unload_opened (opened : arena.Opened) (box : Box Context) (activity : Activity) :
    (unload box arena activity).state.1.Opened := by
  cases box with
  | none => exact opened
  | some owned => exact discard_opened opened (some ⟨owned.block, owned.value.leave.state⟩) activity

end Context

/-- No request concerns the role. -/
theorem Driver.serve_role (d : Driver) (answers : HostAnswers) (request : Request) :
    roleReports (d.serve answers request).events = [] := by
  cases wide : request.driverwide with
  | false => exact (d.serve_confined answers wide).roleReports
  | true =>
    cases request
    case register driver path =>
      simp only [serve, onContext, Context.register]
      split
      · rfl
      · split <;> rfl
    case deregister handle =>
      simp only [serve, onContext, Context.deregister]
      split
      · rfl
      · split
        · rfl
        · exact d.context.value.leave_role
    all_goals cases wide

end PacketRadio
