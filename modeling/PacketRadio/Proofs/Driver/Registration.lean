import PacketRadio.Proofs.Driver.Confined
import PacketRadio.Proofs.Driver.Reachable
import PacketRadio.Proofs.Driver.Teardown

/-!
# Registering and leaving

A book is kept of a driver's registrations: what the host granted, and what was undone. A driver can
be deregistered by request, when it is unloaded, and when its context is destroyed, and after a
refusal it may ask again. Whatever happens, each entry of the book that is undone is so once, before
the next one is made, and under the handle that the host gave for it. When the driver is gone, none
is left.
-/

namespace PacketRadio

open Pool

/-! ## The book -/

/-- A line in the book of registrations. -/
inductive Entry
  | registered (handle : DriverHandle) (driver : DriverObject)
  | undone (handle : DriverHandle)
  deriving DecidableEq

/-- What a call enters in the book. A registration that the host refuses enters nothing. -/
def HostCall.entry? (answers : HostAnswers) : HostCall → Option Entry
  | .register driver _ _ =>
    match answers.registration with
    | .ok handle => some (.registered handle driver)
    | .error _ => none
  | .deregister handle => some (.undone handle)
  | _ => none

/-- What the host enters in the book, with these answers. -/
def entries (answers : HostAnswers) (events : List Event) : List Entry :=
  (hostCalls events).filterMap (HostCall.entry? answers)

section Entries

variable {answers : HostAnswers} {events more : List Event}

@[simp] theorem entries_append :
    entries answers (events ++ more) = entries answers events ++ entries answers more := by
  rw [entries, hostCalls_append, List.filterMap_append]
  rfl

theorem entries_of_silent (silent : hostCalls events = []) : entries answers events = [] := by
  rw [entries, silent]
  rfl

@[simp] theorem entries_notice (notice : Notice) :
    entries answers (.notice notice :: events) = entries answers events := rfl

theorem Confined.entries (confined : Confined events) : entries answers events = [] := by
  refine List.filterMap_eq_nil_iff.2 fun call member => ?_
  obtain ⟨e, here, same⟩ := List.mem_filterMap.1 member
  have plain := confined e here
  cases e with
  | pool notice => cases same
  | notice notice => cases same
  | call c =>
    cases same
    cases call
    case register => cases plain
    case deregister => cases plain
    all_goals rfl

end Entries

/-! ## Pairs -/

/-- The entry that is yet to be undone. -/
def Registration.standing : Registration → List Entry
  | .unregistered => []
  | .registered handle driver => [.registered handle driver]

/-- A registration that is over: it was granted and then undone. -/
def stay (granted : DriverHandle × DriverObject) : List Entry :=
  [.registered granted.1 granted.2, .undone granted.1]

/-- The book is a sequence of registrations that are over, followed by the one that stands. -/
def Paired (book : List Entry) (now : Registration) : Prop :=
  ∃ stays : List (DriverHandle × DriverObject), book = stays.flatMap stay ++ now.standing

namespace Paired

theorem nil : Paired [] .unregistered := ⟨[], rfl⟩

/-- The registration that stands is the last line of the book. -/
theorem last {book : List Entry} {now : Registration} (paired : Paired book now)
    (handle : DriverHandle) (driver : DriverObject) :
    now = .registered handle driver ↔ book.getLast? = some (.registered handle driver) := by
  obtain ⟨stays, rfl⟩ := paired
  cases now with
  | registered handle' driver' => simp [Registration.standing]
  | unregistered =>
    rw [Registration.standing, List.append_nil]
    refine iff_of_false (fun same => by cases same) ?_
    obtain rfl | ⟨earlier, granted, rfl⟩ := stays.eq_nil_or_concat
    · simp
    · simp [stay]

end Paired

/-- What becomes of a registration in one step, with what is entered in the book. -/
inductive Booked : Registration → List Entry → Registration → Prop
  | same (r : Registration) : Booked r [] r
  | enters (handle : DriverHandle) (driver : DriverObject) :
      Booked .unregistered [.registered handle driver] (.registered handle driver)
  | leaves (handle : DriverHandle) (driver : DriverObject) :
      Booked (.registered handle driver) [.undone handle] .unregistered

/-- **Every step keeps the pairs.** -/
theorem Paired.step {book lines : List Entry} {before after : Registration}
    (paired : Paired book before) (booked : Booked before lines after) :
    Paired (book ++ lines) after := by
  obtain ⟨stays, rfl⟩ := paired
  cases booked with
  | same =>
    refine ⟨stays, ?_⟩
    rw [List.append_nil]
  | enters handle driver =>
    refine ⟨stays, ?_⟩
    rw [Registration.standing, List.append_nil]
    rfl
  | leaves handle driver =>
    refine ⟨stays ++ [(handle, driver)], ?_⟩
    simp [Registration.standing, stay]

/-! ## What operations enter -/

namespace Context

/-- What can come of asking the host to register the driver. -/
inductive Registering (c : Context) (answers : HostAnswers) (driver : DriverObject)
    (o : Outcome Event Context (Except Error DriverHandle)) : Prop
  | granted {handle : DriverHandle} (unregistered : c.registration = .unregistered)
      (grants : answers.registration = .ok handle) (answer : o.answer = .ok handle)
      (after : o.state.registration = .registered handle driver)
      (lines : entries answers o.events = [.registered handle driver])
  /-- The driver is registered already, or the host does not want it. -/
  | refused {why : Error}
      (ungranted : c.registration = .unregistered → ∀ handle, answers.registration ≠ .ok handle)
      (answer : o.answer = .error why) (state : o.state = c)
      (lines : entries answers o.events = [])

theorem register_registering (c : Context) (answers : HostAnswers) (driver : DriverObject)
    (path : String) : Registering c answers driver (c.register answers driver path) := by
  unfold register
  split
  · rename_i stands
    refine .refused (fun unregistered => ?_) rfl rfl rfl
    cases stands.symm.trans unregistered
  · rename_i unregistered
    have asked : ∀ notice, entries answers
        [.call (.register driver path (.ofConfig c.config)), .notice notice] =
          (HostCall.entry? answers (.register driver path (.ofConfig c.config))).toList := by
      intro notice
      rw [entries, hostCalls_call, List.filterMap_cons]
      cases HostCall.entry? answers (.register driver path (.ofConfig c.config)) <;> rfl
    split
    · rename_i handle grants
      refine .granted unregistered grants rfl rfl ?_
      simp only [asked, HostCall.entry?, grants]
      rfl
    · rename_i status refuses
      refine .refused (fun _ handle grants => ?_) rfl ?_ ?_
      · cases refuses.symm.trans grants
      · rw [← unregistered]
      · simp only [asked, HostCall.entry?, refuses]
        rfl

theorem register_booked (c : Context) (answers : HostAnswers) (driver : DriverObject)
    (path : String) :
    Booked c.registration (entries answers (c.register answers driver path).events)
      (c.register answers driver path).state.registration := by
  cases c.register_registering answers driver path with
  | granted unregistered grants answer after lines =>
    rw [unregistered, after, lines]
    exact .enters _ _
  | refused ungranted answer state lines =>
    rw [state, lines]
    exact .same _

theorem leave_booked (c : Context) (answers : HostAnswers) :
    Booked c.registration (entries answers c.leave.events) c.leave.state.registration := by
  unfold leave
  split
  · rename_i unregistered
    rw [Outcome.quiet_state, unregistered]
    exact .same _
  · rename_i handle driver stands
    rw [stands]
    exact .leaves handle driver

/-- Nobody is registered who has left. -/
theorem leave_registration (c : Context) : c.leave.state.registration = .unregistered := by
  unfold leave
  split
  · assumption
  · rfl

/-- What can come of asking the driver to leave the host, under a handle. -/
inductive Leaving (c : Context) (handle : DriverHandle)
    (o : Outcome Event Context (Except Error Unit)) : Prop
  | left {driver : DriverObject} (stands : c.registration = .registered handle driver)
      (answer : o.answer = .ok ()) (state : o.state = c.leave.state)
      (events : o.events = c.leave.events)
  /-- The driver is not registered, or not under this handle. -/
  | refused {why : Error} (other : ∀ driver, c.registration ≠ .registered handle driver)
      (answer : o.answer = .error why) (state : o.state = c) (silent : hostCalls o.events = [])

theorem deregister_leaving (c : Context) (handle : DriverHandle) :
    Leaving c handle (c.deregister handle) := by
  unfold deregister
  split
  · rename_i unregistered
    refine .refused (fun driver stands => ?_) rfl rfl rfl
    cases unregistered.symm.trans stands
  · rename_i expected driver registered
    split
    · rename_i differs
      refine .refused (fun driver' stands => ?_) rfl rfl rfl
      cases registered.symm.trans stands
      exact differs rfl
    · rename_i same
      rw [not_not] at same
      subst same
      exact .left registered rfl rfl rfl

theorem deregister_booked (c : Context) (answers : HostAnswers) (handle : DriverHandle) :
    Booked c.registration (entries answers (c.deregister handle).events)
      (c.deregister handle).state.registration := by
  cases c.deregister_leaving handle with
  | left stands answer state events =>
    rw [state, events]
    exact c.leave_booked answers
  | refused other answer state silent =>
    rw [state, entries_of_silent silent]
    exact .same _

theorem createAdapter_registration (c : Context) (arena : Arena) (answers : HostAnswers)
    (p : Parameters) :
    (c.createAdapter arena answers p).state.1.registration = c.registration := by
  rcases c.createAdapter_creation arena answers p with
    ⟨-, state⟩ | ⟨-, -, state⟩ | ⟨-, -, state⟩ | ⟨-, -, -, -, state⟩ <;>
  · rw [state]

theorem haltAdapter_registration (c : Context) (arena : Arena) (handle : Handle)
    (action : HaltAction) :
    (c.haltAdapter arena handle action).state.1.registration = c.registration := by
  cases found : c.slots.locate handle with
  | error why => rw [(haltAdapter_of_missing found arena action).2.1]
  | ok there =>
    obtain ⟨i, owned⟩ := there
    rw [(haltAdapter_of_found found arena action).2.1]

end Context

namespace Driver

/-- Whether the host knows the driver. -/
abbrev registration (d : Driver) : Registration := d.context.value.registration

/-- Only registering and deregistering changes the registration. -/
theorem serve_registration (d : Driver) (answers : HostAnswers) {request : Request}
    (plain : request.driverwide = false) :
    (d.serve answers request).state.registration = d.registration := by
  cases errand : request.errand with
  | aside =>
    cases request
    case register => cases plain
    case deregister => cases plain
    case halt handle action =>
      cases handle with
      | none => rfl
      | some handle => cases errand
    case checkForHang handle =>
      simp only [serve, onContext, Context.checkForHang]
      split <;> rfl
    case notePnp handle event =>
      simp only [serve, onContext, Context.notePnp]
      split <;> rfl
    case notifyRestart => rfl
    case cancelSend => rfl
    case cancelRequest => rfl
    case reset => rfl
    case shutdown => rfl
    all_goals cases errand
  | visit v =>
    cases found : d.slots.locate v.adapter with
    | error why => rw [serve_of_missing errand found]
    | ok there =>
      obtain ⟨i, owned⟩ := there
      rw [serve_of_found errand found]
      rfl
  | create p refuse =>
    rw [serve_create errand]
    exact d.context.value.createAdapter_registration d.arena answers p
  | halt handle action =>
    rw [serve_halt errand]
    exact d.context.value.haltAdapter_registration d.arena handle action

/-- **What a request enters in the book is what becomes of the registration.** -/
theorem serve_booked (d : Driver) (answers : HostAnswers) (request : Request) :
    Booked d.registration (entries answers (d.serve answers request).events)
      (d.serve answers request).state.registration := by
  cases wide : request.driverwide with
  | false =>
    rw [d.serve_registration answers wide, (d.serve_confined answers wide).entries]
    exact .same _
  | true =>
    cases request
    case register driver path => exact d.context.value.register_booked answers driver path
    case deregister handle => exact d.context.value.deregister_booked answers handle
    all_goals cases wide

/-! ## What the driver is asked -/

section Asked

variable (d : Driver) (answers : HostAnswers)

/-- The host is not asked to register a driver that it knows. -/
theorem serve_asks {request : Request} {driver : DriverObject} {path : String}
    {characteristics : Characteristics}
    (asked : .register driver path characteristics ∈ hostCalls (d.serve answers request).events) :
    d.registration = .unregistered := by
  cases wide : request.driverwide with
  | false =>
    obtain ⟨e, member, same⟩ := List.mem_filterMap.1 asked
    have plain := d.serve_confined answers wide e member
    cases e <;> cases same
    cases plain
  | true =>
    cases request
    case register driver path =>
      simp only [serve, onContext, Context.register] at asked
      split at asked
      · cases asked
      · assumption
    case deregister handle =>
      change _ ∈ hostCalls (d.context.value.deregister handle).events at asked
      cases d.context.value.deregister_leaving handle with
      | left stands answer state events =>
        rw [events, Context.leave, stands] at asked
        simp at asked
      | refused other answer state silent =>
        rw [silent] at asked
        cases asked
    all_goals cases wide

theorem serve_registers (driver : DriverObject) (path : String) (handle : DriverHandle) :
    (d.serve answers (.register driver path)).answer = .ok (.registered handle) ↔
      d.registration = .unregistered ∧ answers.registration = .ok handle := by
  simp only [serve, onContext, Outcome.within_answer, Outcome.map_answer]
  cases d.context.value.register_registering answers driver path with
  | granted unregistered grants answer after lines =>
    rw [answer]
    simp [Response.ofExcept, unregistered, grants]
  | refused ungranted answer state lines =>
    rw [answer]
    refine iff_of_false (fun told => by cases told) fun granted => ?_
    exact ungranted granted.1 handle granted.2

theorem serve_leaves (handle : DriverHandle) :
    (d.serve answers (.deregister handle)).answer = .ok .done ↔
      ∃ driver, d.registration = .registered handle driver := by
  simp only [serve, onContext, Outcome.within_answer, Outcome.map_answer]
  cases d.context.value.deregister_leaving handle with
  | left stands answer state events =>
    rw [answer]
    exact iff_of_true rfl ⟨_, stands⟩
  | refused other answer state silent =>
    rw [answer]
    refine iff_of_false (fun told => by cases told) ?_
    rintro ⟨driver, stands⟩
    exact other driver stands

/-- Of the answers that a driver gives about its registration, one that does not grant what was
asked is a refusal, and a refusal changes nothing. -/
theorem serve_declines {request : Request} (wide : request.driverwide = true)
    (ungranted : ∀ handle, (d.serve answers request).answer ≠ .ok (.registered handle))
    (unleft : (d.serve answers request).answer ≠ .ok .done) :
    (∃ why, (d.serve answers request).answer = .ok (.refused why)) ∧
      (d.serve answers request).state = d ∧
      entries answers (d.serve answers request).events = [] := by
  cases request
  case register driver path =>
    simp only [serve, onContext, Outcome.within_answer, Outcome.map_answer, Outcome.within_state,
      Outcome.map_state, Outcome.within_events, Outcome.map_events] at ungranted ⊢
    cases d.context.value.register_registering answers driver path with
    | @granted handle unregistered grants answer after lines =>
      rw [answer] at ungranted
      exact absurd rfl (ungranted handle)
    | refused ungranted answer state lines =>
      rw [answer, state]
      exact ⟨⟨_, rfl⟩, rfl, lines⟩
  case deregister handle =>
    simp only [serve, onContext, Outcome.within_answer, Outcome.map_answer, Outcome.within_state,
      Outcome.map_state, Outcome.within_events, Outcome.map_events] at unleft ⊢
    cases d.context.value.deregister_leaving handle with
    | left stands answer state events =>
      rw [answer] at unleft
      exact absurd rfl unleft
    | refused other answer state silent =>
      rw [answer, state]
      exact ⟨⟨_, rfl⟩, rfl, entries_of_silent silent⟩
  all_goals cases wide

end Asked

end Driver

/-! ## Coming and going -/

namespace Context

/-- Taken down without a fault, a context leaves the host; after a fault it is silent. -/
theorem teardown_entries (c : Context) (arena : Arena) (activity : Activity)
    (answers : HostAnswers) :
    entries answers (c.teardown arena activity).events =
      match (c.teardown arena activity).answer with
      | .ok () => entries answers c.leave.events
      | .error _ => [] := by
  have cleared := clearSlots_confined c.id (List.finRange maxAdapters) c.slots arena
  have released : entries answers (activity.release c.id).events = [] :=
    entries_of_silent (release_silent activity c.id)
  unfold teardown
  dsimp only
  split
  · simp [cleared.entries, released]
  · have dropped := dropSlots_confined (List.finRange maxAdapters)
      (clearSlots c.id (List.finRange maxAdapters) c.slots arena).state.1
      (clearSlots c.id (List.finRange maxAdapters) c.slots arena).state.2
    simp [cleared.entries, dropped.entries, released]

theorem discard_entries (owned : Owned Context) (arena : Arena) (activity : Activity)
    (answers : HostAnswers) :
    entries answers (discard (some owned) arena activity).events =
      entries answers (owned.value.teardown arena activity).events := by
  unfold discard
  simp only [Outcome.andThen_events, entries_append]
  split
  · simp
    rfl
  · simp [entries_of_silent]

/-- A context that is not registered enters nothing when it is destroyed. -/
theorem discard_unentered (owned : Owned Context)
    (unregistered : owned.value.registration = .unregistered) (arena : Arena)
    (activity : Activity) (answers : HostAnswers) :
    entries answers (discard (some owned) arena activity).events = [] := by
  rw [discard_entries, teardown_entries]
  split
  · rw [leave, unregistered]
    rfl
  · rfl

/-- Making a context enters nothing, also if it fails. -/
theorem create_entries (arena : Arena) (activity : Activity) (config : DriverConfig)
    (answers : HostAnswers) : entries answers (create arena activity config).events = [] := by
  have claimed : entries answers activity.claim.events = [] := by
    unfold Activity.claim
    dsimp only
    split <;> rfl
  have settled : ∀ id activity, entries answers
      ((fresh id config).settleIn arena activity).events = [] := by
    intro id activity
    have asked : entries answers ((arena.allocateFor Context).events.map .pool) = [] :=
      (Confined.pool _).entries
    unfold settleIn
    simp only [Outcome.mapEvents_answer, Outcome.mapEvents_state, Outcome.mapEvents_events]
    split
    · rw [entries_append, asked]
      rfl
    · rw [entries_append, entries_append, asked, teardown_entries]
      split <;> rfl
  unfold create
  split
  · rfl
  · rw [Outcome.andThen_events, entries_append, claimed]
    split
    · rfl
    · exact settled _ _

/-- **Loading a driver enters its registration**, and nothing if it fails. -/
theorem load_booked (arena : Arena) (activity : Activity) (answers : HostAnswers)
    (driver : DriverObject) (path : String) (config : DriverConfig) :
    match (load arena activity answers driver path config).answer with
    | .ok owned =>
      Booked .unregistered (entries answers (load arena activity answers driver path config).events)
        owned.value.registration
    | .error _ => entries answers (load arena activity answers driver path config).events = [] := by
  have before := create_entries arena activity config answers
  unfold load
  simp only [Outcome.after_answer, Outcome.after_events, Outcome.andThen_answer,
    Outcome.andThen_events, entries_append, before]
  cases created : (create arena activity config).answer with
  | error why => rfl
  | ok owned =>
    have new : owned.value.registration = .unregistered := by
      rw [(create_grants created).2.1]
      rfl
    have booked := owned.value.register_booked answers driver path
    rw [new] at booked
    dsimp only
    cases owned.value.register_registering answers driver path with
    | granted unregistered grants answer after lines =>
      simp only [answer]
      exact booked
    | refused ungranted answer state lines =>
      have gone := discard_unentered ⟨owned.block, owned.value⟩ new
        (create arena activity config).state.1 (create arena activity config).state.2 answers
      simp only [answer, state, Outcome.after_answer, Outcome.after_events, Outcome.map_answer,
        Outcome.map_events, entries_append, lines, gone]
      split
      · rename_i other
        split at other <;> cases other
      · rfl

end Context

namespace Driver

variable {d : Driver} {others : List Record}

/-- A driver that is destroyed leaves the host. -/
theorem Housed.discard_booked (housed : d.Housed others) (coherent : d.slots.Coherent)
    (activity : Activity) (answers : HostAnswers) :
    Booked d.registration
      (entries answers (Context.discard (some d.context) d.arena activity).events)
      .unregistered := by
  obtain ⟨n, cleared⟩ := (Context.clearSlots_cleared d.context.value.id (List.finRange maxAdapters)
    coherent housed.lodging).answer
  have torn := (Context.teardown_of_cleared cleared activity).1
  have booked := d.context.value.leave_booked answers
  rw [Context.discard_entries, Context.teardown_entries, torn]
  rw [Context.leave_registration] at booked
  exact booked

/-- A driver that is unloaded leaves first, and has nothing to undo when it is destroyed. -/
theorem unload_booked (d : Driver) (activity : Activity) (answers : HostAnswers) :
    Booked d.registration
      (entries answers (Context.unload (some d.context) d.arena activity).events)
      .unregistered := by
  have booked := d.context.value.leave_booked answers
  have gone := Context.discard_unentered
    ⟨d.context.block, d.context.value.leave.state⟩ d.context.value.leave_registration
    d.arena activity answers
  rw [Context.leave_registration] at booked
  unfold Context.unload
  simp only [Outcome.after_events, entries_append, entries_notice, gone, List.append_nil]
  exact booked

/-! ## Whole lives -/

/-- A driver with the book of its registrations so far, from its creation on. There is none any more
when it has been destroyed or unloaded, or could not be made or loaded in the first place. -/
inductive Logged : Option Driver → List Entry → Prop
  | created {arena : Arena} (opened : arena.Opened) {activity : Activity} {config : DriverConfig}
      {owned : Owned Context} (made : (Context.create arena activity config).answer = .ok owned)
      (answers : HostAnswers) :
      Logged (some ⟨owned, (Context.create arena activity config).state.1⟩)
        (entries answers (Context.create arena activity config).events)
  | notCreated {arena : Arena} {activity : Activity} {config : DriverConfig} {why : Failure}
      (failed : (Context.create arena activity config).answer = .error why)
      (answers : HostAnswers) :
      Logged none (entries answers (Context.create arena activity config).events)
  | loaded {arena : Arena} (opened : arena.Opened) {activity : Activity} (answers : HostAnswers)
      (driver : DriverObject) (path : String) {config : DriverConfig} {owned : Owned Context}
      (made : (Context.load arena activity answers driver path config).answer = .ok owned) :
      Logged (some ⟨owned, (Context.load arena activity answers driver path config).state.1⟩)
        (entries answers (Context.load arena activity answers driver path config).events)
  | notLoaded {arena : Arena} {activity : Activity} (answers : HostAnswers)
      (driver : DriverObject) (path : String) {config : DriverConfig} {why : Failure}
      (failed : (Context.load arena activity answers driver path config).answer = .error why) :
      Logged none (entries answers (Context.load arena activity answers driver path config).events)
  | served {d : Driver} {book : List Entry} (before : Logged (some d) book)
      (answers : HostAnswers) (request : Request) :
      Logged (some (d.serve answers request).state)
        (book ++ entries answers (d.serve answers request).events)
  /-- Somebody else uses the arena. -/
  | shared {d : Driver} {book : List Entry} (before : Logged (some d) book) (call : Arena.Call)
      (spared : d.SparedBy call) :
      Logged (some { d with arena := (d.arena.serve call).state }) book
  | destroyed {d : Driver} {book : List Entry} (before : Logged (some d) book)
      (answers : HostAnswers) (activity : Activity) :
      Logged none (book ++
        entries answers (Context.discard (some d.context) d.arena activity).events)
  | unloaded {d : Driver} {book : List Entry} (before : Logged (some d) book)
      (answers : HostAnswers) (activity : Activity) :
      Logged none (book ++
        entries answers (Context.unload (some d.context) d.arena activity).events)

/-- What is entered in the book while the requests are served. -/
def lines : Driver → List (HostAnswers × Request) → List Entry
  | _, [] => []
  | d, (answers, request) :: requests =>
    entries answers (d.serve answers request).events ++
      (d.serve answers request).state.lines requests

namespace Logged

theorem reachable {o : Option Driver} {book : List Entry} (logged : Logged o book) :
    ∀ d, o = some d → ∃ activity, d.Reachable activity := by
  induction logged with
  | created opened made answers =>
    rintro _ ⟨⟩
    exact ⟨_, .created opened made⟩
  | loaded opened answers driver path made =>
    rintro _ ⟨⟩
    exact ⟨_, .loaded opened answers driver path made⟩
  | served before answers request ih =>
    rintro _ ⟨⟩
    obtain ⟨activity, reachable⟩ := ih _ rfl
    exact ⟨activity, reachable.served answers request⟩
  | shared before call spared ih =>
    rintro _ ⟨⟩
    obtain ⟨activity, reachable⟩ := ih _ rfl
    exact ⟨activity, reachable.shared call spared⟩
  | notCreated | notLoaded | destroyed | unloaded => nofun

/-- **The book is in pairs**, all of them complete when the driver is gone. -/
theorem paired {o : Option Driver} {book : List Entry} (logged : Logged o book) :
    Paired book (o.elim .unregistered registration) := by
  induction logged with
  | @created arena opened activity config owned made answers =>
    have new : owned.value.registration = .unregistered :=
      congrArg Context.registration (Context.create_grants made).2.1
    rw [Context.create_entries, Option.elim_some, registration, new]
    exact .nil
  | notCreated failed answers =>
    rw [Context.create_entries]
    exact .nil
  | @loaded arena opened activity answers driver path config owned made =>
    have booked := Context.load_booked arena activity answers driver path config
    rw [made] at booked
    exact Paired.nil.step booked
  | @notLoaded arena activity answers driver path config why failed =>
    have booked := Context.load_booked arena activity answers driver path config
    rw [failed] at booked
    rw [booked]
    exact .nil
  | @served d book before answers request ih => exact ih.step (d.serve_booked answers request)
  | shared before call spared ih => exact ih
  | destroyed before answers activity ih =>
    obtain ⟨_, reachable⟩ := before.reachable _ rfl
    obtain ⟨others, housed⟩ := reachable.housed
    exact ih.step (housed.discard_booked reachable.coherent activity answers)
  | @unloaded d book before answers activity ih => exact ih.step (d.unload_booked activity answers)

/-- The book is kept through any requests. -/
theorem run {d : Driver} {book : List Entry} (logged : Logged (some d) book)
    (requests : List (HostAnswers × Request)) :
    Logged (some (d.run requests).state) (book ++ d.lines requests) := by
  induction requests generalizing d book with
  | nil =>
    rw [lines, List.append_nil]
    exact logged
  | cons first requests ih =>
    rw [lines, ← List.append_assoc]
    exact ih (logged.served first.1 first.2)

end Logged

/-- How a driver stands by its book. -/
structure StandsBy (d : Driver) (book : List Entry) : Prop where
  /-- It is registered if the last line says so, and as this line says. -/
  reported : ∀ handle driver, d.registration = .registered handle driver ↔
    book.getLast? = some (.registered handle driver)
  /-- The host is asked to register it only if it is not registered. -/
  asks : ∀ answers request driver path characteristics,
    .register driver path characteristics ∈ hostCalls (d.serve answers request).events →
      d.registration = .unregistered
  registers : ∀ answers driver path handle,
    (d.serve answers (.register driver path)).answer = .ok (.registered handle) ↔
      d.registration = .unregistered ∧ answers.registration = .ok handle
  leaves : ∀ answers handle, (d.serve answers (.deregister handle)).answer = .ok .done ↔
    ∃ driver, d.registration = .registered handle driver
  /-- Any other answer about the registration is a refusal, and nothing has changed. -/
  declines : ∀ answers request, Request.driverwide request = true →
    (∀ handle, (d.serve answers request).answer ≠ .ok (.registered handle)) →
    (d.serve answers request).answer ≠ .ok .done →
      (∃ why, (d.serve answers request).answer = .ok (.refused why)) ∧
        (d.serve answers request).state = d ∧
        entries answers (d.serve answers request).events = []

/-- **Registrations and their undoing take turns**, each is undone under its own handle, and the
driver says truly whether one stands. No registration outlives the driver. -/
theorem Logged.keeps_book {o : Option Driver} {book : List Entry} (logged : Logged o book) :
    Paired book (o.elim .unregistered registration) ∧ ∀ d, o = some d → d.StandsBy book := by
  refine ⟨logged.paired, ?_⟩
  rintro d rfl
  exact {
    reported := logged.paired.last
    asks := fun answers _ _ _ _ => d.serve_asks answers
    registers := d.serve_registers
    leaves := d.serve_leaves
    declines := fun answers _ => d.serve_declines answers }

/-- A driver that the host refuses once, that asks twice, and is not left under another handle. -/
def insistent : List (HostAnswers × Request) :=
  [(⟨.error .failure, .success, .success⟩, .register ⟨1⟩ "radio"),
    (.willing, .register ⟨1⟩ "radio"), (.willing, .register ⟨2⟩ "radio"),
    (.willing, .deregister ⟨7⟩), (.willing, .deregister ⟨1⟩), (.willing, .register ⟨3⟩ "radio")]

theorem insistent_keeps_book :
    let d := (sample.run insistent).state
    let book : List Entry := [.registered ⟨1⟩ ⟨1⟩, .undone ⟨1⟩, .registered ⟨1⟩ ⟨3⟩]
    Logged (some d) book ∧ d.StandsBy book ∧
      Logged none (book ++ [.undone ⟨1⟩]) ∧ Paired (book ++ [.undone ⟨1⟩]) .unregistered := by
  have opened : (Arena.fresh 1 4096 16384).Opened := ⟨1, 4096, 16384, _, _, [], rfl, rfl⟩
  have made : (Context.create (Arena.fresh 1 4096 16384) .initial {}).answer =
      .ok ⟨⟨1, 0⟩, Context.fresh 1 {}⟩ := rfl
  have start : Logged (some sample) [] := .created opened made .willing
  have lines : [] ++ sample.lines insistent =
      [.registered ⟨1⟩ ⟨1⟩, .undone ⟨1⟩, .registered ⟨1⟩ ⟨3⟩] := by decide +kernel
  have live := start.run insistent
  have gone := live.destroyed .willing ⟨1, 2⟩
  have line : entries .willing (Context.discard (some (sample.run insistent).state.context)
      (sample.run insistent).state.arena ⟨1, 2⟩).events = [.undone ⟨1⟩] := by decide +kernel
  rw [lines] at live gone
  rw [line] at gone
  exact ⟨live, live.keeps_book.2 _ rfl, gone, gone.keeps_book.1⟩

end Driver

end PacketRadio
