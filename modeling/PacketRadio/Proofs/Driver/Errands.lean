import PacketRadio.Driver.Request
import PacketRadio.Proofs.Adapter.Operations
import PacketRadio.Proofs.Driver.SlotTable

/-!
# How requests are served

A request has one adapter work, brings one up, brings one down, or is served without any. Each kind
is served in its own way, whatever the request is in particular; this module says how.
-/

namespace PacketRadio

open Pool

/-- Work for one adapter: its handle, what the adapter does, and what is answered without it. -/
structure Visit where
  adapter : Handle
  work : Adapter → Outcome Event Adapter Response
  missed : Error → Response × List Event

namespace Visit

/-- Events told ahead of a visit, whether the adapter is there or not. -/
def after (v : Visit) (events : List Event) : Visit where
  adapter := v.adapter
  work a := (v.work a).after events
  missed why := ((v.missed why).1, events ++ (v.missed why).2)

/-- A pause of `handle`. -/
def pause (handle : Handle) : Visit where
  adapter := handle
  work a := a.pause.map fun answer => .status (
    match answer with
    | .ok .completed => .success
    | .ok .pending => .pending
    | .error why => why.status)
  missed why := (.status why.status, [])

/-- A restart of `handle`. -/
def restart (handle : Handle) (flags : UInt32) : Visit where
  adapter := handle
  work a := (a.restart flags).map fun answer => .status (
    match answer with
    | .ok () => .success
    | .error why => why.status)
  missed why := (.status why.status, [])

/-- A request for an attribute of `handle`. -/
def accessAttribute (handle : Handle) (request : AttributeRequest) : Visit where
  adapter := handle
  work a := (a.serve request).map fun answer =>
    .attribute answer.1 (
      match answer.2 with
      | .ok () => .success
      | .error why => why.status)
  missed why := (.attribute request why.status, [])

/-- Lists that `handle` is to send. -/
def send (handle : Handle) (lists : List BufferList) : Visit where
  adapter := handle
  work a := (a.sendAll handle lists).map fun _ => .done
  missed why := (.done, lists.flatMap fun list => Adapter.sendRefused handle list why.status)

/-- Lists that `handle` is to take back. -/
def takeBack (handle : Handle) (lists : List BufferList) : Visit where
  adapter := handle
  work a := (a.takeBackAll handle lists).map fun _ => .done
  missed why :=
    (.done, [.notice (.returnedToMissing handle lists.length why),
      .call (.errorLog (some handle) .leakBufferLists)])

/-- A list that `handle` has sent. -/
def completeSend (handle : Handle) (list : BufferList) (status : Status) : Visit where
  adapter := handle
  work a :=
    let completed := a.completeSend list
    match completed.answer with
    | .error why => completed.map fun _ => .refused why
    | .ok settled =>
      (completed.map fun _ => .done).before
        (.call (.sendComplete handle list status) ::
          (if settled then
            [.notice (.pauseComplete handle), .call (.pauseComplete handle)] else []))
  missed why := (.refused why, [])

/-- A list that `handle` has received. -/
def indicate (handle : Handle) (list : BufferList) : Visit where
  adapter := handle
  work a :=
    let received := a.receive list
    match received.answer with
    | .error status => received.map fun _ => .status status
    | .ok () =>
      (received.map fun _ => .status .success).before [.call (.indicateReceive handle list)]
  missed why := (.status why.status, [])

/-- A list that is held goes back to the host, and with it a pause may be complete. -/
theorem completeSend_of_held {a : Adapter} {list : BufferList} {sends : InFlight}
    (gone : a.sends.remove? list = some sends) (handle : Handle) (status : Status) :
    (completeSend handle list status).work a =
      ⟨.done, (Adapter.settlePause { a with sends := sends }).state,
        (Adapter.settlePause { a with sends := sends }).events ++
          .call (.sendComplete handle list status) ::
            (if (Adapter.settlePause { a with sends := sends }).answer then
              [.notice (.pauseComplete handle), .call (.pauseComplete handle)] else [])⟩ := by
  simp only [completeSend, Adapter.completeSend_of_held gone]
  rfl

/-- The host gets its list before it hears of the pause. -/
theorem completeSend_calls {a : Adapter} {list : BufferList} {sends : InFlight}
    (gone : a.sends.remove? list = some sends) (handle : Handle) (status : Status) :
    hostCalls ((completeSend handle list status).work a).events =
      .sendComplete handle list status ::
        (if (Adapter.settlePause { a with sends := sends }).answer then
          [.pauseComplete handle] else []) := by
  rw [completeSend_of_held gone, hostCalls_append, (Adapter.settlePause_onlyMoves _).calls,
    hostCalls_call]
  split <;> rfl

theorem completeSend_of_absent {a : Adapter} {list : BufferList}
    (absent : a.sends.remove? list = none) (handle : Handle) (status : Status) :
    (completeSend handle list status).work a = .quiet (.refused .unknownBufferList) a := by
  simp only [completeSend, Adapter.completeSend_of_absent absent]
  rfl

/-- A received list is noted and shown to the host, or nothing happens. -/
theorem indicate_cases (a : Adapter) (handle : Handle) (list : BufferList) :
    (∃ receives, a.receives.insert? list = some receives ∧ a.lifecycle = .running ∧
      (indicate handle list).work a =
        ⟨.status .success, { a with receives := receives },
          [.call (.indicateReceive handle list)]⟩) ∨
    ∃ status, (indicate handle list).work a = .quiet (.status status) a := by
  rcases a.receive_cases list with ⟨receives, taken, running, same⟩ | ⟨status, same⟩
  · refine .inl ⟨receives, taken, running, ?_⟩
    simp only [indicate, same]
    rfl
  · refine .inr ⟨status, ?_⟩
    simp only [indicate, same]
    rfl

end Visit

/-- What a request comes down to. -/
inductive Errand
  /-- Nothing that an adapter takes part in. -/
  | aside
  | visit (v : Visit)
  /-- Bring an adapter up; a refusal is told by `refuse`. -/
  | create (parameters : Parameters) (refuse : Error → Response)
  | halt (adapter : Handle) (action : HaltAction)

namespace Request

/-- What a caller is told whose level is not the one that it says it runs at. -/
def levelWarning (differs : Bool) (notice : Notice) : List Event :=
  if differs then [.notice notice] else []

@[simp] theorem levelWarning_calls (differs : Bool) (notice : Notice) :
    hostCalls (levelWarning differs notice) = [] := by
  unfold levelWarning
  split <;> rfl

/-- What the request comes down to. -/
def errand : Request → Errand
  | .createAdapter p => .create p .refused
  | .bringUp p => .create p fun why => .declined why.status
  | .haltAdapter handle action => .halt handle action
  | .halt handle action =>
    match handle with
    | none => .aside
    | some handle => .halt handle action
  | .pause handle => .visit (.pause handle)
  | .restart handle flags => .visit (.restart handle flags)
  | .accessAttribute handle request => .visit (.accessAttribute handle request)
  | .send level handle lists flags =>
    .visit ((Visit.send handle lists).after
      (levelWarning (flags.includes SendFlags.dispatchLevel == level.mayBlock)
        (.sendLevel handle flags level)))
  | .takeBack level handle lists flags =>
    .visit ((Visit.takeBack handle lists).after
      (levelWarning (flags.includes ReturnFlags.dispatchLevel == level.mayBlock)
        (.returnLevel handle flags level)))
  | .completeSend handle list status => .visit (.completeSend handle list status)
  | .indicate handle list => .visit (.indicate handle list)
  | _ => .aside

/-- The interface that the request wants an adapter for. -/
def wantsAdapter? : Request → Option Interface
  | .createAdapter p | .bringUp p => some p.interface
  | _ => none

/-- The adapter that the request wants brought down. -/
def halts? : Request → Option Handle
  | .haltAdapter handle _ => some handle
  | .halt handle _ => handle
  | _ => none

theorem wants_of_errand (request : Request) :
    request.wantsAdapter? =
        (match request.errand with
          | .create p _ => some p.interface
          | _ => none) ∧
      request.halts? =
        (match request.errand with
          | .halt handle _ => some handle
          | _ => none) := by
  cases request
  case halt handle action => cases handle <;> exact ⟨rfl, rfl⟩
  all_goals exact ⟨rfl, rfl⟩

/-- Who wants an adapter down has that errand. -/
theorem errand_of_halts {request : Request} {h : Handle} (halts : request.halts? = some h) :
    ∃ action, request.errand = .halt h action := by
  cases request
  case haltAdapter handle action =>
    cases halts
    exact ⟨action, rfl⟩
  case halt handle action =>
    cases halts
    exact ⟨action, rfl⟩
  all_goals cases halts

/-- Which requests are work for an adapter, and what work. -/
inductive Visits : Request → Visit → Prop
  | pause (handle : Handle) : Visits (.pause handle) (.pause handle)
  | restart (handle : Handle) (flags : UInt32) :
      Visits (.restart handle flags) (.restart handle flags)
  | accessAttribute (handle : Handle) (request : AttributeRequest) :
      Visits (.accessAttribute handle request) (.accessAttribute handle request)
  | send (level : Level) (handle : Handle) (lists : List BufferList) (flags : SendFlags) :
      Visits (.send level handle lists flags)
        ((Visit.send handle lists).after
          (levelWarning (flags.includes SendFlags.dispatchLevel == level.mayBlock)
            (.sendLevel handle flags level)))
  | takeBack (level : Level) (handle : Handle) (lists : List BufferList) (flags : ReturnFlags) :
      Visits (.takeBack level handle lists flags)
        ((Visit.takeBack handle lists).after
          (levelWarning (flags.includes ReturnFlags.dispatchLevel == level.mayBlock)
            (.returnLevel handle flags level)))
  | completeSend (handle : Handle) (list : BufferList) (status : Status) :
      Visits (.completeSend handle list status) (.completeSend handle list status)
  | indicate (handle : Handle) (list : BufferList) :
      Visits (.indicate handle list) (.indicate handle list)

theorem visits_of_errand {request : Request} {v : Visit} (errand : request.errand = .visit v) :
    request.Visits v := by
  cases request
  case halt handle action => cases handle <;> cases errand
  all_goals cases errand
  all_goals constructor

end Request

namespace Driver

/-- The slots of a driver. -/
abbrev slots (d : Driver) : SlotTable := d.context.value.slots

/-- The driver with other slots. -/
def withSlots (d : Driver) (t : SlotTable) : Driver :=
  { d with context := ⟨d.context.block, { d.context.value with slots := t }⟩ }

@[simp] theorem withSlots_slots (d : Driver) (t : SlotTable) : (d.withSlots t).slots = t := rfl

@[simp] theorem withSlots_block (d : Driver) (t : SlotTable) :
    (d.withSlots t).context.block = d.context.block := rfl

@[simp] theorem withSlots_arena (d : Driver) (t : SlotTable) :
    (d.withSlots t).arena = d.arena := rfl

/-! ## Visits -/

/-- **A visit is the work of one adapter, in its place.** -/
theorem serve_of_found {d : Driver} {request : Request} {v : Visit}
    (errand : request.errand = .visit v) {i : Fin maxAdapters} {owned : Owned Adapter}
    (found : d.slots.locate v.adapter = .ok (i, owned)) (answers : HostAnswers) :
    d.serve answers request =
      ⟨.ok (v.work owned.value).answer,
        d.withSlots (d.slots.put i
          { d.slots.slot i with occupant := some ⟨owned.block, (v.work owned.value).state⟩ }),
        (v.work owned.value).events⟩ := by
  cases Request.visits_of_errand errand with
  | pause handle =>
    simp only [serve, onContext, Context.pause, Context.attempt, Context.visit]
    rw [SlotTable.visit_of_locate (h := handle) found]
    rfl
  | restart handle flags =>
    simp only [serve, onContext, Context.restart, Context.attempt, Context.visit]
    rw [SlotTable.visit_of_locate (h := handle) found]
    rfl
  | accessAttribute handle request =>
    simp only [serve, onContext, Context.serveAttribute, Context.visit]
    rw [SlotTable.visit_of_locate (h := handle) found]
    rcases served : owned.value.serve request with ⟨⟨request, result⟩, after, events⟩
    simp only [Visit.accessAttribute, served]
    cases result <;> rfl
  | send level handle lists flags =>
    simp only [serve, onContext, Context.send, Context.visit]
    rw [SlotTable.visit_of_locate (h := handle) found]
    simp only [Outcome.within_answer, Outcome.before_nil]
    rfl
  | takeBack level handle lists flags =>
    simp only [serve, onContext, Context.takeBack, Context.visit]
    rw [SlotTable.visit_of_locate (h := handle) found]
    simp only [Outcome.within_answer, Outcome.before_nil]
    rfl
  | completeSend handle list status =>
    simp only [serve, onContext, Context.completeSend, Context.attempt, Context.visit]
    rw [SlotTable.visit_of_locate (h := handle) found]
    rcases completed : owned.value.completeSend list with ⟨answer, after, events⟩
    simp only [Visit.completeSend, completed]
    cases answer <;> rfl
  | indicate handle list =>
    simp only [serve, onContext, Context.indicate, Context.visit]
    rw [SlotTable.visit_of_locate (h := handle) found]
    rcases received : owned.value.receive list with ⟨answer, after, events⟩
    simp only [Visit.indicate, received]
    cases answer <;> rfl

/-- A visit to an adapter that is not there is answered or reported and changes nothing. -/
theorem serve_of_missing {d : Driver} {request : Request} {v : Visit}
    (errand : request.errand = .visit v) {why : Error}
    (missing : d.slots.locate v.adapter = .error why) (answers : HostAnswers) :
    d.serve answers request = ⟨.ok (v.missed why).1, d, (v.missed why).2⟩ := by
  cases Request.visits_of_errand errand with
  | pause handle =>
    simp only [serve, onContext, Context.pause, Context.attempt, Context.visit]
    rw [SlotTable.visit_of_missing (h := handle) missing]
    rfl
  | restart handle flags =>
    simp only [serve, onContext, Context.restart, Context.attempt, Context.visit]
    rw [SlotTable.visit_of_missing (h := handle) missing]
    rfl
  | accessAttribute handle request =>
    simp only [serve, onContext, Context.serveAttribute, Context.visit]
    rw [SlotTable.visit_of_missing (h := handle) missing]
    rfl
  | send level handle lists flags =>
    simp only [serve, onContext, Context.send, Context.visit]
    rw [SlotTable.visit_of_missing (h := handle) missing]
    rfl
  | takeBack level handle lists flags =>
    simp only [serve, onContext, Context.takeBack, Context.visit]
    rw [SlotTable.visit_of_missing (h := handle) missing]
    rfl
  | completeSend handle list status =>
    simp only [serve, onContext, Context.completeSend, Context.attempt, Context.visit]
    rw [SlotTable.visit_of_missing (h := handle) missing]
    rfl
  | indicate handle list =>
    simp only [serve, onContext, Context.indicate, Context.visit]
    rw [SlotTable.visit_of_missing (h := handle) missing]
    rfl

/-- What a request to send does, in terms of the batch. -/
theorem serve_send {d : Driver} {h : Handle} {i : Fin maxAdapters} {owned : Owned Adapter}
    (found : d.slots.locate h = .ok (i, owned)) (answers : HostAnswers) (level : Level)
    (lists : List BufferList) (flags : SendFlags) :
    hostCalls (d.serve answers (.send level h lists flags)).events =
        hostCalls (owned.value.sendAll h lists).events ∧
      (d.serve answers (.send level h lists flags)).state =
        d.withSlots (d.slots.put i { d.slots.slot i with
          occupant := some ⟨owned.block, (owned.value.sendAll h lists).state⟩ }) := by
  rw [serve_of_found (v := _) rfl found answers]
  refine ⟨?_, rfl⟩
  simp only [Visit.after, Visit.send, Outcome.after_events, Outcome.map_events, hostCalls_append,
    Request.levelWarning_calls, List.nil_append]

/-- What a batch that comes back does, in terms of the batch. -/
theorem serve_takeBack {d : Driver} {h : Handle} {i : Fin maxAdapters} {owned : Owned Adapter}
    (found : d.slots.locate h = .ok (i, owned)) (answers : HostAnswers) (level : Level)
    (lists : List BufferList) (flags : ReturnFlags) :
    hostCalls (d.serve answers (.takeBack level h lists flags)).events =
        hostCalls (owned.value.takeBackAll h lists).events ∧
      (d.serve answers (.takeBack level h lists flags)).state =
        d.withSlots (d.slots.put i { d.slots.slot i with
          occupant := some ⟨owned.block, (owned.value.takeBackAll h lists).state⟩ }) := by
  rw [serve_of_found (v := _) rfl found answers]
  refine ⟨?_, rfl⟩
  simp only [Visit.after, Visit.takeBack, Outcome.after_events, Outcome.map_events,
    hostCalls_append, Request.levelWarning_calls, List.nil_append]

/-- The work of an adapter is a sequence of its changes. -/
theorem visit_evolves {request : Request} {v : Visit} (errand : request.errand = .visit v)
    (a : Adapter) : a.Evolves (v.work a).state := by
  cases Request.visits_of_errand errand with
  | pause handle => exact a.pause_evolves
  | restart handle flags => exact a.restart_evolves flags
  | accessAttribute handle request => exact a.serve_evolves request
  | send level handle lists flags => exact a.sendAll_evolves handle lists
  | takeBack level handle lists flags => exact a.takeBackAll_evolves handle lists
  | completeSend handle list status =>
    have evolves := a.completeSend_evolves list
    simp only [Visit.completeSend]
    split <;> exact evolves
  | indicate handle list =>
    have evolves := a.receive_evolves list
    simp only [Visit.indicate]
    split <;> exact evolves

/-- No visit gives a handle out. -/
theorem work_answer {request : Request} {v : Visit} (errand : request.errand = .visit v)
    (a : Adapter) (handle : Handle) : (v.work a).answer ≠ .adapter handle := by
  cases Request.visits_of_errand errand with
  | pause handle => simp [Visit.pause]
  | restart handle flags => simp [Visit.restart]
  | accessAttribute handle request => simp [Visit.accessAttribute]
  | send level handle lists flags => simp [Visit.send, Visit.after]
  | takeBack level handle lists flags => simp [Visit.takeBack, Visit.after]
  | completeSend handle list status =>
    simp only [Visit.completeSend]
    split <;> simp
  | indicate handle list =>
    simp only [Visit.indicate]
    split <;> simp

theorem missed_answer {request : Request} {v : Visit} (errand : request.errand = .visit v)
    (why : Error) (handle : Handle) : (v.missed why).1 ≠ .adapter handle := by
  cases Request.visits_of_errand errand with
  | pause handle => simp [Visit.pause]
  | restart handle flags => simp [Visit.restart]
  | accessAttribute handle request => simp [Visit.accessAttribute]
  | send level handle lists flags => simp [Visit.send, Visit.after]
  | takeBack level handle lists flags => simp [Visit.takeBack, Visit.after]
  | completeSend handle list status => simp [Visit.completeSend]
  | indicate handle list => simp [Visit.indicate]

/-! ## Without an adapter -/

/-- The slots and the arena are left alone, no handle is given out, and nothing is settled. -/
structure Undisturbed (d : Driver) (o : Outcome Event Driver (Except Fatal Response)) : Prop where
  slots : o.state.slots = d.slots
  block : o.state.context.block = d.context.block
  arena : o.state.arena = d.arena
  answer : ∀ handle, o.answer ≠ .ok (.adapter handle)
  unsettling : Unsettling o.events

theorem undisturbed_of_quiet (d : Driver) {response : Response} {events : List Event}
    (other : ∀ handle, response ≠ .adapter handle) (unsettling : Unsettling events) :
    Undisturbed d ⟨.ok response, d, events⟩ :=
  ⟨rfl, rfl, rfl, fun handle same => other handle (Except.ok.inj same), unsettling⟩

theorem register_undisturbed (d : Driver) (answers : HostAnswers) (driver : DriverObject)
    (path : String) : Undisturbed d (d.serve answers (.register driver path)) := by
  simp only [serve, onContext, Context.register]
  split
  · exact ⟨rfl, rfl, rfl, nofun, unsettling_of_silent rfl⟩
  · split
    · exact ⟨rfl, rfl, rfl, nofun, by simp [Unsettling, HostCall.settles]⟩
    · exact ⟨rfl, rfl, rfl, nofun, by simp [Unsettling, HostCall.settles]⟩

theorem deregister_undisturbed (d : Driver) (answers : HostAnswers) (handle : DriverHandle) :
    Undisturbed d (d.serve answers (.deregister handle)) := by
  simp only [serve, onContext, Context.deregister]
  split
  · exact ⟨rfl, rfl, rfl, nofun, unsettling_of_silent rfl⟩
  · rename_i expected driver registered
    split
    · exact ⟨rfl, rfl, rfl, nofun, unsettling_of_silent rfl⟩
    · rw [Context.leave, registered]
      exact ⟨rfl, rfl, rfl, nofun, by simp [Unsettling, HostCall.settles]⟩

/-- **What is served without an adapter disturbs none.** -/
theorem serve_aside {d : Driver} {request : Request} (errand : request.errand = .aside)
    (answers : HostAnswers) : Undisturbed d (d.serve answers request) := by
  cases request
  case register driver path => exact d.register_undisturbed answers driver path
  case deregister handle => exact d.deregister_undisturbed answers handle
  case halt handle action =>
    cases handle with
    | none => exact undisturbed_of_quiet d nofun (unsettling_of_silent rfl)
    | some handle => cases errand
  case checkForHang handle =>
    simp only [serve, onContext, Context.checkForHang]
    split <;> exact undisturbed_of_quiet d nofun (unsettling_of_silent rfl)
  case notePnp handle event =>
    simp only [serve, onContext, Context.notePnp]
    split <;> exact undisturbed_of_quiet d nofun (unsettling_of_silent rfl)
  case notifyRestart handle status =>
    exact undisturbed_of_quiet d nofun (by simp [Unsettling, HostCall.settles])
  case cancelSend => exact undisturbed_of_quiet d nofun (unsettling_of_silent rfl)
  case cancelRequest => exact undisturbed_of_quiet d nofun (unsettling_of_silent rfl)
  case reset => exact undisturbed_of_quiet d nofun (unsettling_of_silent rfl)
  case shutdown => exact undisturbed_of_quiet d nofun (unsettling_of_silent rfl)
  all_goals cases errand

end Driver

end PacketRadio
