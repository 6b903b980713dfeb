import PacketRadio.Driver.Traffic

/-!
# Requests

All that host and radio can ask of a loaded driver, short of unloading it, and what it answers. A
run of a driver is a sequence of requests, each with what the host answers in the meantime.
-/

namespace PacketRadio

open Pool

/-- A loaded driver: its context in its block, and the arena that holds both. -/
structure Driver where
  context : Owned Context
  arena : Arena
  deriving DecidableEq

/-- Something asked of a driver. -/
inductive Request
  | register (driver : DriverObject) (path : String)
  | deregister (handle : DriverHandle)
  | createAdapter (parameters : Parameters)
  /-- The host's way to have an adapter created. -/
  | bringUp (parameters : Parameters)
  | haltAdapter (adapter : Handle) (action : HaltAction)
  /-- The host's way to have an adapter halted. -/
  | halt (adapter : Option Handle) (action : HaltAction)
  | pause (adapter : Handle)
  | restart (adapter : Handle) (flags : UInt32)
  | accessAttribute (adapter : Handle) (request : AttributeRequest)
  | send (level : Level) (adapter : Handle) (lists : List BufferList) (flags : SendFlags)
  | takeBack (level : Level) (adapter : Handle) (lists : List BufferList) (flags : ReturnFlags)
  | cancelSend (adapter : Handle) (id : UInt64)
  | cancelRequest (adapter : Handle) (id : UInt64)
  | checkForHang (adapter : Handle)
  | reset (adapter : Handle)
  | notePnp (adapter : Handle) (event : PnpEvent)
  | shutdown (level : Level) (adapter : Handle) (action : ShutdownAction)
  /-- The radio has sent a list. -/
  | completeSend (adapter : Handle) (list : BufferList) (status : Status)
  /-- The radio has received a list. -/
  | indicate (adapter : Handle) (list : BufferList)
  /-- The host is to be told that a restart is complete. -/
  | notifyRestart (adapter : Handle) (status : Status)

/-- What a driver answers. -/
inductive Response
  | done
  | refused (why : Error)
  | registered (handle : DriverHandle)
  | adapter (handle : Handle)
  /-- The host's way to hear that an adapter was not created. -/
  | declined (status : Status)
  | status (status : Status)
  | attribute (request : AttributeRequest) (status : Status)
  | hangs (answer : Bool)
  deriving DecidableEq

namespace Response

/-- The response that an operation either gives or is refused with. -/
def ofExcept {α : Type} (f : α → Response) : Except Error α → Response
  | .ok answer => f answer
  | .error why => .refused why

end Response

namespace Driver

variable {α : Type}

/-- An operation on the context, in its place. -/
def onContext (d : Driver) (op : Context → Outcome Event Context α) (read : α → Response) :
    Outcome Event Driver (Except Fatal Response) :=
  ((op d.context.value).map fun answer => .ok (read answer)).within fun c =>
    { d with context := ⟨d.context.block, c⟩ }

/-- An operation on the context and its arena. -/
def onBoth (d : Driver) (op : Context → Arena → Outcome Event (Context × Arena) α)
    (read : α → Except Fatal Response) : Outcome Event Driver (Except Fatal Response) :=
  ((op d.context.value d.arena).map read).within fun state =>
    ⟨⟨d.context.block, state.1⟩, state.2⟩

/-- A request that is only reported. -/
def report (d : Driver) (response : Response) (notice : Notice) :
    Outcome Event Driver (Except Fatal Response) :=
  ⟨.ok response, d, [.notice notice]⟩

/-- What is answered when an adapter was to be created: the error is told by `refuse`. -/
def readCreated (refuse : Error → Response) : Except Failure Handle → Except Fatal Response
  | .ok handle => .ok (.adapter handle)
  | .error (.refused why) => .ok (refuse why)
  | .error (.fatal why) => .error why

/-- Serves a request. -/
def serve (d : Driver) (answers : HostAnswers) :
    Request → Outcome Event Driver (Except Fatal Response)
  | .register driver path =>
    d.onContext (fun c => c.register answers driver path) (.ofExcept .registered)
  | .deregister handle => d.onContext (fun c => c.deregister handle) (.ofExcept fun _ => .done)
  | .createAdapter p =>
    d.onBoth (fun c arena => c.createAdapter arena answers p) (readCreated .refused)
  | .bringUp p =>
    d.onBoth (fun c arena => c.createAdapter arena answers p)
      (readCreated fun why => .declined why.status)
  | .haltAdapter handle action =>
    d.onBoth (fun c arena => c.haltAdapter arena handle action) (Except.map fun _ => .done)
  | .halt handle action =>
    d.onBoth (fun c arena => c.halt arena handle action) (Except.map fun _ => .done)
  | .pause handle => d.onContext (fun c => c.pause handle) .status
  | .restart handle flags => d.onContext (fun c => c.restart handle flags) .status
  | .accessAttribute handle request =>
    d.onContext (fun c => c.serveAttribute handle request) fun answer =>
      .attribute answer.1 answer.2
  | .send level handle lists flags =>
    d.onContext (fun c => c.send level handle lists flags) fun _ => .done
  | .takeBack level handle lists flags =>
    d.onContext (fun c => c.takeBack level handle lists flags) fun _ => .done
  | .cancelSend handle id => d.report .done (.sendNotCancelled handle id)
  | .cancelRequest handle id => d.report .done (.requestNotCancelled handle id)
  | .checkForHang handle => d.onContext (fun c => c.checkForHang handle) .hangs
  | .reset handle => d.report (.status Error.notSupported.status) (.resetUnsupported handle)
  | .notePnp handle event => d.onContext (fun c => c.notePnp handle event) fun _ => .done
  | .shutdown level handle action => d.report .done (.shutdown handle action level)
  | .completeSend handle list status =>
    d.onContext (fun c => c.completeSend handle list status) (.ofExcept fun _ => .done)
  | .indicate handle list => d.onContext (fun c => c.indicate handle list) .status
  | .notifyRestart handle status =>
    ⟨.ok .done, d, [.call (.restartComplete handle status)]⟩

/-- Serves requests one after the other. One that stops the driver leaves it as it was when it
stopped, and the next one finds it so. -/
def run : Driver → List (HostAnswers × Request) →
    Outcome Event Driver (List (Except Fatal Response))
  | d, [] => .quiet [] d
  | d, (answers, request) :: requests =>
    (d.serve answers request).andThen fun answer d => (run d requests).map (answer :: ·)

end Driver

end PacketRadio
