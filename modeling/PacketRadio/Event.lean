import PacketRadio.Error
import PacketRadio.HostCall
import PacketRadio.Level
import PacketRadio.Pool.Notice

/-!
# Events

What can be observed of the driver while it runs: what it calls its host for, and what it reports
about itself.
-/

namespace PacketRadio

/-- What the driver reports. -/
inductive Notice
  | badConfig (fault : ConfigFault)
  | noBlockForAdapter (adapter : Handle) (interface : Interface) (why : Pool.Refusal)
  | moved (adapter : Handle) (source target : Lifecycle)
  | notAllowed (adapter : Handle) (operation : String) (state : Lifecycle)
  | adapterCreated (adapter : Handle) (interface : Interface) (address : Address)
  | pausePending (adapter : Handle) (outstanding : Nat)
  | paused (adapter : Handle)
  | restartFlags (adapter : Handle) (flags : UInt32)
  | running (adapter : Handle)
  | destroyedHolding (adapter : Handle) (sends receives : Nat)
  | adapterDestroyed (adapter : Handle) (state : Lifecycle)
  | filterSet (adapter : Handle) (filter : PacketFilter)
  | queryUnsupported (adapter : Handle) (oid : UInt32)
  | setUnsupported (adapter : Handle) (oid : UInt32)
  | claimRefused (context active : UInt32)
  | claimNotRecorded (context active : UInt32)
  | contextCreated (context : UInt32)
  | noBlockForContext (context : UInt32) (arena : Nat) (why : Pool.Refusal)
  | alreadyRegistered (context : UInt32)
  | registered (characteristics : Characteristics)
  | registrationFailed (status : Status)
  | notRegistered (context : UInt32)
  | otherRegistration (context : UInt32) (found expected : DriverHandle)
  | deregistered
  | unloading (context : UInt32)
  | adapterBeforeRegistration (interface : Interface)
  | adapterExists (interface : Interface) (slot : Nat)
  | noFreeSlot (interface : Interface) (inUse : Nat)
  | descriptorRefused (adapter : Handle) (status : Status)
  | halting (adapter : Handle) (action : HaltAction)
  | haltIgnored
  | sendLevel (adapter : Handle) (flags : SendFlags) (level : Level)
  | sendRefused (adapter : Handle) (list : BufferList) (status : Status)
  | returnLevel (adapter : Handle) (flags : ReturnFlags) (level : Level)
  | returnedToMissing (adapter : Handle) (lists : Nat) (why : Error)
  | returnRefused (adapter : Handle) (list : BufferList) (why : Error)
  | sendNotCancelled (adapter : Handle) (id : UInt64)
  | hangCheckFailed (adapter : Handle) (why : Error)
  | resetUnsupported (adapter : Handle)
  | pnp (adapter : Handle) (event : PnpEvent)
  | pnpFailed (adapter : Handle) (event : PnpEvent) (why : Error)
  | shutdown (adapter : Handle) (action : ShutdownAction) (level : Level)
  | requestNotCancelled (adapter : Handle) (id : UInt64)
  | pauseComplete (adapter : Handle)
  | forceDestroying (context : UInt32) (adapter : Handle) (state : Lifecycle)
  | contextDestroyed (context : UInt32) (adapters : Nat)
  | bugCheck (check : BugCheck)
  | loading (path : String)
  | loadFailed (why : Error)
  deriving DecidableEq

namespace Notice

/-- How loudly the notice is reported. -/
def severity : Notice → Severity
  | restartFlags .. | sendRefused .. => .trace
  | moved .. | filterSet .. | queryUnsupported .. | setUnsupported .. | haltIgnored
  | sendNotCancelled .. | resetUnsupported _ | requestNotCancelled .. => .debug
  | adapterCreated .. | pausePending .. | paused _ | running _ | adapterDestroyed ..
  | contextCreated _ | registered _ | deregistered | unloading _ | halting .. | pnp ..
  | shutdown .. | pauseComplete _ | contextDestroyed .. | loading _ => .info
  | badConfig _ | notAllowed .. | destroyedHolding .. | alreadyRegistered _ | notRegistered _
  | otherRegistration .. | adapterBeforeRegistration _ | adapterExists .. | noFreeSlot ..
  | sendLevel .. | returnLevel .. | returnRefused .. | hangCheckFailed .. | pnpFailed ..
  | forceDestroying .. => .warn
  | noBlockForAdapter .. | claimRefused .. | claimNotRecorded .. | noBlockForContext ..
  | registrationFailed _ | descriptorRefused .. | returnedToMissing .. | bugCheck _
  | loadFailed _ => .error

/-- The wording of the notice. -/
def text : Notice → String
  | badConfig fault => fault.text
  | noBlockForAdapter h i why => s!"adapter {h.text}: no block for {i.text}: {why.message}"
  | moved h source target => s!"adapter {h.text}: {source.name} -> {target.name}"
  | notAllowed h operation state => s!"adapter {h.text}: cannot {operation} while {state.name}"
  | adapterCreated h i address => s!"adapter {h.text}: created for {i.text} as {address.text}"
  | pausePending h n => s!"adapter {h.text}: pause pending on {n} buffer lists"
  | paused h => s!"adapter {h.text}: paused"
  | restartFlags h flags => s!"adapter {h.text}: restart flags {Text.hex flags.toNat}"
  | running h => s!"adapter {h.text}: running"
  | destroyedHolding h sends receives =>
    s!"adapter {h.text}: destroyed holding {sends} sends and {receives} receives"
  | adapterDestroyed h state => s!"adapter {h.text}: destroyed in state {state.name}"
  | filterSet h filter => s!"adapter {h.text}: packet filter {filter.text}"
  | queryUnsupported h oid => s!"adapter {h.text}: query of unsupported OID {Text.hexWord oid}"
  | setUnsupported h oid => s!"adapter {h.text}: set of unsupported OID {Text.hexWord oid}"
  | claimRefused context active =>
    s!"driver context {context.toNat} refused: context {active.toNat} is still active"
  | claimNotRecorded context active =>
    s!"driver context {context.toNat} released while context {active.toNat} is recorded active"
  | contextCreated context => s!"driver context {context.toNat} created"
  | noBlockForContext context arena why =>
    s!"driver context {context.toNat}: no block in arena {arena}: {why.message}"
  | alreadyRegistered context => s!"driver context {context.toNat}: already registered"
  | registered c =>
    s!"driver registered: version {c.driverVersion.text}, interface {c.interfaceVersion.text}"
  | registrationFailed status => s!"driver registration failed: {status.text}"
  | notRegistered context => s!"driver context {context.toNat}: deregister while unregistered"
  | otherRegistration context found expected =>
    s!"driver context {context.toNat}: deregister with {found.debug}, " ++
      s!"registered as {expected.debug}"
  | deregistered => "driver deregistered"
  | unloading context => s!"driver context {context.toNat}: unloading"
  | adapterBeforeRegistration i => s!"adapter for {i.text} requested before registration"
  | adapterExists i slot => s!"adapter for {i.text} already exists in slot {slot}"
  | noFreeSlot i inUse => s!"no free adapter slot for {i.text} ({inUse} in use)"
  | descriptorRefused h status => s!"adapter {h.text}: host refused attributes: {status.text}"
  | halting h action => s!"adapter {h.text}: halting ({action.name})"
  | haltIgnored => "halt without adapter ignored"
  | sendLevel h flags level =>
    s!"adapter {h.text}: send flags {flags.text} at {level.name} level"
  | sendRefused h list status => s!"adapter {h.text}: send {list.debug} refused: {status.text}"
  | returnLevel h flags level =>
    s!"adapter {h.text}: return flags {flags.text} at {level.name} level"
  | returnedToMissing h lists why =>
    s!"adapter {h.text}: {lists} buffer lists returned to missing adapter: {why.message}"
  | returnRefused h list why => s!"adapter {h.text}: return of {list.debug}: {why.message}"
  | sendNotCancelled h id => s!"adapter {h.text}: cancel send {Text.hex id.toNat} ignored"
  | hangCheckFailed h why => s!"adapter {h.text}: hang check: {why.message}"
  | resetUnsupported h => s!"adapter {h.text}: reset not supported"
  | pnp h event => s!"adapter {h.text}: pnp event {event.debug}"
  | pnpFailed h event why => s!"adapter {h.text}: pnp event {event.debug}: {why.message}"
  | shutdown h action level => s!"adapter {h.text}: shutdown ({action.name}) at {level.name}"
  | requestNotCancelled h id =>
    s!"adapter {h.text}: cancel OID request {Text.hex id.toNat} ignored"
  | pauseComplete h => s!"adapter {h.text}: pause complete"
  | forceDestroying context h state =>
    s!"driver context {context.toNat}: force-destroying adapter {h.text} ({state.name})"
  | contextDestroyed context n =>
    s!"driver context {context.toNat} destroyed ({n} adapters torn down)"
  | bugCheck check => s!"BUG CHECK {check.text}"
  | loading path => s!"driver entry: {path}"
  | loadFailed why => s!"driver entry failed: {why.message}"

end Notice

/-- Something that can be observed of the driver. -/
inductive Event
  /-- An arena reports. -/
  | pool (notice : Pool.Notice)
  /-- The driver reports. -/
  | notice (notice : Notice)
  /-- The driver calls its host. -/
  | call (call : HostCall)
  deriving DecidableEq

namespace Event

/-- The call to the host that an event is. -/
def call? : Event → Option HostCall
  | call c => some c
  | _ => none

/-- The severity and wording of an event that is a report. -/
def report? : Event → Option (Severity × String)
  | pool n => some (n.severity, n.text)
  | notice n => some (n.severity, n.text)
  | call _ => none

end Event

/-- The calls to the host among some events. -/
def hostCalls (events : List Event) : List HostCall := events.filterMap Event.call?

end PacketRadio
