import PacketRadio.Driver.Load
import PacketRadio.Driver.Request
import PacketRadio.Scenario.Recipe

/-!
# Steps

A scenario is a sequence of steps on named objects: arenas and blocks, boxes with samples, adapters,
tables, and driver contexts. Every step has a reply.
-/

namespace PacketRadio.Scenario

open Pool

/-- The name of an object. -/
abbrev Name := String

/-- An adapter as a step names it: in a box of its own, or in a slot of a table. -/
inductive Target
  | box (adapter : Name)
  | slot (table : Name) (handle : Handle)

/-- What is done with an adapter. -/
inductive AdapterStep
  | pause
  | restart (flags : UInt32)
  | send (list : BufferList)
  | receive (list : BufferList)
  | completeSend (list : BufferList)
  | takeBack (list : BufferList)
  | takeSend
  | serve (request : AttributeRequest)
  | view
  /-- Writes into one of the frame buffers and reads from it. -/
  | buffer (outbound : Bool) (position : Nat) (bytes : List UInt8) (length : Nat)

/-- What is done with a table of slots. -/
inductive TableStep
  | fill (arena : Name) (interface : Interface) (config : AdapterConfig)
  | occupy (index : Nat) (interface : Interface) (adapter : Option Name)
  | release (index : Nat) (target : Option Name)
  | resolve (handle : Handle)
  | get (handle : Handle)
  | find (interface : Interface)
  | nextHandle (index : Nat)
  | slot (index : Nat)

/-- What is done with a table of buffer lists. -/
inductive InFlightStep
  | insert (list : BufferList)
  | remove (list : BufferList)
  | contains (list : BufferList)
  | pop

/-- What is done with a table of groups. -/
inductive MulticastStep
  | replace (groups : List Address)
  | contains (group : Address)

/-- What is done with a box. -/
inductive BoxStep
  | get
  | set (value : UInt32)
  /-- Reads from a box that should not be empty. -/
  | use
  /-- Writes into a box that should not be empty. -/
  | useSet (value : UInt32)
  | info
  | take (target : Name)
  | reset
  | drop
  /-- Makes a second owner of the same block. -/
  | copy (target : Name)

/-- What is done with an arena. -/
inductive ArenaStep
  | debug
  | contains (offset : Int)
  | allocate (block : Name) (layout : Layout) (size : Nat) (tag : Tag) (optional : Bool)
  | fill (block : Name) (layout : Layout) (tag : Tag) (count : Nat)
  | free (block : Option Name) (tag : Tag)

/-- What is done with a context. -/
inductive ContextStep
  | unload
  | drop
  | destroy
  | take (target : Name)
  | request (request : Request)
  /-- Tells the host that a restart is complete, and counts the calls to it. -/
  | notify (handle : Handle) (status : Status)
  | adapter (handle : Handle)
  | find (interface : Interface)
  | info

/-- How the host answers from now on: which registrations and descriptors it refuses, and the handle
it gives next. -/
structure HostPlan where
  failRegistration : Option Status := none
  nextHandle : Option DriverHandle := none
  failRegistrationAttributes : Option Status := none
  failGeneralAttributes : Option Status := none

/-- A step of a scenario. -/
inductive Step
  | openArena (arena : Name) (size skew : Nat)
  | arena (arena : Name) (step : ArenaStep)
  | copyBlock (block target : Name)
  | debugBlock (block : Name)
  | build (arena box : Name) (recipe : Recipe)
  | emptyBox (box : Name) (kind : SampleKind)
  | box (box : Name) (step : BoxStep)
  | createAdapter (adapter arena : Name) (handle : Handle) (interface : Interface)
      (config : AdapterConfig)
  | dropAdapter (adapter : Name)
  | adapter (target : Target) (step : AdapterStep)
  | newTable (table : Name)
  | table (table : Name) (step : TableStep)
  | newInFlight (table : Name)
  | inFlight (table : Name) (step : InFlightStep)
  | newMulticast (table : Name)
  | multicast (table : Name) (step : MulticastStep)
  | host (plan : HostPlan)
  | createContext (context arena : Name) (config : DriverConfig)
  | loadContext (context arena : Name) (driver : DriverObject) (path : String)
      (config : DriverConfig)
  | context (context : Name) (step : ContextStep)

/-- What is shown of an adapter at a glance. -/
structure Brief where
  handle : Handle
  interface : Interface
  state : Lifecycle
  vlan : UInt32
  filter : PacketFilter
  outstanding : Nat
  multicast : List Address
  deriving DecidableEq

/-- An adapter at a glance. -/
def Brief.ofAdapter (a : Adapter) : Brief :=
  ⟨a.handle, a.interface, a.lifecycle, a.vlan, a.filter, a.outstanding, a.multicast.groups⟩

/-- The reply to a step. -/
inductive Reply
  /-- The step names an object that does not exist. -/
  | unknown (name : Name)
  | done
  | stopped (why : Fatal)
  | refused (why : Error)
  | refusedByPool (why : Refusal)
  | declined (status : Status)
  | opened (id capacity : Nat)
  | text (text : String)
  | flag (flag : Bool)
  | count (count : Nat)
  | place (arena : Name) (offset : Nat)
  | filled (count : Nat) (why : Option Refusal)
  | built (endings : List Ending)
  | value (value : Option UInt32)
  | boxInfo (arena : Option Nat) (debug : String)
  | list (list : Option BufferList)
  | served (request : AttributeRequest) (result : Except Error Unit)
  | answered (request : AttributeRequest) (status : Status)
  | adapter (adapter : Adapter)
  | brief (brief : Option Brief)
  | bytes (bytes : List UInt8) (size : Nat)
  | handle (handle : Option Handle)
  | index (index : Option Nat)
  | slot (slot : Option Slot)
  | released (isEmpty : Bool)
  | registered (handle : DriverHandle)
  | status (status : Status)
  | contextInfo (context : Context) (debug : String) (stats : Stats)

namespace Reply

/-- The reply that a driver's response is. -/
def ofResponse : Response → Reply
  | .done => done
  | .refused why => refused why
  | .registered h => registered h
  | .adapter h => handle (some h)
  | .declined s => declined s
  | .status s => status s
  | .attribute request s => answered request s
  | .hangs answer => flag answer

/-- The reply that an operation gives, or is refused with. -/
def ofExcept {α : Type} (f : α → Reply) : Except Error α → Reply
  | .ok answer => f answer
  | .error why => refused why

/-- The reply to an operation that can only be stopped. -/
def ofFault : Except Fault Unit → Reply
  | .ok () => done
  | .error why => stopped (.pool why)

/-- The reply to an operation that was refused or stopped. -/
def ofFailure : Failure → Reply
  | .refused why => refused why
  | .fatal why => stopped why

end Reply

end PacketRadio.Scenario
