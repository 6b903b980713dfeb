import PacketRadio.Adapter.InFlight
import PacketRadio.Adapter.Multicast
import PacketRadio.Event
import PacketRadio.Pool.Box

/-!
# Adapters

One virtual adapter: its lifecycle, the buffer lists it holds in either direction, and what the host
has been told about it. An adapter lives in a block of an arena from its creation to its
destruction.

Traffic is accepted while the adapter is running. A pause of an adapter that still holds buffer
lists is pending until the last of them is gone, whoever takes it.
-/

namespace PacketRadio

open Pool

/-- An adapter. -/
structure Adapter where
  handle : Handle
  interface : Interface
  lifecycle : Lifecycle
  vlan : UInt32
  filter : PacketFilter
  multicast : Multicast
  /-- Where frames from the radio are put together. -/
  inbound : Vector UInt8 bufferSize
  /-- Where frames to the radio are put together. -/
  outbound : Vector UInt8 bufferSize
  general : GeneralDescriptor
  registration : RegistrationDescriptor
  sends : InFlight
  receives : InFlight
  deriving DecidableEq

/-- How a pause ended. -/
inductive PauseOutcome
  /-- The adapter is paused. -/
  | completed
  /-- Buffer lists are outstanding; the host is notified once they are back. -/
  | pending
  deriving DecidableEq

namespace PauseOutcome

def name : PauseOutcome → String
  | completed => "Completed"
  | pending => "Pending"

end PauseOutcome

/-- The layout is that of a build for x86-64. The driver relies on no more of it than that a type
can have it. -/
instance : Pooled Adapter where
  tag := Tag.ofChars 'a' 'x' 'A' 'X'
  layout := ⟨1816, 8⟩

namespace Adapter

/-- An adapter that has not been set up. -/
def initial (handle : Handle) (interface : Interface) (config : AdapterConfig) : Adapter where
  handle := handle
  interface := interface
  lifecycle := .initializing
  vlan := 0
  filter := FlagSet.empty
  multicast := Multicast.empty
  inbound := Vector.replicate bufferSize 0
  outbound := Vector.replicate bufferSize 0
  general := GeneralDescriptor.ofConfig config
  registration := RegistrationDescriptor.ofConfig handle config
  sends := InFlight.empty
  receives := InFlight.empty

/-- How many buffer lists are owed to the host. -/
def outstanding (a : Adapter) : Nat := a.sends.count + a.receives.count

/-- The adapter for diagnosis. -/
def debug (a : Adapter) : String :=
  Text.record "AdapterInstance"
    [("handle", a.handle.debug), ("interface", a.interface.debug), ("state", a.lifecycle.name),
      ("outstanding", toString a.outstanding)]

/-! ## Lifecycle -/

/-- Takes the adapter through `event`, for the sake of `operation`. -/
def move (a : Adapter) (event : LifecycleEvent) (operation : String) :
    Outcome Event Adapter (Except Error Lifecycle) :=
  match a.lifecycle.next? event with
  | some next =>
    { answer := .ok next
      state := { a with lifecycle := next }
      events := [.notice (.moved a.handle a.lifecycle next)] }
  | none =>
    { answer := .error (.invalidState a.lifecycle operation)
      state := a
      events := [.notice (.notAllowed a.handle operation a.lifecycle)] }

/-- Stops traffic. -/
def pause (a : Adapter) : Outcome Event Adapter (Except Error PauseOutcome) :=
  (a.move (.pause (0 < a.outstanding)) "pause").andThen fun moved b =>
    match moved with
    | .error why => .quiet (.error why) b
    | .ok .pausing => ⟨.ok .pending, b, [.notice (.pausePending b.handle b.outstanding)]⟩
    | .ok _ => ⟨.ok .completed, b, [.notice (.paused b.handle)]⟩

/-- Lets traffic flow. -/
def restart (a : Adapter) (flags : UInt32) : Outcome Event Adapter (Except Error Unit) :=
  (a.move .restart "restart").andThen fun moved b =>
    match moved with
    | .error why => .quiet (.error why) b
    | .ok _ =>
      ((b.move .restartComplete "restart").andThen fun moved c =>
        match moved with
        | .error why => .quiet (.error why) c
        | .ok _ => ⟨.ok (), c, [.notice (.running c.handle)]⟩).after
          [.notice (.restartFlags b.handle flags)]

/-- Completes a pending pause once nothing is outstanding; tells whether it did. -/
def settlePause (a : Adapter) : Outcome Event Adapter Bool :=
  if a.lifecycle = .pausing ∧ a.outstanding = 0 then
    (a.move .pauseComplete "complete pause").map Except.isOk
  else .quiet false a

/-! ## Traffic -/

/-- Takes a buffer list to be sent. A list that is refused is to be given back with the status. -/
def send (a : Adapter) (list : BufferList) : Outcome Event Adapter (Except Status Unit) :=
  if !a.lifecycle.acceptsTraffic then .quiet (.error .paused) a
  else
    match a.sends.insert? list with
    | none => .quiet (.error .resources) a
    | some sends => .quiet (.ok ()) { a with sends := sends }

/-- Lets go of a list that has been sent; tells whether that completed a pause. -/
def completeSend (a : Adapter) (list : BufferList) : Outcome Event Adapter (Except Error Bool) :=
  match a.sends.remove? list with
  | none => .quiet (.error .unknownBufferList) a
  | some sends => (settlePause { a with sends := sends }).map .ok

/-- Notes a received buffer list before it is shown to the host. -/
def receive (a : Adapter) (list : BufferList) : Outcome Event Adapter (Except Status Unit) :=
  if !a.lifecycle.acceptsTraffic then .quiet (.error .paused) a
  else
    match a.receives.insert? list with
    | none => .quiet (.error .resources) a
    | some receives => .quiet (.ok ()) { a with receives := receives }

/-- Takes a received list back from the host; tells whether that completed a pause. -/
def takeBack (a : Adapter) (list : BufferList) : Outcome Event Adapter (Except Error Bool) :=
  match a.receives.remove? list with
  | none => .quiet (.error .unknownBufferList) a
  | some receives => (settlePause { a with receives := receives }).map .ok

/-- Lets go of one list that has not been sent. -/
def takeSend (a : Adapter) : Outcome Event Adapter (Option BufferList) :=
  match a.sends.pop? with
  | none => .quiet none a
  | some (list, sends) => (settlePause { a with sends := sends }).map fun _ => some list

/-- At most `rounds` times, gives a list that has not been sent back as failed. -/
def flush : Nat → Adapter → Outcome Event Adapter Unit
  | 0, a => .quiet () a
  | rounds + 1, a =>
    a.takeSend.andThen fun taken b =>
      match taken with
      | none => .quiet () b
      | some list => (flush rounds b).after [.call (.sendComplete a.handle list .failure)]

/-- Gives every list that has not been sent back as failed. There are no more of them than the table
has room for. -/
def flushSends (a : Adapter) : Outcome Event Adapter Unit :=
  a.flush maxInFlight

/-! ## Creation and destruction -/

/-- What the destructor of an adapter does. -/
def destroy (a : Adapter) : List Event :=
  (if 0 < a.outstanding then
    [.notice (.destroyedHolding a.handle a.sends.count a.receives.count)] else []) ++
    [.notice (.adapterDestroyed a.handle a.lifecycle)]

/-- Checks the settings of an adapter and makes it. -/
def make (handle : Handle) (interface : Interface) (config : AdapterConfig) (arena : Arena) :
    Outcome Event Arena (Except Error Adapter) :=
  match config.fault? with
  | some fault => ⟨.error .invalidConfig, arena, [.notice (.badConfig fault)]⟩
  | none => .quiet (.ok (initial handle interface config)) arena

/-- Sets up an adapter that has moved into its block. -/
def setUp (owned : Owned Adapter) : Owned Adapter × List Event :=
  let a := owned.value
  let up := a.move .initComplete "initialize"
  (⟨owned.block, up.state⟩,
    up.events ++ [.notice (.adapterCreated a.handle a.interface a.general.current)])

/-- Makes an adapter in a block of `arena` and sets it up. -/
def create (arena : Arena) (handle : Handle) (interface : Interface) (config : AdapterConfig) :
    Outcome Event Arena (Except Failure (Owned Adapter)) :=
  let built := ArenaIn.self.placeWith Event.pool arena (make handle interface config)
  match built.answer with
  | .error (.pool why) =>
    (built.map fun _ => .error (.refused (.ofRefusal why))).before
      [.notice (.noBlockForAdapter handle interface why)]
  | .error (.init why) => built.map fun _ => .error (.refused why)
  | .error (.fault why) => built.map fun _ => .error (.fatal (.pool why))
  | .ok owned =>
    let up := setUp owned
    (built.map fun _ => .ok up.1).before up.2

/-- Destroys what a box holds and gives its block back to `arena`. -/
def discard (box : Box Adapter) (arena : Arena) : Outcome Event Arena (Except Fault Unit) :=
  arena.reset Event.pool destroy box

end Adapter

end PacketRadio
