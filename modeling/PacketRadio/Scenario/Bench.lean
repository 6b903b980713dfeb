import PacketRadio.Scenario.Step

/-!
# The bench

The objects of a scenario under their names, and the host that all its contexts talk to. An object
whose name is given to another one is destroyed, once the other one is in its place. An arena is
never destroyed: it outlives its name.
-/

namespace PacketRadio.Scenario

open Pool

/-- Objects under their names. -/
abbrev Shelf (α : Type) := List (Name × α)

namespace Shelf

variable {α : Type}

/-- The object with a name. -/
def get? (s : Shelf α) (name : Name) : Option α := s.lookup name

/-- The shelf without the object of a name. -/
def remove (s : Shelf α) (name : Name) : Shelf α := s.filter fun entry => entry.1 ≠ name

/-- The shelf with an object under a name, in place of any other. -/
def put (s : Shelf α) (name : Name) (object : α) : Shelf α := (name, object) :: s.remove name

end Shelf

/-- A host that answers as planned and counts how often a driver has asked to be registered. -/
structure Host where
  plan : HostPlan := {}
  attempts : Nat := 0

namespace Host

/-- The first handle that is given without a plan, less one. -/
def handleBase : Nat := 0x1000

/-- What the host answers if it is asked now. -/
def answers (h : Host) : HostAnswers where
  registration :=
    match h.plan.failRegistration, h.plan.nextHandle with
    | some status, _ => .error status
    | none, some handle => .ok handle
    | none, none => .ok ⟨UInt64.ofNat (handleBase + h.attempts + 1)⟩
  registrationAttributes := h.plan.failRegistrationAttributes.getD .success
  generalAttributes := h.plan.failGeneralAttributes.getD .success

/-- The host after it was called: a plan for a registration is used up by it. -/
def hear (h : Host) : HostCall → Host
  | .register .. =>
    { plan :=
        if h.plan.failRegistration.isSome then { h.plan with failRegistration := none }
        else { h.plan with nextHandle := none }
      attempts := h.attempts + 1 }
  | _ => h

end Host

/-- The objects of a scenario. -/
structure Bench where
  /-- Every arena with the name that it was given, the latest one first. -/
  arenas : List (Name × Arena) := []
  blocks : Shelf Block := []
  boxes : Shelf SampleBox := []
  adapters : Shelf (Box Adapter) := []
  tables : Shelf SlotTable := []
  inFlight : Shelf InFlight := []
  multicast : Shelf Multicast := []
  contexts : Shelf (Box Context) := []
  activity : Activity := Activity.initial
  host : Host := {}

/-- What a step does. -/
abbrev Played := Outcome Observation Bench Reply

namespace Bench

variable {α : Type}

/-- A step that names an object which does not exist. -/
def unknown (b : Bench) (name : Name) : Played := .quiet (.unknown name) b

/-- A reply that changes nothing. -/
def reply (b : Bench) (r : Reply) : Played := .quiet r b

/-! ## Arenas -/

/-- The arena with a name. -/
def arenaNamed? (b : Bench) (name : Name) : Option Arena := b.arenas.lookup name

/-- The arenas that can be named: of those with one name the latest. -/
def namedArenas (b : Bench) : List (Name × Arena) :=
  b.arenas.filter fun entry => (b.arenaNamed? entry.1).any fun arena => arena.id == entry.2.id

/-- The arena with a number, and its name. -/
def arenaNumbered? (b : Bench) (id : Nat) : Option (Name × Arena) :=
  b.arenas.find? fun entry => entry.2.id == id

/-- The name of the arena with a number. -/
def arenaName (b : Bench) (id : Nat) : Name :=
  match b.arenaNumbered? id with
  | some entry => entry.1
  | none => ""

/-- The bench with an arena as it is now. -/
def putArena (b : Bench) (arena : Arena) : Bench :=
  { b with arenas := b.arenas.map fun entry =>
      if entry.2.id = arena.id then (entry.1, arena) else entry }

/-- Lets `op` work on the arena of a block, in its place. -/
def onArenaOf (b : Bench) (block : Block)
    (op : Arena → Outcome Observation Arena (Except Fault Unit)) :
    Outcome Observation Bench (Except Fault Unit) :=
  match b.arenaNumbered? block.arena with
  | none => .quiet (.ok ()) b
  | some (_, arena) => (op arena).within b.putArena

/-! ## Destruction -/

/-- Destroys what a box of samples holds. -/
def discardBox (b : Bench) (box : SampleBox) : Outcome Observation Bench (Except Fault Unit) :=
  match box.block? with
  | none => .quiet (.ok ()) b
  | some block => b.onArenaOf block box.discard

/-- Destroys the adapter in a box. -/
def discardAdapter (b : Bench) (box : Box Adapter) :
    Outcome Observation Bench (Except Fault Unit) :=
  match box with
  | none => .quiet (.ok ()) b
  | some owned =>
    b.onArenaOf owned.block fun arena => (Adapter.discard box arena).mapEvents Observation.event

/-- Destroys the adapters in a row of slots. A fault keeps none of the others from being destroyed.
-/
def discardSlots (b : Bench) : List Slot → Outcome Observation Bench (Except Fault Unit)
  | [] => .quiet (.ok ()) b
  | slot :: slots =>
    (b.discardAdapter slot.occupant).andThen fun gone b =>
      (b.discardSlots slots).map fun rest =>
        match gone with
        | .ok () => rest
        | .error why => .error why

/-- Ends the context in a box with `op`, which works on its arena and the record of the active one.
-/
def endContext (b : Bench) (box : Box Context)
    (op : Box Context → Arena → Activity → Outcome Event (Arena × Activity) (Except Fault Unit)) :
    Outcome Observation Bench (Except Fault Unit) :=
  match box with
  | none => .quiet (.ok ()) b
  | some owned =>
    match b.arenaNumbered? owned.block.arena with
    | none => .quiet (.ok ()) b
    | some (_, arena) =>
      ((op box arena b.activity).mapEvents Observation.event).within fun state =>
        { b.putArena state.1 with activity := state.2 }

/-! ## Names -/

/-- Puts a box of samples under a name. -/
def storeBox (b : Bench) (name : Name) (box : SampleBox) :
    Outcome Observation Bench (Except Fault Unit) :=
  let old := b.boxes.get? name
  let b := { b with boxes := b.boxes.put name box }
  match old with
  | none => .quiet (.ok ()) b
  | some old => b.discardBox old

/-- Puts an adapter under a name. -/
def storeAdapter (b : Bench) (name : Name) (box : Box Adapter) :
    Outcome Observation Bench (Except Fault Unit) :=
  let old := b.adapters.get? name
  let b := { b with adapters := b.adapters.put name box }
  match old with
  | none => .quiet (.ok ()) b
  | some old => b.discardAdapter old

/-- Puts a table of slots under a name. -/
def storeTable (b : Bench) (name : Name) (table : SlotTable) :
    Outcome Observation Bench (Except Fault Unit) :=
  let old := b.tables.get? name
  let b := { b with tables := b.tables.put name table }
  match old with
  | none => .quiet (.ok ()) b
  | some old => b.discardSlots old.slots.toList

/-- Puts a context under a name. -/
def storeContext (b : Bench) (name : Name) (box : Box Context) :
    Outcome Observation Bench (Except Fault Unit) :=
  let old := b.contexts.get? name
  let b := { b with contexts := b.contexts.put name box }
  match old with
  | none => .quiet (.ok ()) b
  | some old => b.endContext old Context.discard

/-- The reply `r` after `o`, unless that was stopped. -/
def thenReply (o : Outcome Observation Bench (Except Fault Unit)) (r : Reply) : Played :=
  o.map fun
    | .ok () => r
    | .error why => .stopped (.pool why)

/-- The use of an empty box where it should hold something. -/
def emptyBox (b : Bench) (tag : Tag) : Played :=
  ⟨.stopped (.pool (.emptyBox tag)), b, [.pool (.fault (.emptyBox tag))]⟩

end Bench

end PacketRadio.Scenario
