import PacketRadio.Handle
import PacketRadio.Rack

/-!
# Buffer lists in flight

The buffer lists that an adapter holds in one direction, and therefore owes to the host. Each is
held once at most; there is room for sixteen.
-/

namespace PacketRadio

/-- How many buffer lists are held in one direction. -/
def maxInFlight : Nat := 16

/-- The held buffer lists and their number. -/
structure InFlight where
  entries : Rack BufferList maxInFlight
  count : Nat
  deriving DecidableEq

namespace InFlight

/-- Nothing is held. -/
def empty : InFlight := ⟨Rack.empty BufferList maxInFlight, 0⟩

/-- The held lists in the order in which they are taken out. -/
def held (t : InFlight) : List BufferList := t.entries.held

def isEmpty (t : InFlight) : Bool := t.count == 0

def isFull (t : InFlight) : Bool := t.count == maxInFlight

def contains (t : InFlight) (list : BufferList) : Bool := t.held.contains list

/-- Holds `list` too, unless it is held already or there is no room. -/
def insert? (t : InFlight) (list : BufferList) : Option InFlight :=
  if t.isFull || t.contains list || t.entries.isFull then none
  else some ⟨t.entries.insert list, t.count + 1⟩

/-- Lets `list` go, if it is held. -/
def remove? (t : InFlight) (list : BufferList) : Option InFlight :=
  if t.contains list then some ⟨t.entries.erase (· == list), t.count - 1⟩ else none

/-- Lets the first held list go. -/
def pop? (t : InFlight) : Option (BufferList × InFlight) :=
  t.held.head?.map fun list => (list, ⟨t.entries.erase fun _ => true, t.count - 1⟩)

end InFlight

end PacketRadio
