import PacketRadio.Adapter.Config
import PacketRadio.Error

/-!
# Multicast groups

The groups that an adapter has joined: a table of sixteen addresses with the joined ones in front
and the unused mark behind them.
-/

namespace PacketRadio

/-- The joined groups. -/
structure Multicast where
  entries : Vector Address maxMulticast
  count : Nat
  deriving DecidableEq

namespace Multicast

/-- No group is joined. -/
def empty : Multicast := ⟨Vector.replicate maxMulticast Address.unused, 0⟩

/-- The joined groups in the order in which they were given. -/
def groups (t : Multicast) : List Address := t.entries.toList.take t.count

def isEmpty (t : Multicast) : Bool := t.count == 0

def contains (t : Multicast) (group : Address) : Bool :=
  !group.isUnused && t.groups.contains group

/-- The table after every group was left. -/
def cleared (t : Multicast) : Multicast :=
  ⟨t.entries.map fun _ => Address.unused, 0⟩

/-- Writes `groups` over the front of the table. -/
def overwritten (t : Multicast) (groups : List Address) : Multicast :=
  ⟨Vector.ofFn fun i => groups.getD i t.entries[i], groups.length⟩

/-- Leaves every group and joins `groups` instead. The unused mark is no group. -/
def replace (t : Multicast) (groups : List Address) : Except Error Multicast :=
  if maxMulticast < groups.length then .error .multicastFull
  else if groups.any Address.isUnused then .error .invalidData
  else .ok (t.cleared.overwritten groups)

end Multicast

end PacketRadio
