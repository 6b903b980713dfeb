import PacketRadio.Adapter.Basic

/-!
# Adapter slots

A driver keeps its adapters in sixteen slots. A slot counts how often it has been filled, and a
handle names an adapter by its slot and that count. A handle resolves while the slot holds an
adapter and the count has not moved on.
-/

namespace PacketRadio

open Pool

/-- How many adapters a driver can have. -/
def maxAdapters : Nat := 16

/-- A slot: the box with its adapter, the interface that it is recorded for, and how often it has
been filled, as far as a word counts. -/
structure Slot where
  occupant : Box Adapter
  interface : Option Interface
  generation : UInt32
  deriving DecidableEq

namespace Slot

/-- A slot that was never filled. -/
def vacant : Slot := ⟨none, none, 0⟩

def inUse (s : Slot) : Bool := s.occupant.isSome

/-- The adapter in the slot. -/
def adapter? (s : Slot) : Option Adapter := s.occupant.map Owned.value

end Slot

/-- The slots of a driver. -/
structure SlotTable where
  slots : Vector Slot maxAdapters
  deriving DecidableEq

namespace SlotTable

variable {ε α : Type}

/-- A table in which no slot was ever filled. -/
def empty : SlotTable := ⟨Vector.replicate maxAdapters Slot.vacant⟩

/-- The slot `i`. -/
def slot (t : SlotTable) (i : Fin maxAdapters) : Slot := t.slots[i]

/-- The table with slot `i` replaced. -/
def put (t : SlotTable) (i : Fin maxAdapters) (s : Slot) : SlotTable := ⟨t.slots.set i s⟩

/-- The index `n` as that of a slot. -/
def index? (n : Nat) : Option (Fin maxAdapters) :=
  if h : n < maxAdapters then some ⟨n, h⟩ else none

/-- The slot at a position, if there is one. -/
def slot? (t : SlotTable) (n : Nat) : Option Slot := (index? n).map t.slot

/-- How many slots hold an adapter. -/
def inUseCount (t : SlotTable) : Nat := t.slots.toList.countP Slot.inUse

/-- The lowest slot that satisfies `p`. -/
def lowest? (t : SlotTable) (p : Slot → Bool) : Option (Fin maxAdapters) :=
  (List.finRange maxAdapters).find? fun i => p (t.slot i)

/-- The lowest slot without an adapter. -/
def firstFree? (t : SlotTable) : Option (Fin maxAdapters) :=
  t.lowest? fun s => !s.inUse

/-- The slot that holds the adapter of an interface. -/
def findInterface? (t : SlotTable) (interface : Interface) : Option (Fin maxAdapters) :=
  t.lowest? fun s => s.inUse && s.interface == some interface

/-- The handle of the adapter that fills slot `i` next. -/
def nextHandle (t : SlotTable) (i : Fin maxAdapters) : Handle :=
  ⟨UInt8.ofNat i, (t.slot i).generation + 1⟩

/-- The slot of the adapter that `handle` names. -/
def resolve (t : SlotTable) (handle : Handle) : Except Error (Fin maxAdapters) :=
  match index? handle.slot.toNat with
  | none => .error .invalidHandle
  | some i =>
    let s := t.slot i
    if s.inUse && s.generation == handle.generation then .ok i else .error .staleAdapter

/-- The slot and the box of the adapter that `handle` names. -/
def locate (t : SlotTable) (handle : Handle) : Except Error (Fin maxAdapters × Owned Adapter) :=
  match t.resolve handle with
  | .error why => .error why
  | .ok i =>
    match (t.slot i).occupant with
    | none => .error .staleAdapter
    | some owned => .ok (i, owned)

/-- The adapter that `handle` names. -/
def get (t : SlotTable) (handle : Handle) : Except Error Adapter :=
  match t.locate handle with
  | .error why => .error why
  | .ok (_, owned) => .ok owned.value

/-- Lets `op` work on the adapter that `handle` names, in its place. -/
def visit (t : SlotTable) (handle : Handle) (op : Adapter → Outcome ε Adapter α) :
    Outcome ε SlotTable (Except Error α) :=
  match t.locate handle with
  | .error why => .quiet (.error why) t
  | .ok (i, owned) =>
    ((op owned.value).map .ok).within fun a =>
      t.put i { t.slot i with occupant := some ⟨owned.block, a⟩ }

/-- Fills the slot at a position with what a box holds and counts it. The slot must be free. -/
def occupy (t : SlotTable) (n : Nat) (interface : Interface) (box : Box Adapter) :
    Except Error (Handle × SlotTable) :=
  match index? n with
  | none => .error .invalidHandle
  | some i =>
    if (t.slot i).inUse then .error .slotsExhausted
    else
      .ok (t.nextHandle i, t.put i ⟨box, some interface, (t.slot i).generation + 1⟩)

/-- Slot `i` without its adapter. The count stays. -/
def vacate (t : SlotTable) (i : Fin maxAdapters) : SlotTable :=
  t.put i { t.slot i with occupant := none, interface := none }

/-- Takes the box out of the slot at a position. -/
def release (t : SlotTable) (n : Nat) : Box Adapter × SlotTable :=
  match index? n with
  | none => (none, t)
  | some i => ((t.slot i).occupant, t.vacate i)

end SlotTable

end PacketRadio
