import PacketRadio.Scenario.Bench

/-!
# Snapshots

What is shown of the objects of a scenario between two steps, as readings under keys, and what has
changed from one snapshot to the next.
-/

namespace PacketRadio.Scenario

open Pool

/-- What is shown of one object. -/
inductive Reading
  | active (context : Option UInt32)
  | arena (stats : Stats)
  /-- The place of what a box owns: the arena's name and the offset. -/
  | box (place : Option (Name × Nat))
  | adapter (brief : Option Brief)
  | table (inUse : Nat) (firstFree : Option Nat)
  | slot (inUse : Bool) (interface : Option Interface) (generation : UInt32) (brief : Option Brief)
  | context (registration : Option (UInt32 × Registration))
  | inFlight (count : Nat) (isEmpty isFull : Bool)
  | multicast (count : Nat) (isEmpty : Bool) (groups : List Address)
  deriving DecidableEq

/-- Readings under their keys. -/
abbrev Snapshot := List (String × Reading)

/-- A number in two digits. -/
def twoDigits (n : Nat) : String :=
  if n < 10 then s!"0{n}" else toString n

/-- What is shown of a slot, unless it was never filled. -/
def readSlot? (s : Slot) : Option Reading :=
  if s.generation = 0 ∧ s.inUse = false ∧ s.interface = none then none
  else some (.slot s.inUse s.interface s.generation (s.adapter?.map Brief.ofAdapter))

/-- What is shown of a table, under keys that start with `owner`. -/
def readTable (owner : String) (t : SlotTable) : Snapshot :=
  (s!"{owner} table", .table t.inUseCount (t.firstFree?.map Fin.val)) ::
    (List.finRange maxAdapters).filterMap fun i =>
      (readSlot? (t.slot i)).map fun reading => (s!"{owner} slot {twoDigits i}", reading)

/-- What is shown of a context. -/
def readContext (name : Name) : Box Context → Snapshot
  | none => [(s!"ctx {name}", .context none)]
  | some owned =>
    (s!"ctx {name}", .context (some (owned.value.id, owned.value.registration))) ::
      readTable s!"ctx {name}" owned.value.slots

/-- What is shown of the bench. -/
def Bench.snapshot (b : Bench) : Snapshot :=
  ("active", .active b.activity.active?) ::
    b.namedArenas.map (fun (name, a) => (s!"arena {name}", .arena a.stats)) ++
    b.boxes.map (fun (name, box) =>
      (s!"box {name}", .box (box.block?.map fun k => (b.arenaName k.arena, k.offset)))) ++
    b.adapters.map (fun (name, box) =>
      (s!"adapter {name}", .adapter (box.map fun owned => Brief.ofAdapter owned.value))) ++
    b.tables.flatMap (fun (name, t) => readTable s!"table {name}" t) ++
    b.contexts.flatMap (fun (name, box) => readContext name box) ++
    b.inFlight.map (fun (name, t) => (s!"inflight {name}", .inFlight t.count t.isEmpty t.isFull)) ++
    b.multicast.map (fun (name, t) =>
      (s!"multicast {name}", .multicast t.count t.isEmpty t.groups))

/-- The readings of `new` that differ from those of `old`, and the keys that are gone. -/
def Snapshot.changes (old new : Snapshot) : List (String × Option Reading) :=
  (new.filter fun entry => old.lookup entry.1 ≠ some entry.2).map
      (fun entry => (entry.1, some entry.2)) ++
    (old.filter fun entry => (new.lookup entry.1).isNone).map fun entry => (entry.1, none)

end PacketRadio.Scenario
