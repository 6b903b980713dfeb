import PacketRadio.Outcome
import PacketRadio.Pool.FreeList
import PacketRadio.Pool.Notice
import PacketRadio.Rack

/-!
# Arenas

An arena manages one region of memory. It hands out blocks, keeps a record of every live one, and
takes a block back only if the block is its own, is live, and is released under the tag of its
record. A refused request changes nothing but a counter.
-/

namespace PacketRadio.Pool

/-- A block: the arena it came from and its first byte, counted from the start of the region.
Nothing keeps a block from being kept after its release; the arena checks every one it is given. -/
structure Block where
  arena : Nat
  offset : Nat
  deriving DecidableEq

namespace Block

def location (b : Block) : Location := .inRegion b.arena b.offset

/-- The block for diagnosis. -/
def debug (b : Block) : String :=
  Text.record "Block" [("address", b.location.text), ("arena", toString b.arena)]

end Block

/-- What an arena keeps about a live block. -/
structure Record where
  offset : Nat
  layout : Layout
  tag : Tag
  deriving DecidableEq

namespace Record

/-- The piece of the region that the block occupies. -/
def piece (r : Record) : Hole := ⟨r.offset, r.layout.footprint⟩

end Record

/-- What has happened in an arena, and what is live in it now. Events are counted without end; in a
word of 64 bits a counter would start over after 2^64 of them. -/
structure Stats where
  allocations : Nat
  deallocations : Nat
  failedAllocations : Nat
  rejectedFrees : Nat
  liveBlocks : Nat
  liveBytes : Nat
  deriving DecidableEq

/-- How many blocks an arena can keep live at a time. -/
def maxBlocks : Nat := 64

/-- The smallest region an arena manages. -/
def minRegion : Nat := 256

/-- A managed region: its number, the address and size of the region, the holes in it, the records
of the live blocks and the counters. -/
structure Arena where
  id : Nat
  base : Nat
  size : Nat
  free : FreeList
  records : Rack Record maxBlocks
  stats : Stats
  deriving DecidableEq

namespace Arena

/-- An arena over a region with nothing in it yet. -/
def fresh (id base size : Nat) : Arena where
  id := id
  base := base
  size := size
  free := FreeList.ofRegion base size
  records := Rack.empty Record maxBlocks
  stats := ⟨0, 0, 0, 0, 0, 0⟩

/-- Starts to manage a region, if it is large enough. -/
def open? (id base size : Nat) : Except Refusal (Arena × List Notice) :=
  if size < minRegion then .error .invalidRegion
  else .ok (fresh id base size, [.opened id size])

/-- The records of the live blocks. -/
def live (a : Arena) : List Record := a.records.held

/-- The record of the block at `offset`. -/
def recordAt? (a : Arena) (offset : Nat) : Option Record :=
  a.live.find? fun r => r.offset == offset

/-- The place `offset`, counted from the start of the region, lies inside it. -/
def contains (a : Arena) (offset : Int) : Bool :=
  0 ≤ offset && offset < a.size

/-- The arena for diagnosis. -/
def debug (a : Arena) : String :=
  Text.record "TaggedArena"
    [("id", toString a.id), ("base", (Location.inRegion a.id 0).text), ("size", toString a.size)]

/-- A request that is not served: counted, and nothing else. -/
def refuseRequest {α : Type} (a : Arena) (why : Refusal) (notice : Notice) :
    Outcome Notice Arena (Except Refusal α) where
  answer := .error why
  state := { a with stats.failedAllocations := a.stats.failedAllocations + 1 }
  events := [notice]

/-- A release that is not accepted: counted, and nothing else. -/
def refuseRelease (a : Arena) (why : Refusal) (notice : Notice) :
    Outcome Notice Arena (Except Refusal Unit) where
  answer := .error why
  state := { a with stats.rejectedFrees := a.stats.rejectedFrees + 1 }
  events := [notice]

/-- The arena after a block with record `r` was taken out of its holes, which leaves `free`. -/
def withBlock (a : Arena) (r : Record) (free : FreeList) : Arena :=
  { a with
    free := free
    records := a.records.insert r
    stats := { a.stats with
      allocations := a.stats.allocations + 1
      liveBlocks := a.stats.liveBlocks + 1
      liveBytes := a.stats.liveBytes + r.layout.size } }

/-- The arena after the block with record `r` was put back. -/
def withoutBlock (a : Arena) (r : Record) : Arena :=
  { a with
    free := a.free.putBack r.piece
    records := a.records.erase fun other => other.offset == r.offset
    stats := { a.stats with
      deallocations := a.stats.deallocations + 1
      liveBlocks := a.stats.liveBlocks - 1
      liveBytes := a.stats.liveBytes - r.layout.size } }

/-- Hands out a block for one value of `layout`, recorded under `tag`. The caller names the size it
wants, which has to be the size of the layout. -/
def allocate (a : Arena) (layout : Layout) (size : Nat) (tag : Tag) :
    Outcome Notice Arena (Except Refusal Block) :=
  if size ≠ layout.size then
    a.refuseRequest (.sizeMismatch size layout.size) (.sizeRefused tag size layout.size)
  else if size = 0 then a.refuseRequest .zeroSize (.zeroSizeRefused tag)
  else if a.records.isFull then a.refuseRequest .trackingFull (.recordsFull tag)
  else
    match a.free.take? a.base layout with
    | none => a.refuseRequest .outOfMemory (.noHole tag size)
    | some (offset, free) =>
      { answer := .ok ⟨a.id, offset⟩
        state := a.withBlock ⟨offset, layout, tag⟩ free
        events := [.allocated tag size (.inRegion a.id offset)] }

/-- Takes a block back under `tag`. What is given back to the holes is what the record says,
whatever the caller believes the block to hold. -/
def release (a : Arena) (block : Block) (tag : Tag) : Outcome Notice Arena (Except Refusal Unit) :=
  if block.arena ≠ a.id then
    a.refuseRelease .foreignArena (.foreignBlock tag block.location block.arena a.id)
  else
    match a.recordAt? block.offset with
    | none => a.refuseRelease (.unknownBlock block.location) (.noLiveBlock tag block.location)
    | some r =>
      if r.tag ≠ tag then
        a.refuseRelease (.tagMismatch r.tag tag) (.otherTag tag block.location r.tag)
      else
        { answer := .ok ()
          state := a.withoutBlock r
          events := [.released tag r.layout.size block.location] }

/-- Takes a block back if there is one. -/
def releaseAny (a : Arena) (block : Option Block) (tag : Tag) :
    Outcome Notice Arena (Except Refusal Unit) :=
  match block with
  | none => .quiet (.ok ()) a
  | some b => a.release b tag

/-- Takes back the block of an owner. The owner knows that the block is live under `tag`; if the
arena disagrees, nothing can go on. -/
def surrender (a : Arena) (block : Block) (tag : Tag) : Outcome Notice Arena (Except Fault Unit) :=
  let back := a.release block tag
  match back.answer with
  | .ok () => back.map fun _ => .ok ()
  | .error why =>
    let fault := Fault.releaseFailed tag why
    (back.map fun _ => .error fault).before [.fault fault]

end Arena

end PacketRadio.Pool
