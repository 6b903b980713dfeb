import PacketRadio.Pool.Layout

/-!
# Free lists

The free part of a region is a list of holes in ascending order. A request takes the first hole that
can hold it, and a returned piece melts together with the holes that touch it. This is the hole list
that `linked_list_allocator` keeps, the allocator under an arena.

Places are counted from the start of the region. Alignment is a matter of addresses, so a request is
served relative to the address `base` at which the region starts.
-/

namespace PacketRadio.Pool

/-- A free piece of a region: its first byte and how many bytes it has. -/
structure Hole where
  start : Nat
  size : Nat
  deriving DecidableEq

namespace Hole

/-- The first byte behind the hole. -/
def stop (h : Hole) : Nat := h.start + h.size

/-- The smallest piece that can be kept as a hole. -/
def least : Nat := 16

/-- The first place in `h` for something aligned to `align`. A place behind the start leaves room
for a hole in front of it. -/
def firstPlace (base align : Nat) (h : Hole) : Nat :=
  if (base + h.start) % align = 0 then h.start
  else roundUp (base + h.start + least) align - base

/-- What stays free in `h` once `[place, stop)` is taken from it, or nothing if that does not fit or
would leave a rest too small for a hole. -/
def without? (h : Hole) (place stop : Nat) : Option (List Hole) :=
  let front := if place = h.start then [] else [⟨h.start, place - h.start⟩]
  if h.stop < stop then none
  else if stop = h.stop then some front
  else if h.stop - stop < least then none
  else some (front ++ [⟨stop, h.stop - stop⟩])

/-- Takes `layout` from `h`: its place and the holes that are left. -/
def carve? (base : Nat) (layout : Layout) (h : Hole) : Option (Nat × List Hole) :=
  let place := h.firstPlace base layout.align
  (h.without? place (place + layout.footprint)).map fun rest => (place, rest)

end Hole

/-- The holes of a region in ascending order. -/
abbrev FreeList := List Hole

namespace FreeList

/-- The part of a region of `size` bytes at address `base` that can be handed out: from its first
multiple of eight on, a multiple of eight bytes. -/
def usable (base size : Nat) : Hole :=
  let start := roundUp base 8 - base
  ⟨start, roundDown (size - start) 8⟩

/-- A region with nothing taken from it. -/
def ofRegion (base size : Nat) : FreeList := [usable base size]

/-- Takes `layout` from the first hole that can hold it. -/
def take? (base : Nat) (layout : Layout) : FreeList → Option (Nat × FreeList)
  | [] => none
  | hole :: holes =>
    match hole.carve? base layout with
    | some (place, rest) => some (place, rest ++ holes)
    | none => (take? base layout holes).map fun taken => (taken.1, hole :: taken.2)

/-- Puts `piece` back: before the first hole that lies behind it, as one with the holes it touches.
-/
def putBack (piece : Hole) : FreeList → FreeList
  | [] => [piece]
  | hole :: holes =>
    if piece.stop < hole.start then piece :: hole :: holes
    else if piece.stop = hole.start then ⟨piece.start, piece.size + hole.size⟩ :: holes
    else if hole.stop = piece.start then putBack ⟨hole.start, hole.size + piece.size⟩ holes
    else hole :: putBack piece holes

/-- How many bytes are free. -/
def total (holes : FreeList) : Nat :=
  holes.foldr (fun hole rest => hole.size + rest) 0

end FreeList

end PacketRadio.Pool
