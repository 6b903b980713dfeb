import PacketRadio.Pool.Tag

/-!
# Refusals of an arena

Why an arena does not hand out or take back a block, and the conditions under which nothing can go
on.
-/

namespace PacketRadio.Pool

/-- A place in memory: inside the region of a numbered arena, or a plain address. -/
inductive Location
  | inRegion (arena offset : Nat)
  | absolute (address : Nat)
  deriving DecidableEq

namespace Location

/-- A place in a region as `<arena+offset>`, a plain address in base sixteen. -/
def text : Location → String
  | inRegion arena offset => s!"<{arena}+{offset}>"
  | absolute address => Text.hex address

/-- The place as a number, for diagnosis. -/
def debug : Location → String
  | inRegion arena offset => s!"<{arena}+{offset}>"
  | absolute address => toString address

end Location

/-- Why an arena refuses. -/
inductive Refusal
  /-- The requested size is not the size of the type. -/
  | sizeMismatch (requested expected : Nat)
  /-- A type without size has nothing to be stored. -/
  | zeroSize
  /-- No hole of the region can hold the request. -/
  | outOfMemory
  /-- Every record is taken. -/
  | trackingFull
  /-- The region is too small to be managed. -/
  | invalidRegion
  /-- No live block lies at the place that was to be released. -/
  | unknownBlock (location : Location)
  /-- The block is recorded under another tag. -/
  | tagMismatch (expected found : Tag)
  /-- The block lies in another arena. -/
  | foreignArena
  deriving DecidableEq

namespace Refusal

/-- The refusal passes once something is released: trying again later may help. -/
def isExhaustion : Refusal → Bool
  | outOfMemory | trackingFull => true
  | _ => false

/-- The word for the refusal. -/
def name : Refusal → String
  | sizeMismatch .. => "SizeMismatch"
  | zeroSize => "ZeroSize"
  | outOfMemory => "OutOfMemory"
  | trackingFull => "TrackingFull"
  | invalidRegion => "InvalidRegion"
  | unknownBlock _ => "UnknownBlock"
  | tagMismatch .. => "TagMismatch"
  | foreignArena => "ForeignArena"

/-- The refusal in a sentence. -/
def message : Refusal → String
  | sizeMismatch requested expected =>
    s!"invalid allocation size {requested} (expected {expected})"
  | zeroSize => "zero-sized allocation"
  | outOfMemory => "arena out of memory"
  | trackingFull => "block tracking table full"
  | invalidRegion => "backing region too small"
  | unknownBlock location => s!"no live block at {location.text}"
  | tagMismatch expected found =>
    s!"tag mismatch: block is {expected.text} but freed as {found.text}"
  | foreignArena => "block belongs to another arena"

/-- The refusal with its details, for diagnosis. -/
def debug (r : Refusal) : String :=
  match r with
  | sizeMismatch requested expected =>
    Text.record r.name [("requested", toString requested), ("expected", toString expected)]
  | unknownBlock location => Text.record r.name [("address", location.debug)]
  | tagMismatch expected found =>
    Text.record r.name [("expected", expected.debug), ("found", found.debug)]
  | _ => r.name

end Refusal

/-- What cannot be recovered from: the records of an arena disagree with the owner of a block, or a
box was used that owns nothing. -/
inductive Fault
  | releaseFailed (tag : Tag) (refusal : Refusal)
  | emptyBox (tag : Tag)
  deriving DecidableEq

namespace Fault

/-- The fault in a sentence. -/
def message : Fault → String
  | releaseFailed tag refusal =>
    s!"pool {tag.text}: release of owned block failed: {refusal.message}"
  | emptyBox tag => s!"pool {tag.text}: dereferenced an empty handle"

end Fault

end PacketRadio.Pool
