import PacketRadio.Pool.Refusal
import PacketRadio.Severity

/-!
# Notices of an arena

Everything an arena reports about itself.
-/

namespace PacketRadio.Pool

/-- What an arena, or a box in it, reports. -/
inductive Notice
  | opened (arena size : Nat)
  | sizeRefused (tag : Tag) (requested expected : Nat)
  | zeroSizeRefused (tag : Tag)
  | recordsFull (tag : Tag)
  | noHole (tag : Tag) (size : Nat)
  | allocated (tag : Tag) (size : Nat) (location : Location)
  | foreignBlock (tag : Tag) (location : Location) (owner arena : Nat)
  | noLiveBlock (tag : Tag) (location : Location)
  | otherTag (tag : Tag) (location : Location) (recorded : Tag)
  | released (tag : Tag) (size : Nat) (location : Location)
  | fault (fault : Fault)
  deriving DecidableEq

namespace Notice

/-- How loudly the notice is reported. -/
def severity : Notice → Severity
  | opened .. => .debug
  | allocated .. | released .. => .trace
  | _ => .error

/-- The wording of the notice. -/
def text : Notice → String
  | opened arena size => s!"arena {arena}: {size} bytes at {(Location.inRegion arena 0).text}"
  | sizeRefused tag requested expected =>
    s!"pool {tag.text}: refusing allocation of {requested} bytes (expected {expected})"
  | zeroSizeRefused tag => s!"pool {tag.text}: refusing zero-sized allocation"
  | recordsFull tag => s!"pool {tag.text}: block tracking table full"
  | noHole tag size => s!"pool {tag.text}: no room for {size} bytes"
  | allocated tag size location => s!"pool {tag.text}: allocated {size} bytes at {location.text}"
  | foreignBlock tag location owner arena =>
    s!"pool {tag.text}: block {location.text} belongs to arena {owner}, not {arena}"
  | noLiveBlock tag location => s!"pool {tag.text}: no live block at {location.text}"
  | otherTag tag location recorded =>
    s!"pool {tag.text}: block {location.text} was allocated as {recorded.text}"
  | released tag size location => s!"pool {tag.text}: released {size} bytes at {location.text}"
  | fault f => f.message

end Notice

end PacketRadio.Pool
