import PacketRadio.Event
import PacketRadio.Outcome

/-!
# The active context

One driver context at most receives the host's callbacks. A context claims that role under a number
that no other claim has, and gives it up when it is gone. Whoever holds the role is never displaced.
-/

namespace PacketRadio

/-- Who is active: the number of the active context, or zero, and the number of the next claim. -/
structure Activity where
  active : UInt32
  next : UInt32
  deriving DecidableEq

namespace Activity

/-- Nobody has claimed the role yet. -/
def initial : Activity := ⟨0, 1⟩

/-- The number of the active context, if there is one. -/
def active? (a : Activity) : Option UInt32 :=
  if a.active = 0 then none else some a.active

/-- Claims the role. The claim takes a number even if it is refused. -/
def claim (a : Activity) : Outcome Event Activity (Except Error UInt32) :=
  let id := a.next
  if a.active = 0 then ⟨.ok id, ⟨id, id + 1⟩, []⟩
  else
    { answer := .error .contextAlreadyActive
      state := { a with next := id + 1 }
      events := [.notice (.claimRefused id a.active)] }

/-- Gives up the role of context `id`. If another one is recorded, it stays. -/
def release (a : Activity) (id : UInt32) : Outcome Event Activity Unit :=
  if a.active = id then .quiet () { a with active := 0 }
  else ⟨(), a, [.notice (.claimNotRecorded id a.active)]⟩

end Activity

end PacketRadio
