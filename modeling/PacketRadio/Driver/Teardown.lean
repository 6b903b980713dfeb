import PacketRadio.Driver.Activity
import PacketRadio.Driver.Context

/-!
# Taking a context down

When a context is destroyed, its adapters go first, in the order of their slots, and every list that
they had still to send goes back to the host as failed. Then the registration is undone, the role of
the active context is given up, and the context's own block is released.

If an arena does not take an adapter's block back, the destruction stops there: what is left of the
adapters is dropped without a word to the host, the role is given up, and the context's block stays.
-/

namespace PacketRadio

open Pool

namespace Context

/-- Destroys the adapters in the slots `is`, one after the other, and counts them. -/
def clearSlots (context : UInt32) :
    List (Fin maxAdapters) → SlotTable → Arena →
      Outcome Event (SlotTable × Arena) (Except Fault Nat)
  | [], t, arena => .quiet (.ok 0) (t, arena)
  | i :: is, t, arena =>
    match (t.slot i).occupant with
    | none => clearSlots context is (t.vacate i) arena
    | some owned =>
      let a := owned.value
      let flushed := a.flushSends
      let gone := Adapter.discard (some ⟨owned.block, flushed.state⟩) arena
      let events :=
        .notice (.forceDestroying context a.handle a.lifecycle) :: flushed.events ++ gone.events
      match gone.answer with
      | .error fault => ⟨.error fault, (t.vacate i, gone.state), events⟩
      | .ok () =>
        ((clearSlots context is (t.vacate i) gone.state).map (Except.map (· + 1))).after events

/-- Drops the adapters in the slots `is`, whatever the arena says. -/
def dropSlots : List (Fin maxAdapters) → SlotTable → Arena → Outcome Event Arena Unit
  | [], _, arena => .quiet () arena
  | i :: is, t, arena =>
    let gone := Adapter.discard (t.slot i).occupant arena
    (dropSlots is t gone.state).after gone.events

/-- What the destructor of a context does. -/
def teardown (c : Context) (arena : Arena) (activity : Activity) :
    Outcome Event (Arena × Activity) (Except Fault Unit) :=
  let slots := List.finRange maxAdapters
  let cleared := clearSlots c.id slots c.slots arena
  let freed := activity.release c.id
  match cleared.answer with
  | .ok adapters =>
    { answer := .ok ()
      state := (cleared.state.2, freed.state)
      events := cleared.events ++ c.leave.events ++
        [.notice (.contextDestroyed c.id adapters)] ++ freed.events }
  | .error fault =>
    let dropped := dropSlots slots cleared.state.1 cleared.state.2
    { answer := .error fault
      state := (dropped.state, freed.state)
      events := cleared.events ++ dropped.events ++ freed.events }

/-- Destroys the context in a box and gives its block back. -/
def discard (box : Box Context) (arena : Arena) (activity : Activity) :
    Outcome Event (Arena × Activity) (Except Fault Unit) :=
  match box with
  | none => .quiet (.ok ()) (arena, activity)
  | some owned =>
    (owned.value.teardown arena activity).andThen fun torn state =>
      match torn with
      | .error fault => .quiet (.error fault) state
      | .ok () =>
        ((state.1.surrenderOf Context owned.block).mapEvents Event.pool).within fun arena =>
          (arena, state.2)

/-- Unloads the driver in a box: the registration is undone first, then the context is destroyed. -/
def unload (box : Box Context) (arena : Arena) (activity : Activity) :
    Outcome Event (Arena × Activity) (Except Fault Unit) :=
  match box with
  | none => .quiet (.ok ()) (arena, activity)
  | some owned =>
    let left := owned.value.leave
    (discard (some ⟨owned.block, left.state⟩) arena activity).after
      (.notice (.unloading owned.value.id) :: left.events)

end Context

end PacketRadio
