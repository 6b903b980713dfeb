import Mathlib.Logic.Relation
import PacketRadio.Adapter.Attribute
import PacketRadio.Proofs.Adapter.InFlight
import PacketRadio.Proofs.Observation

/-!
# What happens to an adapter

Whatever is asked of an adapter, it changes in a few ways only: it moves on in its lifecycle, it is
set differently, or a buffer list joins or leaves one of its tables. What all of these keep, every
operation keeps: who the adapter is, what the host was told about it, and the soundness of its
tables.
-/

namespace PacketRadio

namespace Adapter

/-- Both tables of an adapter are sound. -/
structure Sound (a : Adapter) : Prop where
  sends : a.sends.Sound
  receives : a.receives.Sound

/-- No buffer list is owed to the host. -/
def Idle (a : Adapter) : Prop := a.sends.held = [] ∧ a.receives.held = []

theorem Sound.outstanding_eq_zero {a : Adapter} (sound : a.Sound) : a.outstanding = 0 ↔ a.Idle := by
  rw [outstanding, Nat.add_eq_zero_iff, sound.sends.count_eq_zero, sound.receives.count_eq_zero]
  rfl

/-- `b` is the adapter `a` for everybody who asks who it is. -/
structure SameIdentity (a b : Adapter) : Prop where
  handle : b.handle = a.handle
  interface : b.interface = a.interface
  general : b.general = a.general
  registration : b.registration = a.registration

theorem SameIdentity.refl (a : Adapter) : a.SameIdentity a := ⟨rfl, rfl, rfl, rfl⟩

theorem SameIdentity.trans {a b c : Adapter} (h : a.SameIdentity b) (k : b.SameIdentity c) :
    a.SameIdentity c :=
  ⟨k.handle.trans h.handle, k.interface.trans h.interface, k.general.trans h.general,
    k.registration.trans h.registration⟩

/-- One way in which an adapter changes. -/
inductive Change (a : Adapter) : Adapter → Prop
  | moved (event : LifecycleEvent) {next : Lifecycle}
      (allowed : a.lifecycle.next? event = some next) : Change a { a with lifecycle := next }
  | set (filter : PacketFilter) (vlan : UInt32) (multicast : Multicast) :
      Change a { a with filter := filter, vlan := vlan, multicast := multicast }
  | sendTaken {list : BufferList} {sends : InFlight} (taken : a.sends.insert? list = some sends) :
      Change a { a with sends := sends }
  | sendGone {list : BufferList} {sends : InFlight} (gone : a.sends.remove? list = some sends) :
      Change a { a with sends := sends }
  | sendPopped {list : BufferList} {sends : InFlight} (gone : a.sends.pop? = some (list, sends)) :
      Change a { a with sends := sends }
  | receiveTaken {list : BufferList} {receives : InFlight}
      (taken : a.receives.insert? list = some receives) : Change a { a with receives := receives }
  | receiveGone {list : BufferList} {receives : InFlight}
      (gone : a.receives.remove? list = some receives) : Change a { a with receives := receives }

theorem Change.sound {a b : Adapter} (h : Change a b) (sound : a.Sound) : b.Sound := by
  cases h with
  | moved event allowed => exact ⟨sound.sends, sound.receives⟩
  | set filter vlan multicast => exact ⟨sound.sends, sound.receives⟩
  | sendTaken taken => exact ⟨sound.sends.insert taken, sound.receives⟩
  | sendGone gone => exact ⟨sound.sends.remove gone, sound.receives⟩
  | sendPopped gone => exact ⟨sound.sends.pop gone, sound.receives⟩
  | receiveTaken taken => exact ⟨sound.sends, sound.receives.insert taken⟩
  | receiveGone gone => exact ⟨sound.sends, sound.receives.remove gone⟩

theorem Change.identity {a b : Adapter} (h : Change a b) : a.SameIdentity b := by
  cases h <;> exact ⟨rfl, rfl, rfl, rfl⟩

/-- `b` is what some changes make of `a`. -/
def Evolves : Adapter → Adapter → Prop := Relation.ReflTransGen Change

theorem Evolves.refl (a : Adapter) : a.Evolves a := Relation.ReflTransGen.refl

theorem Evolves.trans {a b c : Adapter} (h : a.Evolves b) (k : b.Evolves c) : a.Evolves c :=
  Relation.ReflTransGen.trans h k

theorem Change.evolves {a b : Adapter} (h : Change a b) : a.Evolves b := Relation.ReflTransGen.single h

theorem Evolves.sound {a b : Adapter} (h : a.Evolves b) (sound : a.Sound) : b.Sound := by
  induction h with
  | refl => exact sound
  | tail _ change ih => exact change.sound ih

theorem Evolves.identity {a b : Adapter} (h : a.Evolves b) : a.SameIdentity b := by
  induction h with
  | refl => exact .refl a
  | tail _ change ih => exact ih.trans change.identity

/-! ## Lifecycle -/

theorem move_of_allowed {a : Adapter} {event : LifecycleEvent} {next : Lifecycle}
    (allowed : a.lifecycle.next? event = some next) (operation : String) :
    a.move event operation =
      ⟨.ok next, { a with lifecycle := next }, [.notice (.moved a.handle a.lifecycle next)]⟩ := by
  unfold move
  rw [allowed]

theorem move_of_refused {a : Adapter} {event : LifecycleEvent}
    (refused : a.lifecycle.next? event = none) (operation : String) :
    a.move event operation =
      ⟨.error (.invalidState a.lifecycle operation), a,
        [.notice (.notAllowed a.handle operation a.lifecycle)]⟩ := by
  unfold move
  rw [refused]

/-- A running adapter with nothing outstanding is paused at once. -/
theorem pause_of_idle {a : Adapter} (running : a.lifecycle = .running) (idle : a.outstanding = 0) :
    a.pause =
      ⟨.ok .completed, { a with lifecycle := .paused },
        [.notice (.moved a.handle .running .paused), .notice (.paused a.handle)]⟩ := by
  have next : a.lifecycle.next? (.pause (0 < a.outstanding)) = some .paused := by
    rw [running, idle]
    rfl
  rw [pause, move_of_allowed next, running]
  rfl

/-- A running adapter with buffer lists outstanding starts to pause. -/
theorem pause_of_busy {a : Adapter} (running : a.lifecycle = .running) (busy : 0 < a.outstanding) :
    a.pause =
      ⟨.ok .pending, { a with lifecycle := .pausing },
        [.notice (.moved a.handle .running .pausing),
          .notice (.pausePending a.handle a.outstanding)]⟩ := by
  have next : a.lifecycle.next? (.pause (0 < a.outstanding)) = some .pausing := by
    rw [running, decide_eq_true busy]
    rfl
  rw [pause, move_of_allowed next, running]
  rfl

/-- An adapter that is not running cannot be paused. -/
theorem pause_of_still {a : Adapter} (still : a.lifecycle ≠ .running) :
    a.pause =
      ⟨.error (.invalidState a.lifecycle "pause"), a,
        [.notice (.notAllowed a.handle "pause" a.lifecycle)]⟩ := by
  have next : a.lifecycle.next? (.pause (0 < a.outstanding)) = none := by
    cases state : a.lifecycle <;> first | rfl | exact absurd state still
  rw [pause, move_of_refused next]
  rfl

theorem restart_of_paused {a : Adapter} (paused : a.lifecycle = .paused) (flags : UInt32) :
    a.restart flags =
      ⟨.ok (), { a with lifecycle := .running },
        [.notice (.moved a.handle .paused .restarting), .notice (.restartFlags a.handle flags),
          .notice (.moved a.handle .restarting .running), .notice (.running a.handle)]⟩ := by
  have next : a.lifecycle.next? .restart = some .restarting := by
    rw [paused]
    rfl
  rw [restart, move_of_allowed next, paused]
  rfl

/-- An adapter that is not paused cannot be restarted. -/
theorem restart_of_unpaused {a : Adapter} (unpaused : a.lifecycle ≠ .paused) (flags : UInt32) :
    a.restart flags =
      ⟨.error (.invalidState a.lifecycle "restart"), a,
        [.notice (.notAllowed a.handle "restart" a.lifecycle)]⟩ := by
  have next : a.lifecycle.next? .restart = none := by
    cases state : a.lifecycle <;> first | rfl | exact absurd state unpaused
  rw [restart, move_of_refused next]
  rfl

/-- A pause is waiting and nothing is outstanding any more. -/
def Drained (a : Adapter) : Prop := a.lifecycle = .pausing ∧ a.outstanding = 0

theorem settlePause_of_drained {a : Adapter} (drained : a.Drained) :
    a.settlePause =
      ⟨true, { a with lifecycle := .paused }, [.notice (.moved a.handle .pausing .paused)]⟩ := by
  have next : a.lifecycle.next? .pauseComplete = some .paused := by
    rw [drained.1]
    rfl
  unfold Drained at drained
  rw [settlePause, if_pos drained, move_of_allowed next, drained.1]
  rfl

theorem settlePause_of_undrained {a : Adapter} (undrained : ¬ a.Drained) :
    a.settlePause = .quiet false a := by
  unfold Drained at undrained
  rw [settlePause, if_neg undrained]

end Adapter

end PacketRadio
