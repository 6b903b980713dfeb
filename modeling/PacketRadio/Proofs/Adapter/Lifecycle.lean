import Mathlib.Data.Finset.Card
import PacketRadio.Proofs.Adapter.Pauses
import PacketRadio.Proofs.Driver.Lifespan

/-!
# Adapters between operations

Lifecycle and tables are changed by different operations, and stay linked: an adapter that is paused
owes nothing, and one that is pausing owes something. An operation that is told to let a list go is
the only one that can end a pause, and it does so with the last list.

So an adapter never waits for nothing, and never rests while it owes a list, whatever is asked of it
and in whatever order.
-/

namespace PacketRadio

open Pool

namespace Adapter

/-! ## Operations -/

/-- What can be asked of an adapter from its creation to its destruction. -/
inductive Operation
  | pause
  | restart (flags : UInt32)
  | send (list : BufferList)
  | completeSend (list : BufferList)
  | receive (list : BufferList)
  | takeBack (list : BufferList)
  | takeSend
  | serve (request : AttributeRequest)

/-- The adapter after an operation. -/
def apply (a : Adapter) : Operation → Adapter
  | .pause => a.pause.state
  | .restart flags => (a.restart flags).state
  | .send list => (a.send list).state
  | .completeSend list => (a.completeSend list).state
  | .receive list => (a.receive list).state
  | .takeBack list => (a.takeBack list).state
  | .takeSend => a.takeSend.state
  | .serve request => (a.serve request).state

/-- The adapter after some operations. -/
def applyAll (a : Adapter) (operations : List Operation) : Adapter := operations.foldl apply a

/-- The operation lets go of a list that `a` holds. That leaves `b`, before a pause is settled. -/
inductive Releases (a : Adapter) : Operation → Adapter → Prop
  | completed {list : BufferList} {sends : InFlight} (gone : a.sends.remove? list = some sends) :
      Releases a (.completeSend list) { a with sends := sends }
  | returned {list : BufferList} {receives : InFlight}
      (gone : a.receives.remove? list = some receives) :
      Releases a (.takeBack list) { a with receives := receives }
  | taken {list : BufferList} {sends : InFlight} (gone : a.sends.pop? = some (list, sends)) :
      Releases a .takeSend { a with sends := sends }

/-- The tables are sound, and the lifecycle is where the tables allow: at rest only if nothing is
owed, and waiting only if something is. -/
structure Orderly (a : Adapter) : Prop extends a.Steady where
  live : a.lifecycle = .paused ∨ a.lifecycle = .running ∨ a.lifecycle = .pausing
  idle : a.lifecycle = .paused → a.Idle

namespace Orderly

variable {a b : Adapter} {operation : Operation}

theorem of_running (sound : a.Sound) (running : a.lifecycle = .running) : a.Orderly where
  toSteady := sound.steady_of_ne (by simp [running])
  live := .inr (.inl running)
  idle paused := by
    rw [running] at paused
    cases paused

theorem of_paused (sound : a.Sound) (paused : a.lifecycle = .paused) (idle : a.Idle) :
    a.Orderly where
  toSteady := sound.steady_of_ne (by simp [paused])
  live := .inl paused
  idle _ := idle

theorem of_pausing (sound : a.Sound) (pausing : a.lifecycle = .pausing) (busy : ¬ a.Idle) :
    a.Orderly where
  toSteady := ⟨sound, fun _ => busy⟩
  live := .inr (.inr pausing)
  idle paused := by
    rw [pausing] at paused
    cases paused

/-- An adapter that has been set up is in order. -/
theorem setUpFor (handle : Handle) (interface : Interface) (config : AdapterConfig) :
    (setUpFor handle interface config).Orderly :=
  of_paused (setUpFor_sound handle interface config) rfl ⟨InFlight.held_empty, InFlight.held_empty⟩

/-- Traffic that is not at rest is in order once its pause is settled. -/
theorem settlePause (sound : b.Sound) (traffic : b.lifecycle ≠ .paused)
    (live : b.lifecycle = .paused ∨ b.lifecycle = .running ∨ b.lifecycle = .pausing) :
    b.settlePause.state.Orderly := by
  by_cases drained : b.Drained
  · rw [settlePause_of_drained drained]
    exact of_paused ⟨sound.sends, sound.receives⟩ rfl (sound.outstanding_eq_zero.1 drained.2)
  · rw [settlePause_of_undrained drained]
    rcases live with paused | running | pausing
    · exact absurd paused traffic
    · exact of_running sound running
    · exact of_pausing sound pausing fun idle =>
        drained ⟨pausing, sound.outstanding_eq_zero.2 idle⟩

end Orderly

/-! ## What it takes to let a list go -/

namespace Releases

variable {a b : Adapter} {operation : Operation}

theorem sound (releases : a.Releases operation b) (sound : a.Sound) : b.Sound := by
  cases releases with
  | completed gone => exact (Change.sendGone gone).sound sound
  | returned gone => exact (Change.receiveGone gone).sound sound
  | taken gone => exact (Change.sendPopped gone).sound sound

theorem lifecycle (releases : a.Releases operation b) : b.lifecycle = a.lifecycle := by
  cases releases <;> rfl

/-- One list less is owed. -/
theorem outstanding (releases : a.Releases operation b) (sound : a.Sound) :
    a.outstanding = b.outstanding + 1 := by
  have after := releases.sound sound
  rw [Adapter.outstanding, Adapter.outstanding, sound.sends.count_eq, sound.receives.count_eq,
    after.sends.count_eq, after.receives.count_eq]
  cases releases with
  | completed gone =>
    have := (InFlight.remove?_held gone).1.length_eq
    rw [List.length_cons] at this
    dsimp only
    omega
  | returned gone =>
    have := (InFlight.remove?_held gone).1.length_eq
    rw [List.length_cons] at this
    dsimp only
    omega
  | taken gone =>
    have := congrArg List.length (InFlight.pop?_held gone).1
    rw [List.length_cons] at this
    dsimp only
    omega

/-- An operation that lets a list go then settles the pause, and that is all it does. -/
theorem apply_eq (releases : a.Releases operation b) :
    a.apply operation = b.settlePause.state := by
  cases releases with
  | completed gone =>
    rw [apply, completeSend_of_held gone]
    rfl
  | returned gone =>
    rw [apply, takeBack_of_held gone]
    rfl
  | taken gone =>
    rw [apply, takeSend_of_held gone]
    rfl

/-- Who holds a list is not at rest. -/
theorem traffic (releases : a.Releases operation b) (orderly : a.Orderly) :
    b.lifecycle ≠ .paused := by
  rw [releases.lifecycle]
  intro paused
  have nothing := orderly.toSound.outstanding_eq_zero.2 (orderly.idle paused)
  have := releases.outstanding orderly.toSound
  omega

end Releases

/-! ## One operation -/

/-- What an operation does that lets no list go: it pauses, restarts, takes a list in while the
adapter is running, sets attributes, or does nothing. -/
inductive Keeps (a : Adapter) : Adapter → Prop
  | same : Keeps a a
  | paused (running : a.lifecycle = .running) (idle : a.Idle) :
      Keeps a { a with lifecycle := .paused }
  | pausing (running : a.lifecycle = .running) (busy : ¬ a.Idle) :
      Keeps a { a with lifecycle := .pausing }
  | restarted (paused : a.lifecycle = .paused) : Keeps a { a with lifecycle := .running }
  | sendTaken (running : a.lifecycle = .running) {list : BufferList} {sends : InFlight}
      (taken : a.sends.insert? list = some sends) : Keeps a { a with sends := sends }
  | receiveTaken (running : a.lifecycle = .running) {list : BufferList} {receives : InFlight}
      (taken : a.receives.insert? list = some receives) : Keeps a { a with receives := receives }
  | set (filter : PacketFilter) (vlan : UInt32) (multicast : Multicast) :
      Keeps a { a with filter := filter, vlan := vlan, multicast := multicast }

/-- **An operation lets a list go, or keeps all lists.** -/
theorem Sound.apply_cases {a : Adapter} (sound : a.Sound) (operation : Operation) :
    (∃ b, a.Releases operation b) ∨
      (∀ b, ¬ a.Releases operation b) ∧ a.Keeps (a.apply operation) := by
  cases operation with
  | pause =>
    refine .inr ⟨fun _ => nofun, ?_⟩
    rcases sound.pause_cases with
      ⟨idle, running, -, state⟩ | ⟨busy, running, -, state⟩ | ⟨-, state⟩ <;> rw [apply, state]
    · exact .paused running idle
    · exact .pausing running busy
    · exact .same
  | restart flags =>
    refine .inr ⟨fun _ => nofun, ?_⟩
    by_cases paused : a.lifecycle = .paused
    · rw [apply, restart_of_paused paused]
      exact .restarted paused
    · rw [apply, restart_of_unpaused paused]
      exact .same
  | send list =>
    refine .inr ⟨fun _ => nofun, ?_⟩
    rcases a.send_cases list with ⟨sends, taken, running, same⟩ | ⟨status, same⟩ <;>
      rw [apply, same]
    · exact .sendTaken running taken
    · exact .same
  | receive list =>
    refine .inr ⟨fun _ => nofun, ?_⟩
    rcases a.receive_cases list with ⟨receives, taken, running, same⟩ | ⟨status, same⟩ <;>
      rw [apply, same]
    · exact .receiveTaken running taken
    · exact .same
  | completeSend list =>
    cases gone : a.sends.remove? list with
    | some sends => exact .inl ⟨_, .completed gone⟩
    | none =>
      refine .inr ⟨fun b releases => ?_, ?_⟩
      · cases releases with
        | completed held => cases held.symm.trans gone
      · rw [apply, completeSend_of_absent gone]
        exact .same
  | takeBack list =>
    cases gone : a.receives.remove? list with
    | some receives => exact .inl ⟨_, .returned gone⟩
    | none =>
      refine .inr ⟨fun b releases => ?_, ?_⟩
      · cases releases with
        | returned held => cases held.symm.trans gone
      · rw [apply, takeBack_of_absent gone]
        exact .same
  | takeSend =>
    cases gone : a.sends.pop? with
    | some first => exact .inl ⟨_, .taken gone⟩
    | none =>
      refine .inr ⟨fun b releases => ?_, ?_⟩
      · cases releases with
        | taken held => cases held.symm.trans gone
      · rw [apply, takeSend_of_empty gone]
        exact .same
  | serve request =>
    refine .inr ⟨fun _ => nofun, ?_⟩
    obtain ⟨⟨filter, vlan, multicast, same⟩, -⟩ := a.serve_onlySets request
    rw [apply, same]
    exact .set filter vlan multicast

theorem Keeps.orderly {a b : Adapter} (keeps : a.Keeps b) (orderly : a.Orderly) : b.Orderly := by
  have sound := orderly.toSound
  cases keeps with
  | same => exact orderly
  | paused running idle => exact .of_paused ⟨sound.sends, sound.receives⟩ rfl idle
  | pausing running busy => exact .of_pausing ⟨sound.sends, sound.receives⟩ rfl busy
  | restarted paused => exact .of_running ⟨sound.sends, sound.receives⟩ rfl
  | sendTaken running taken => exact .of_running ((Change.sendTaken taken).sound sound) running
  | receiveTaken running taken =>
    exact .of_running ((Change.receiveTaken taken).sound sound) running
  | set filter vlan multicast =>
    exact ⟨⟨⟨sound.sends, sound.receives⟩, orderly.busy⟩, orderly.live, orderly.idle⟩

/-- Who waits and keeps all lists goes on waiting. -/
theorem Keeps.pausing_of_pausing {a b : Adapter} (keeps : a.Keeps b)
    (pausing : a.lifecycle = .pausing) : b.lifecycle = .pausing := by
  cases keeps with
  | same => exact pausing
  | set filter vlan multicast => exact pausing
  | sendTaken running taken => exact pausing
  | receiveTaken running taken => exact pausing
  | pausing running busy => rfl
  | paused running idle => cases running.symm.trans pausing
  | restarted paused => cases paused.symm.trans pausing

/-- **Every operation keeps an adapter in order.** -/
theorem Orderly.apply {a : Adapter} (orderly : a.Orderly) (operation : Operation) :
    (a.apply operation).Orderly := by
  rcases orderly.toSound.apply_cases operation with ⟨b, releases⟩ | ⟨-, keeps⟩
  · rw [releases.apply_eq]
    refine .settlePause (releases.sound orderly.toSound) (releases.traffic orderly) ?_
    rw [releases.lifecycle]
    exact orderly.live
  · exact keeps.orderly orderly

theorem Orderly.applyAll {a : Adapter} (orderly : a.Orderly) (operations : List Operation) :
    (a.applyAll operations).Orderly := by
  induction operations generalizing a with
  | nil => exact orderly
  | cons operation operations ih => exact ih (orderly.apply operation)

/-! ## Between operations -/

/-- How an adapter is found between two operations, and what the next one can do about its pause. -/
structure WellKept (a : Adapter) : Prop where
  live : a.lifecycle = .paused ∨ a.lifecycle = .running ∨ a.lifecycle = .pausing
  idle : a.lifecycle = .paused → a.outstanding = 0
  busy : a.lifecycle = .pausing → 0 < a.outstanding
  bounded : a.outstanding ≤ 32
  counted : a.outstanding = a.sends.held.toFinset.card + a.receives.held.toFinset.card
  /-- A restart that has begun is completed. -/
  restarts : ∀ next, (a.move .restart "restart").answer = .ok next →
    ((a.move .restart "restart").state.move .restartComplete "restart").answer = .ok .running
  /-- A pause that is to be settled is over. -/
  settles : ∀ operation b, a.Releases operation b → b.lifecycle = .pausing → b.outstanding = 0 →
    (b.move .pauseComplete "complete pause").answer = .ok .paused ∧ b.settlePause.answer = true
  /-- An operation ends the pause if the list that it lets go is the last one, and only then. -/
  ends : ∀ operation, a.lifecycle = .pausing →
    ((a.apply operation).lifecycle = .paused ↔
      (∃ b, a.Releases operation b) ∧ (a.apply operation).outstanding = 0)
  /-- It goes on otherwise. -/
  waits : ∀ operation, a.lifecycle = .pausing → (a.apply operation).lifecycle ≠ .paused →
    (a.apply operation).lifecycle = .pausing

theorem Sound.outstanding_eq_card {a : Adapter} (sound : a.Sound) :
    a.outstanding = a.sends.held.toFinset.card + a.receives.held.toFinset.card := by
  rw [outstanding, sound.sends.count_eq, sound.receives.count_eq,
    List.toFinset_card_of_nodup sound.sends.nodup, List.toFinset_card_of_nodup sound.receives.nodup]

/-- There is room for sixteen lists in either direction. -/
theorem Sound.outstanding_le {a : Adapter} (sound : a.Sound) : a.outstanding ≤ 32 := by
  have sends := a.sends.length_held_le
  have receives := a.receives.length_held_le
  rw [outstanding, sound.sends.count_eq, sound.receives.count_eq]
  simp only [maxInFlight] at sends receives
  omega

/-- A restart takes two moves, and the second one is allowed after the first. -/
theorem restartComplete_of_restart {a : Adapter} {next : Lifecycle}
    (begun : (a.move .restart "restart").answer = .ok next) :
    ((a.move .restart "restart").state.move .restartComplete "restart").answer = .ok .running := by
  cases allowed : a.lifecycle.next? .restart with
  | none =>
    rw [move_of_refused allowed] at begun
    cases begun
  | some there =>
    have restarting : there = .restarting := by
      cases state : a.lifecycle <;> rw [state] at allowed <;> cases allowed
      rfl
    subst restarting
    rw [move_of_allowed allowed]
    rfl

/-- A pause that is settled is over with nothing owed. -/
theorem Releases.ends {a b : Adapter} {operation : Operation} (releases : a.Releases operation b)
    (pausing : a.lifecycle = .pausing) :
    ((a.apply operation).lifecycle = .paused ↔ (a.apply operation).outstanding = 0) ∧
      ((a.apply operation).lifecycle ≠ .paused → (a.apply operation).lifecycle = .pausing) := by
  have waiting := releases.lifecycle.trans pausing
  rw [releases.apply_eq]
  by_cases drained : b.Drained
  · rw [settlePause_of_drained drained]
    exact ⟨iff_of_true rfl drained.2, fun wrong => absurd rfl wrong⟩
  · rw [settlePause_of_undrained drained, Outcome.quiet_state, waiting]
    exact ⟨iff_of_false nofun fun nothing => drained ⟨waiting, nothing⟩, fun _ => rfl⟩

theorem Orderly.wellKept {a : Adapter} (orderly : a.Orderly) : a.WellKept where
  live := orderly.live
  idle paused := orderly.toSound.outstanding_eq_zero.2 (orderly.idle paused)
  busy pausing := Nat.pos_of_ne_zero fun nothing =>
    orderly.busy pausing (orderly.toSound.outstanding_eq_zero.1 nothing)
  bounded := orderly.toSound.outstanding_le
  counted := orderly.toSound.outstanding_eq_card
  restarts _ begun := restartComplete_of_restart begun
  settles operation b releases pausing nothing := by
    have next : b.lifecycle.next? .pauseComplete = some .paused := by
      rw [pausing]
      rfl
    rw [move_of_allowed next, settlePause_of_drained ⟨pausing, nothing⟩]
    exact ⟨rfl, rfl⟩
  ends operation pausing := by
    rcases orderly.toSound.apply_cases operation with ⟨b, releases⟩ | ⟨none, keeps⟩
    · rw [(releases.ends pausing).1]
      exact ⟨fun nothing => ⟨⟨b, releases⟩, nothing⟩, And.right⟩
    · rw [keeps.pausing_of_pausing pausing]
      exact iff_of_false nofun fun ⟨⟨b, releases⟩, _⟩ => none b releases
  waits operation pausing unpaused := by
    rcases orderly.toSound.apply_cases operation with ⟨b, releases⟩ | ⟨-, keeps⟩
    · exact (releases.ends pausing).2 unpaused
    · exact keeps.pausing_of_pausing pausing

/-- **An adapter is well kept between operations**, from its creation on. -/
theorem create_wellKept {arena : Arena} {handle : Handle} {interface : Interface}
    {config : AdapterConfig} {owned : Owned Adapter}
    (made : (create arena handle interface config).answer = .ok owned)
    (operations : List Operation) : (owned.value.applyAll operations).WellKept := by
  rw [(create_made made).1]
  exact ((Orderly.setUpFor handle interface config).applyAll operations).wellKept

/-- A pause that waits for two lists of one name, one in each direction. -/
def paired : List Operation :=
  [.restart 0, .send ⟨5⟩, .receive ⟨5⟩, .pause, .completeSend ⟨5⟩]

theorem paired_wellKept :
    ∃ owned, (create (Arena.fresh 1 4096 16384) ⟨0, 1⟩ ⟨7⟩ {}).answer = .ok owned ∧
      (owned.value.applyAll paired).WellKept ∧
      (owned.value.applyAll paired).lifecycle = .pausing ∧
      ((owned.value.applyAll paired).apply (.takeBack ⟨5⟩)).lifecycle = .paused := by
  have made : (create (Arena.fresh 1 4096 16384) ⟨0, 1⟩ ⟨7⟩ {}).answer =
      .ok ⟨⟨1, 0⟩, Adapter.setUpFor ⟨0, 1⟩ ⟨7⟩ {}⟩ := rfl
  exact ⟨_, made, create_wellKept made paired, by decide +kernel, by decide +kernel⟩

end Adapter

end PacketRadio
