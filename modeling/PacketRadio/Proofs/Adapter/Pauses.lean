import Mathlib.Data.List.Chain
import PacketRadio.Proofs.Adapter.Operations

/-!
# Waiting for a pause

A pause that cannot take effect at once is pending, and is over when the last buffer list has come
back. As long as it is pending, the adapter waits for at least one list. Of all that an adapter
does, only a pause makes it wait, and only the list that was the last one lets it stop.
-/

namespace PacketRadio

/-- What is seen of a pause: that it is pending, or that the host is told of its end. -/
inductive Mark
  | pending
  | notified
  deriving DecidableEq

/-! ## Marks that alternate -/

/-- The marks that are seen while waiting starts and ends, from the first state to the last. -/
inductive Awaiting : Bool → List Mark → Bool → Prop
  | still (waiting : Bool) : Awaiting waiting [] waiting
  | pending {marks : List Mark} {waiting : Bool} (later : Awaiting true marks waiting) :
      Awaiting false (.pending :: marks) waiting
  | notified {marks : List Mark} {waiting : Bool} (later : Awaiting false marks waiting) :
      Awaiting true (.notified :: marks) waiting

/-- The marks alternate, and the first one is not a notification. -/
structure Alternating (marks : List Mark) : Prop where
  first : marks.head? ≠ some .notified
  turns : marks.IsChain (· ≠ ·)

namespace Awaiting

variable {before between after : Bool} {marks more : List Mark}

theorem append (h : Awaiting before marks between) (k : Awaiting between more after) :
    Awaiting before (marks ++ more) after := by
  induction h with
  | still => exact k
  | pending _ ih => exact .pending (ih k)
  | notified _ ih => exact .notified (ih k)

theorem begun : Awaiting false [.pending] true := .pending (.still true)

theorem ended : Awaiting true [.notified] false := .notified (.still false)

/-- Whoever waits is notified first, and whoever does not is not. -/
theorem head (h : Awaiting before marks after) :
    marks.head? ≠ some (if before then .pending else .notified) := by
  cases h <;> simp

theorem turns (h : Awaiting before marks after) : marks.IsChain (· ≠ ·) := by
  induction h with
  | still => exact .nil
  | @pending marks _ later ih =>
    cases marks with
    | nil => exact .singleton _
    | cons next marks =>
      refine .cons_cons (fun same => later.head ?_) ih
      rw [← same]
      rfl
  | @notified marks _ later ih =>
    cases marks with
    | nil => exact .singleton _
    | cons next marks =>
      refine .cons_cons (fun same => later.head ?_) ih
      rw [← same]
      rfl

theorem alternating (h : Awaiting false marks after) : Alternating marks := ⟨h.head, h.turns⟩

/-- What was seen last tells whether there is waiting in the end. -/
theorem last (h : Awaiting before marks after) :
    after = (marks.getLast?.map (· == .pending)).getD before := by
  induction h with
  | still => rfl
  | @pending marks _ _ ih =>
    rw [List.getLast?_cons, ih]
    cases marks.getLast? <;> rfl
  | @notified marks _ _ ih =>
    rw [List.getLast?_cons, ih]
    cases marks.getLast? <;> rfl

theorem waits_iff (h : Awaiting false marks after) :
    after = true ↔ marks.getLast? = some .pending := by
  rw [h.last]
  cases marks.getLast? with
  | none => simp
  | some mark => simp

end Awaiting

namespace Adapter

/-- A pause of the adapter is pending. -/
def waiting (a : Adapter) : Bool := a.lifecycle == .pausing

/-- The tables are sound, and a pause that is pending waits for a buffer list. -/
structure Steady (a : Adapter) : Prop extends a.Sound where
  busy : a.lifecycle = .pausing → ¬ a.Idle

theorem waiting_iff {a : Adapter} : a.waiting = true ↔ a.lifecycle = .pausing := beq_iff_eq

theorem waiting_of_ne {a : Adapter} (other : a.lifecycle ≠ .pausing) : a.waiting = false := by
  rw [waiting, beq_eq_false_iff_ne]
  exact other

theorem Sound.steady_of_ne {a : Adapter} (sound : a.Sound) (other : a.lifecycle ≠ .pausing) :
    a.Steady :=
  ⟨sound, fun pausing => absurd pausing other⟩

/-- From `a` to `b`, waiting starts and ends as the marks tell, and `b` waits for a list if it
waits. -/
structure Paces (a : Adapter) (marks : List Mark) (b : Adapter) : Prop where
  awaiting : Awaiting a.waiting marks b.waiting
  steady : b.Steady

theorem Steady.paces {a : Adapter} (steady : a.Steady) : a.Paces [] a := ⟨.still _, steady⟩

theorem Paces.trans {a b c : Adapter} {marks more : List Mark} (h : a.Paces marks b)
    (k : b.Paces more c) : a.Paces (marks ++ more) c :=
  ⟨h.awaiting.append k.awaiting, k.steady⟩

/-- Nothing is seen when the lifecycle stays as it is. -/
theorem Steady.paces_of_same {a b : Adapter} (steady : b.Steady) (same : b.lifecycle = a.lifecycle) :
    a.Paces [] b := by
  refine ⟨?_, steady⟩
  rw [show b.waiting = a.waiting from congrArg (· == .pausing) same]
  exact .still _

/-- Nothing is seen when there is no waiting before or after. -/
theorem Sound.paces_of_ne {a b : Adapter} (sound : b.Sound) (before : a.lifecycle ≠ .pausing)
    (after : b.lifecycle ≠ .pausing) : a.Paces [] b := by
  refine ⟨?_, sound.steady_of_ne after⟩
  rw [waiting_of_ne before, waiting_of_ne after]
  exact .still _

/-! ## Lifecycle -/

/-- A pause takes effect at once if nothing is outstanding; else it is pending. -/
theorem Sound.pause_cases {a : Adapter} (sound : a.Sound) :
    (a.Idle ∧ a.lifecycle = .running ∧ a.pause.answer = .ok .completed ∧
        a.pause.state = { a with lifecycle := .paused }) ∨
      (¬ a.Idle ∧ a.lifecycle = .running ∧ a.pause.answer = .ok .pending ∧
        a.pause.state = { a with lifecycle := .pausing }) ∨
      (a.pause.answer = .error (.invalidState a.lifecycle "pause") ∧ a.pause.state = a) := by
  by_cases running : a.lifecycle = .running
  · rcases Nat.eq_zero_or_pos a.outstanding with idle | busy
    · rw [pause_of_idle running idle]
      exact .inl ⟨sound.outstanding_eq_zero.1 idle, running, rfl, rfl⟩
    · rw [pause_of_busy running busy]
      refine .inr (.inl ⟨fun idle => ?_, running, rfl, rfl⟩)
      rw [sound.outstanding_eq_zero.2 idle] at busy
      exact absurd busy (Nat.lt_irrefl 0)
  · rw [pause_of_still running]
    exact .inr (.inr ⟨rfl, rfl⟩)

theorem Steady.restart {a : Adapter} (steady : a.Steady) (flags : UInt32) :
    a.Paces [] (a.restart flags).state := by
  by_cases paused : a.lifecycle = .paused
  · rw [restart_of_paused paused]
    exact Sound.paces_of_ne ⟨steady.sends, steady.receives⟩ (by simp [paused]) (by simp)
  · rw [restart_of_unpaused paused]
    exact steady.paces

/-- A pause that is settled is over, with nothing outstanding; else there is still something, or no
pause. -/
theorem Sound.settlePause_cases {a : Adapter} (sound : a.Sound) :
    (a.settlePause.answer = true ∧ a.settlePause.state.Idle ∧
        a.Paces [.notified] a.settlePause.state) ∨
      (a.settlePause.answer = false ∧ a.Paces [] a.settlePause.state) := by
  by_cases drained : a.Drained
  · rw [settlePause_of_drained drained]
    refine .inl ⟨rfl, sound.outstanding_eq_zero.1 drained.2, ?_, ?_⟩
    · rw [waiting_iff.2 drained.1]
      exact .ended
    · exact Sound.steady_of_ne ⟨sound.sends, sound.receives⟩ (by simp)
  · rw [settlePause_of_undrained drained]
    refine .inr ⟨rfl, Steady.paces ⟨sound, fun pausing idle => ?_⟩⟩
    exact drained ⟨pausing, sound.outstanding_eq_zero.2 idle⟩

/-! ## Traffic -/

theorem Steady.send {a : Adapter} (steady : a.Steady) (list : BufferList) :
    a.Paces [] (a.send list).state := by
  rcases a.send_cases list with ⟨sends, taken, running, same⟩ | ⟨status, same⟩
  · rw [same]
    exact Sound.paces_of_ne (Change.sendTaken taken |>.sound steady.toSound) (by simp [running])
      (by simp [running])
  · rw [same]
    exact steady.paces

theorem Steady.receive {a : Adapter} (steady : a.Steady) (list : BufferList) :
    a.Paces [] (a.receive list).state := by
  rcases a.receive_cases list with ⟨receives, taken, running, same⟩ | ⟨status, same⟩
  · rw [same]
    exact Sound.paces_of_ne (Change.receiveTaken taken |>.sound steady.toSound) (by simp [running])
      (by simp [running])
  · rw [same]
    exact steady.paces

theorem Steady.sendAll {a : Adapter} (steady : a.Steady) (handle : Handle)
    (lists : List BufferList) : a.Paces [] (sendAll handle lists a).state := by
  induction lists generalizing a with
  | nil => exact steady.paces
  | cons list lists ih =>
    have first := steady.send list
    exact first.trans (ih first.steady)

/-- A list that comes back ends a pause if it was the last one; nothing else does. -/
theorem Steady.takeBack {a : Adapter} (steady : a.Steady) (list : BufferList) :
    ((a.takeBack list).answer = .ok true ∧ (a.takeBack list).state.Idle ∧
        a.Paces [.notified] (a.takeBack list).state) ∨
      ((a.takeBack list).answer ≠ .ok true ∧ a.Paces [] (a.takeBack list).state) := by
  cases gone : a.receives.remove? list with
  | none =>
    rw [takeBack_of_absent gone]
    exact .inr ⟨by simp, steady.paces⟩
  | some receives =>
    rw [takeBack_of_held gone]
    rcases ((Change.receiveGone gone).sound steady.toSound).settlePause_cases with
      ⟨answer, idle, paces⟩ | ⟨answer, paces⟩
    · refine .inl ⟨?_, idle, paces.awaiting, paces.steady⟩
      rw [Outcome.map_answer, answer]
    · refine .inr ⟨?_, paces.awaiting, paces.steady⟩
      rw [Outcome.map_answer, answer]
      simp

/-! ## Batches that come back -/

theorem takeBackAll_cons_state (handle : Handle) (list : BufferList) (lists : List BufferList)
    (a : Adapter) :
    (takeBackAll handle (list :: lists) a).state =
      (takeBackAll handle lists (a.takeBack list).state).state := rfl

/-- The host hears of a batch what it hears of the lists in it. -/
theorem takeBackAll_cons_calls (handle : Handle) (list : BufferList) (lists : List BufferList)
    (a : Adapter) :
    hostCalls (takeBackAll handle (list :: lists) a).events =
      (if (a.takeBack list).answer = .ok true then [.pauseComplete handle] else []) ++
        hostCalls (takeBackAll handle lists (a.takeBack list).state).events := by
  rw [takeBackAll, Outcome.andThen_events, Outcome.after_events, hostCalls_append, hostCalls_append,
    takeBack_calls, List.nil_append]
  congr 1
  rcases (a.takeBack list).answer with why | settled
  · rfl
  · cases settled <;> rfl

/-- An adapter without received lists cannot take any back. -/
theorem takeBackAll_of_none {a : Adapter} (nothing : a.receives.held = []) (handle : Handle)
    (lists : List BufferList) :
    (takeBackAll handle lists a).state = a ∧ hostCalls (takeBackAll handle lists a).events = [] := by
  induction lists with
  | nil => exact ⟨rfl, rfl⟩
  | cons list lists ih =>
    have absent : a.receives.remove? list = none := by
      rw [InFlight.remove?_eq_none, nothing]
      exact List.not_mem_nil
    rw [takeBackAll_cons_state, takeBackAll_cons_calls, takeBack_of_absent absent]
    exact ⟨ih.1, by simpa using ih.2⟩

/-- **The list in a batch that ends a pause**: up to it the host is told nothing, with it that the
pause is complete, and after it nothing again, since there is nothing left to take back. -/
structure Ends (handle : Handle) (a : Adapter) (xs : List BufferList) (y : BufferList)
    (zs : List BufferList) : Prop where
  before : hostCalls (takeBackAll handle xs a).events = []
  calls : hostCalls (takeBackAll handle (xs ++ [y]) a).events = [.pauseComplete handle]
  idle : (takeBackAll handle (xs ++ [y]) a).state.Idle
  after : hostCalls (takeBackAll handle (xs ++ y :: zs) a).events = [.pauseComplete handle]
  paces : a.Paces [.notified] (takeBackAll handle (xs ++ y :: zs) a).state

/-- A batch ends a pause with one of its lists, or not at all. -/
theorem Steady.takeBackAll {a : Adapter} (steady : a.Steady) (handle : Handle)
    (lists : List BufferList) :
    (∃ xs y zs, lists = xs ++ y :: zs ∧ Ends handle a xs y zs) ∨
      (hostCalls (takeBackAll handle lists a).events = [] ∧
        a.Paces [] (takeBackAll handle lists a).state) := by
  induction lists generalizing a with
  | nil => exact .inr ⟨rfl, steady.paces⟩
  | cons list lists ih =>
    rcases steady.takeBack list with ⟨answer, idle, paces⟩ | ⟨answer, paces⟩
    · obtain ⟨state, calls⟩ := takeBackAll_of_none idle.2 handle lists
      refine .inl ⟨[], list, lists, rfl, rfl, ?_, idle, ?_, ?_⟩
      · rw [List.nil_append, takeBackAll_cons_calls, if_pos answer]
        rfl
      · rw [List.nil_append, takeBackAll_cons_calls, if_pos answer, calls]
        rfl
      · rw [List.nil_append, takeBackAll_cons_state, state]
        exact paces
    · have calls : ∀ more, hostCalls (Adapter.takeBackAll handle (list :: more) a).events =
          hostCalls (Adapter.takeBackAll handle more (a.takeBack list).state).events := by
        intro more
        rw [takeBackAll_cons_calls, if_neg answer, List.nil_append]
      rcases ih paces.steady with ⟨xs, y, zs, rfl, ends⟩ | ⟨none, later⟩
      · refine .inl ⟨list :: xs, y, zs, rfl, ?_, ?_, ends.idle, ?_, paces.trans ends.paces⟩
        · rw [calls]
          exact ends.before
        · rw [List.cons_append, calls]
          exact ends.calls
        · rw [List.cons_append, calls]
          exact ends.after
      · refine .inr ⟨?_, paces.trans later⟩
        rw [calls]
        exact none

/-! ## Attributes -/

/-- Setting an adapter leaves lifecycle and tables alone. -/
theorem Steady.serve {a : Adapter} (steady : a.Steady) (r : AttributeRequest) :
    a.Paces [] (a.serve r).state := by
  obtain ⟨⟨filter, vlan, multicast, same⟩, -⟩ := a.serve_onlySets r
  rw [same]
  exact Steady.paces_of_same ⟨⟨steady.sends, steady.receives⟩, steady.busy⟩ rfl

end Adapter

end PacketRadio
