import PacketRadio.Driver.Load
import PacketRadio.Proofs.Driver.Steps

/-!
# Runs of a driver

A driver starts as a context that has just been made, or made and registered, in an arena that may
be in use already. From there on it serves requests. A run is seen as a sequence of turns: what was
asked, what was answered, and what could be observed meanwhile. What one turn keeps, given those
before it, a whole run keeps.
-/

namespace PacketRadio

open Pool

/-- A request that was served, with its answer and what could be observed. -/
structure Turn where
  request : Request
  answer : Except Fatal Response
  events : List Event

namespace Driver

/-- The turn in which a request is served. -/
def turn (d : Driver) (answers : HostAnswers) (request : Request) : Turn :=
  ⟨request, (d.serve answers request).answer, (d.serve answers request).events⟩

/-- The turns of a run. -/
def turns : Driver → List (HostAnswers × Request) → List Turn
  | _, [] => []
  | d, (answers, request) :: requests =>
    d.turn answers request :: (d.serve answers request).state.turns requests

theorem run_cons (d : Driver) (answers : HostAnswers) (request : Request)
    (requests : List (HostAnswers × Request)) :
    (d.run ((answers, request) :: requests)).state =
        ((d.serve answers request).state.run requests).state ∧
      (d.run ((answers, request) :: requests)).events =
        (d.serve answers request).events ++ ((d.serve answers request).state.run requests).events :=
  ⟨rfl, rfl⟩

theorem run_append (d : Driver) (requests more : List (HostAnswers × Request)) :
    (d.run (requests ++ more)).state = ((d.run requests).state.run more).state := by
  induction requests generalizing d with
  | nil => rfl
  | cons first requests ih => exact ih _

/-- What every turn keeps, given the turns before it, every run keeps. -/
theorem run_history {P : List Turn → Driver → Prop}
    (step : ∀ past d answers request, P past d →
      P (past ++ [d.turn answers request]) (d.serve answers request).state)
    (past : List Turn) {d : Driver} (start : P past d) (requests : List (HostAnswers × Request)) :
    P (past ++ d.turns requests) (d.run requests).state := by
  induction requests generalizing past d with
  | nil =>
    rw [turns, List.append_nil]
    exact start
  | cons first requests ih =>
    have later := ih _ (step past d first.1 first.2 start)
    rw [List.append_assoc] at later
    exact later

/-- What every request keeps, every run keeps. -/
theorem run_keeps {P : Driver → Prop}
    (step : ∀ d answers request, P d → P (d.serve answers request).state) {d : Driver} (start : P d)
    (requests : List (HostAnswers × Request)) : P (d.run requests).state :=
  run_history (P := fun _ d => P d) (fun _ d answers request => step d answers request) [] start
    requests

/-! ## What all adapters have -/

/-- Every adapter that a handle names has `P`. -/
def All (P : Adapter → Prop) (d : Driver) : Prop := ∀ h a, d.slots.adapter? h = some a → P a

section All

variable {P : Adapter → Prop}
  (new : ∀ handle interface config, P (Adapter.setUpFor handle interface config))
  (kept : ∀ {request : Request} {v : Visit}, request.errand = .visit v → ∀ a, P a →
    P (v.work a).state)

include new kept

/-- What an adapter has when it comes up, and keeps while it works, all adapters have. -/
theorem serve_all {d : Driver} (all : d.All P) (answers : HostAnswers) (request : Request) :
    (d.serve answers request).state.All P := by
  intro h a named
  cases d.serve_fate answers request h with
  | kept same unasked unhalted ungiven =>
    rw [same] at named
    exact all h a named
  | worked errand here before after answer events =>
    cases after.symm.trans named
    exact kept errand _ (all h _ before)
  | arrived unhalted before after answer =>
    cases after.symm.trans named
    exact new h _ _
  | left halts after ungiven => cases after.symm.trans named

end All

/-! ## Where runs start -/

/-- A driver that has just been made, or made and registered. -/
inductive Started : Driver → Prop
  | created {arena : Arena} (opened : arena.Opened) (activity : Activity) (config : DriverConfig)
      {owned : Owned Context} (made : (Context.create arena activity config).answer = .ok owned) :
      Started ⟨owned, (Context.create arena activity config).state.1⟩
  | loaded {arena : Arena} (opened : arena.Opened) (activity : Activity) (answers : HostAnswers)
      (driver : DriverObject) (path : String) (config : DriverConfig) {owned : Owned Context}
      (made : (Context.load arena activity answers driver path config).answer = .ok owned) :
      Started ⟨owned, (Context.load arena activity answers driver path config).state.1⟩

end Driver

namespace Context

/-- A context that is made has no adapters, and its block is the one that was asked for. -/
theorem create_made {arena : Arena} {activity : Activity} {config : DriverConfig}
    {owned : Owned Context} (made : (create arena activity config).answer = .ok owned) :
    (arena.allocateFor Context).answer = .ok owned.block ∧
      (create arena activity config).state.1 = (arena.allocateFor Context).state ∧
      owned.value.slots = SlotTable.empty := by
  unfold create at made ⊢
  split at made
  · cases made
  · rename_i fits
    simp only [Outcome.andThen_answer, Outcome.andThen_state] at made ⊢
    split at made
    · cases made
    · rename_i id claimed
      unfold settleIn at made ⊢
      simp only [Outcome.mapEvents_answer] at made ⊢
      cases got : (arena.allocateFor Context).answer with
      | error why =>
        simp only [got] at made
        split at made <;> cases made
      | ok block =>
        simp only [got] at made ⊢
        cases made
        exact ⟨rfl, rfl, rfl⟩

theorem register_slots (c : Context) (answers : HostAnswers) (driver : DriverObject)
    (path : String) : (c.register answers driver path).state.slots = c.slots := by
  unfold register
  split
  · rfl
  · split <;> rfl

/-- A driver that is loaded is a context that was made and then registered. -/
theorem load_made {arena : Arena} {activity : Activity} {answers : HostAnswers}
    {driver : DriverObject} {path : String} {config : DriverConfig} {owned : Owned Context}
    (made : (load arena activity answers driver path config).answer = .ok owned) :
    ∃ first, (create arena activity config).answer = .ok first ∧
      owned = ⟨first.block, (first.value.register answers driver path).state⟩ ∧
      (load arena activity answers driver path config).state =
        (create arena activity config).state := by
  unfold load at made ⊢
  simp only [Outcome.after_answer, Outcome.andThen_answer, Outcome.after_state,
    Outcome.andThen_state] at made ⊢
  cases created : (create arena activity config).answer with
  | error why =>
    rw [created] at made
    cases made
  | ok first =>
    simp only [created] at made ⊢
    cases registered : (first.value.register answers driver path).answer with
    | error why =>
      simp only [registered, Outcome.after_answer, Outcome.map_answer] at made
      split at made <;> cases made
    | ok handle =>
      simp only [registered] at made ⊢
      cases made
      exact ⟨first, rfl, rfl, trivial⟩

end Context

namespace Driver

/-- A driver starts without adapters, in a block of its own. -/
theorem Started.spec {d : Driver} (started : d.Started) :
    d.slots = SlotTable.empty ∧ ∃ arena : Arena, arena.Opened ∧
      (arena.allocateFor Context).answer = .ok d.context.block ∧
      d.arena = (arena.allocateFor Context).state := by
  cases started with
  | created opened activity config made =>
    obtain ⟨got, state, slots⟩ := Context.create_made made
    exact ⟨slots, _, opened, got, state⟩
  | loaded opened activity answers driver path config made =>
    obtain ⟨first, created, rfl, same⟩ := Context.load_made made
    obtain ⟨got, state, slots⟩ := Context.create_made created
    refine ⟨?_, _, opened, got, ?_⟩
    · exact (first.value.register_slots answers driver path).trans slots
    · rw [same]
      exact state

theorem run_all {P : Adapter → Prop}
    (new : ∀ handle interface config, P (Adapter.setUpFor handle interface config))
    (kept : ∀ {request : Request} {v : Visit}, request.errand = .visit v → ∀ a, P a →
      P (v.work a).state)
    {d : Driver} (started : d.Started) (requests : List (HostAnswers × Request)) :
    (d.run requests).state.All P := by
  have start : d.All P := by
    intro h a named
    rw [started.spec.1, SlotTable.adapter?_empty] at named
    cases named
  exact run_keeps (P := All P) (fun _ answers request all => serve_all new kept all answers request)
    start requests

theorem run_sound {d : Driver} (started : d.Started) (requests : List (HostAnswers × Request)) :
    (d.run requests).state.All Adapter.Sound :=
  run_all Adapter.setUpFor_sound (fun errand a sound => (visit_evolves errand a).sound sound) started
    requests

/-- A driver with default settings, alone in a small region. -/
def sample : Driver where
  context := ⟨⟨1, 0⟩, Context.fresh 1 {}⟩
  arena := ((Arena.fresh 1 4096 16384).allocateFor Context).state

theorem sample_started : sample.Started := by
  have opened : (Arena.fresh 1 4096 16384).Opened := ⟨1, 4096, 16384, _, _, [], rfl, rfl⟩
  have made : (Context.create (Arena.fresh 1 4096 16384) .initial {}).answer =
      .ok ⟨⟨1, 0⟩, Context.fresh 1 {}⟩ := rfl
  exact .created opened .initial {} made

end Driver

/-- A host that takes everything. -/
def HostAnswers.willing : HostAnswers := ⟨.ok ⟨1⟩, .success, .success⟩

end PacketRadio
