import Mathlib.Computability.RegularExpressions
import PacketRadio.Proofs.Adapter.Changes
import PacketRadio.Proofs.Walk

/-!
# The course of an adapter

An adapter is set up once. From then on it goes from one rest to the next: it is restarted in two
steps, and paused at once or with a wait. `course` says this as a regular expression, and events are
allowed one after the other exactly if they begin such a course.

Every event leaves one state and enters one, so the state is told by the event that was taken last.
An adapter that passes over what is not allowed is on a course all the same.
-/

namespace PacketRadio

open Walk

/-! ## Words that begin with a letter -/

section Letters

open RegularExpression Computability

variable {α : Type} {a b : α} {word : List α} {l : Language α}

theorem cons_mem_char_mul : a :: word ∈ (char b).matches' * l ↔ a = b ∧ word ∈ l := by
  rw [matches'_char, Language.mem_mul]
  constructor
  · rintro ⟨_, rfl, rest, among, same⟩
    obtain ⟨rfl, rfl⟩ := List.cons.inj same
    exact ⟨rfl, among⟩
  · rintro ⟨rfl, among⟩
    exact ⟨[a], rfl, word, among, rfl⟩

theorem nil_notMem_char_mul : [] ∉ (char b).matches' * l := by
  rw [matches'_char, Language.mem_mul]
  rintro ⟨_, rfl, rest, -, same⟩
  cases same

end Letters

/-! ## Events -/

namespace LifecycleEvent

/-- The state that the event leaves. -/
def source : LifecycleEvent → Lifecycle
  | initComplete => .initializing
  | restart => .paused
  | restartComplete => .restarting
  | pause _ => .running
  | pauseComplete => .pausing

/-- The state that the event enters. -/
def target : LifecycleEvent → Lifecycle
  | initComplete => .paused
  | restart => .restarting
  | restartComplete => .running
  | pause busy => if busy then .pausing else .paused
  | pauseComplete => .paused

theorem isLive_target (event : LifecycleEvent) : event.target.isLive = true := by
  cases event with
  | pause busy => cases busy <;> rfl
  | _ => rfl

/-- The beginning is never entered. -/
theorem target_ne_initializing (event : LifecycleEvent) : event.target ≠ .initializing := by
  cases event with
  | pause busy => cases busy <;> exact nofun
  | _ => exact nofun

theorem target_eq_running {event : LifecycleEvent} :
    event.target = .running ↔ event = .restartComplete := by
  cases event with
  | restartComplete => exact iff_of_true rfl rfl
  | pause busy => cases busy <;> exact iff_of_false nofun nofun
  | _ => exact iff_of_false nofun nofun

end LifecycleEvent

namespace Lifecycle

variable {s t : Lifecycle} {event : LifecycleEvent} {events : List LifecycleEvent}

/-- **An event is allowed in the state that it leaves**, and in no other one. -/
theorem next?_eq_some : s.next? event = some t ↔ s = event.source ∧ t = event.target := by
  constructor
  · intro allowed
    -- Most pairs of a state and an event are refused.
    cases s <;> cases event <;> try cases allowed
    case running.pause busy => cases busy <;> cases allowed <;> exact ⟨rfl, rfl⟩
    all_goals exact ⟨rfl, rfl⟩
  · rintro ⟨rfl, rfl⟩
    cases event with
    | pause busy => cases busy <;> rfl
    | _ => rfl

theorem leads_to_target (s : Lifecycle) (event : LifecycleEvent) (t : Lifecycle)
    (allowed : s.next? event = some t) : t = event.target := (next?_eq_some.1 allowed).2

/-! ## From one rest to the next -/

section Course

open RegularExpression

/-- A pause, which takes effect at once or with a wait. -/
def stop : RegularExpression LifecycleEvent :=
  char (.pause false) + char (.pause true) * char .pauseComplete

/-- From one rest to the next. -/
def round : RegularExpression LifecycleEvent := char .restart * char .restartComplete * stop

/-- An adapter is set up, and goes round as often as the host wants. -/
def course : RegularExpression LifecycleEvent := char .initComplete * star round

/-- What leads from a state to a rest. -/
def homeward : Lifecycle → RegularExpression LifecycleEvent
  | initializing => course
  | paused => star round
  | restarting => char .restartComplete * (stop * star round)
  | running => stop * star round
  | pausing => char .pauseComplete * star round
  | halted | shutdown => 0

/-- A pause leads to a rest at once, or after a wait. -/
theorem homeward_running : (homeward running).matches' =
    (char (.pause false)).matches' * (homeward paused).matches' +
      (char (.pause true)).matches' * (homeward pausing).matches' := by
  change (stop.matches' * (star round).matches' : Language LifecycleEvent) = _
  rw [stop, matches'_add, matches'_mul, add_mul, mul_assoc]
  rfl

/-- From a rest, the way is not to go, or to be restarted. -/
theorem homeward_paused : (homeward paused).matches' =
    1 + (char .restart).matches' * (homeward restarting).matches' := by
  change (star round).matches' = _
  rw [matches'_star, ← Language.one_add_self_mul_kstar_eq_kstar, round, matches'_mul, matches'_mul,
    mul_assoc, mul_assoc]
  rfl

theorem nil_mem_homeward : [] ∈ (homeward s).matches' ↔ s = paused := by
  cases s with
  | paused => exact iff_of_true (Language.nil_mem_kstar _) rfl
  | running =>
    refine iff_of_false ?_ nofun
    rw [homeward_running, Language.mem_add]
    exact not_or.2 ⟨nil_notMem_char_mul, nil_notMem_char_mul⟩
  | halted => exact iff_of_false nofun nofun
  | shutdown => exact iff_of_false nofun nofun
  | _ => exact iff_of_false nil_notMem_char_mul nofun

/-- The way from a state begins with an event that leaves it, and goes on from where that leads. -/
theorem cons_mem_homeward : event :: events ∈ (homeward s).matches' ↔
    s = event.source ∧ events ∈ (homeward event.target).matches' := by
  constructor
  · intro way
    cases s with
    | paused =>
      rw [homeward_paused, Language.mem_add] at way
      rcases way with nothing | way
      · cases nothing
      · obtain ⟨rfl, rest⟩ := cons_mem_char_mul.1 way
        exact ⟨rfl, rest⟩
    | running =>
      rw [homeward_running, Language.mem_add] at way
      rcases way with way | way <;> obtain ⟨rfl, rest⟩ := cons_mem_char_mul.1 way <;>
        exact ⟨rfl, rest⟩
    | halted => cases way
    | shutdown => cases way
    | _ =>
      obtain ⟨rfl, rest⟩ := cons_mem_char_mul.1 way
      exact ⟨rfl, rest⟩
  · rintro ⟨rfl, rest⟩
    cases event with
    | restart =>
      rw [LifecycleEvent.source, homeward_paused]
      exact .inr (cons_mem_char_mul.2 ⟨rfl, rest⟩)
    | pause busy =>
      rw [LifecycleEvent.source, homeward_running]
      cases busy with
      | false => exact .inl (cons_mem_char_mul.2 ⟨rfl, rest⟩)
      | true => exact .inr (cons_mem_char_mul.2 ⟨rfl, rest⟩)
    | _ => exact cons_mem_char_mul.2 ⟨rfl, rest⟩

/-- **Events lead to a rest exactly if they are one of the ways there.** -/
theorem follow?_eq_paused :
    follow? next? s events = some paused ↔ events ∈ (homeward s).matches' := by
  induction events generalizing s with
  | nil =>
    rw [nil_mem_homeward]
    exact Option.some_inj
  | cons event events ih =>
    rw [follow?_cons, cons_mem_homeward, Option.bind_eq_some_iff, ← ih]
    constructor
    · rintro ⟨t, allowed, rest⟩
      obtain ⟨rfl, rfl⟩ := next?_eq_some.1 allowed
      exact ⟨rfl, rest⟩
    · rintro ⟨rfl, rest⟩
      exact ⟨_, next?_eq_some.2 ⟨rfl, rfl⟩, rest⟩

/-- From a state that an adapter can be in, there is a way to a rest. -/
theorem exists_homeward (live : s.isLive = true) : ∃ rest, follow? next? s rest = some paused := by
  cases s with
  | halted => cases live
  | shutdown => cases live
  | initializing => exact ⟨[.initComplete], rfl⟩
  | paused => exact ⟨[], rfl⟩
  | restarting => exact ⟨[.restartComplete, .pause false], rfl⟩
  | running => exact ⟨[.pause false], rfl⟩
  | pausing => exact ⟨[.pauseComplete], rfl⟩

theorem follow?_isLive (live : s.isLive = true) (followed : follow? next? s events = some t) :
    t.isLive = true := by
  induction events generalizing s with
  | nil =>
    cases followed
    exact live
  | cons event events ih =>
    obtain ⟨_, allowed, rest⟩ := Option.bind_eq_some_iff.1 followed
    obtain ⟨-, rfl⟩ := next?_eq_some.1 allowed
    exact ih event.isLive_target rest

/-- **Events are allowed one after the other exactly if they begin a course.** -/
theorem follow?_isSome_iff : (follow? next? initializing events).isSome = true ↔
    ∃ word ∈ course.matches', events <+: word := by
  constructor
  · intro followed
    obtain ⟨t, there⟩ := Option.isSome_iff_exists.1 followed
    obtain ⟨rest, home⟩ := exists_homeward (follow?_isLive rfl there)
    have whole : follow? next? initializing (events ++ rest) = some paused := by
      rw [follow?_append, there]
      exact home
    exact ⟨events ++ rest, follow?_eq_paused.1 whole, List.prefix_append events rest⟩
  · rintro ⟨_, among, rest, rfl⟩
    have whole : follow? next? initializing (events ++ rest) = some paused :=
      follow?_eq_paused.2 among
    rw [follow?_append] at whole
    obtain ⟨t, there, -⟩ := Option.bind_eq_some_iff.1 whole
    exact Option.isSome_iff_exists.2 ⟨t, there⟩

end Course

end Lifecycle

/-! ## Adapters on their course -/

namespace Adapter

/-- The adapter after some moves, each for the sake of an operation. -/
def moveAll (a : Adapter) (moves : List (LifecycleEvent × String)) : Adapter :=
  moves.foldl (fun a m => (a.move m.1 m.2).state) a

theorem move_lifecycle (a : Adapter) (event : LifecycleEvent) (operation : String) :
    (a.move event operation).state.lifecycle = a.lifecycle.advance event := by
  cases next : a.lifecycle.next? event with
  | none =>
    rw [move_of_refused next, Lifecycle.advance, next]
    rfl
  | some t =>
    rw [move_of_allowed next, Lifecycle.advance, next]
    rfl

/-- The lifecycle of an adapter takes a walk through what moves the adapter. -/
theorem moveAll_lifecycle (a : Adapter) (moves : List (LifecycleEvent × String)) :
    (a.moveAll moves).lifecycle = through Lifecycle.next? a.lifecycle (moves.map Prod.fst) := by
  induction moves generalizing a with
  | nil => rfl
  | cons m moves ih => exact (ih _).trans (congrArg (through _ · _) (a.move_lifecycle m.1 m.2))

end Adapter

namespace Lifecycle

/-- What becomes of an adapter that has not been set up, if `events` come. -/
structure KeepsCourse (events : List LifecycleEvent) : Prop where
  /-- All of them are allowed exactly if they begin a course. -/
  allowed_iff : (follow? next? initializing events).isSome = true ↔
    ∃ word ∈ course.matches', events <+: word
  /-- Without those that are not allowed, they begin one. -/
  followed : follow? next? initializing (taken next? initializing events) =
    some (through next? initializing events)
  live : through next? initializing events ≠ halted ∧ through next? initializing events ≠ shutdown
  /-- An adapter is set up for good. -/
  once : .initComplete ∈ taken next? initializing events →
    ∀ later, through next? initializing (events ++ later) ≠ initializing
  traffic : (through next? initializing events).acceptsTraffic = true ↔
    (taken next? initializing events).getLast? = some .restartComplete
  /-- An adapter that is moved by the events goes the same way. -/
  moved : ∀ (a : Adapter) (moves : List (LifecycleEvent × String)), a.lifecycle = initializing →
    moves.map Prod.fst = events → (a.moveAll moves).lifecycle = through next? initializing events

/-- **The lifecycle allows the beginnings of a course, and nothing else.** -/
theorem events_keepCourse (events : List LifecycleEvent) : KeepsCourse events where
  allowed_iff := follow?_isSome_iff
  followed := follow?_taken initializing events
  live := by
    have live : (through next? initializing events).isLive = true :=
      follow?_isLive rfl (follow?_taken initializing events)
    constructor <;> intro dead <;> rw [dead] at live <;> cases live
  once among later := by
    cases last : (taken next? initializing (events ++ later)).getLast? with
    | none =>
      rw [List.getLast?_eq_none_iff, taken_append, List.append_eq_nil_iff] at last
      rw [last.1] at among
      cases among
    | some event =>
      rw [through_of_last leads_to_target last]
      exact event.target_ne_initializing
  traffic := by
    rw [acceptsTraffic, beq_iff_eq]
    cases last : (taken next? initializing events).getLast? with
    | none =>
      rw [through_of_nothing leads_to_target last]
      exact iff_of_false nofun nofun
    | some event =>
      rw [through_of_last leads_to_target last, LifecycleEvent.target_eq_running, Option.some_inj]
  moved a moves fresh same := by rw [a.moveAll_lifecycle, fresh, same]

/-- A restart that is asked for twice, and a pause that waits. -/
example : through next? initializing
    [.initComplete, .restart, .restart, .restartComplete, .pause true, .pause false] = pausing :=
  rfl

end Lifecycle

end PacketRadio
