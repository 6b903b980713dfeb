import Mathlib.Logic.Function.Basic
import PacketRadio.Proofs.Pool.Boxes

/-!
# Programs that use boxes

A program uses any number of boxes for values of any number of kinds, which have their blocks in any
number of arenas. It makes values, moves them from box to box, changes them where they lie, and
destroys them; what initialisers and destructors do on the way is again such a program. The values
are numbered, so that each of them can be followed from the block that it is placed in to its end.

Others use the arenas too. They give back no blocks but those that were handed out to them, and each
once at most, but under whatever tag and to whatever arena.
-/

namespace PacketRadio.Pool

/-! ## Values that can be followed -/

/-- A value under a number. -/
structure Stamped (α : Type) where
  serial : Nat
  value : α

namespace Stamped

variable {α : Type}

instance [Pooled α] : Pooled (Stamped α) := ⟨Pooled.tag α, Pooled.layout α⟩

/-- A change of the value. The number stays. -/
def map (f : α → α) (v : Stamped α) : Stamped α := ⟨v.serial, f v.value⟩

end Stamped

/-- What becomes of values and blocks. -/
inductive Deed
  | notice (notice : Notice)
  /-- A value was moved into a block. -/
  | placed (serial : Nat) (block : Block)
  /-- The destructor of a value was called, in the block where the value lies. -/
  | destroyed (serial : Nat) (block : Block)
  /-- A value found no block and was handed back. -/
  | returned (serial : Nat)
  deriving DecidableEq

/-- The name of a box, with the kind of the values that it can hold. -/
structure Label (κ : Type) where
  kind : κ
  number : Nat
  deriving DecidableEq

/-- What a program finds: the arenas by their numbers, the boxes, the blocks that others hold, and
the number for the next value. -/
structure Estate {κ : Type} (V : κ → Type) where
  arenas : Nat → Arena
  boxes : ∀ l : Label κ, Box (Stamped (V l.kind))
  loose : Block → Bool
  next : Nat

/-- What a program does next. -/
inductive Op {κ : Type} (V : κ → Type) (ι : Type)
  /-- Moves a value into a block, and lets a box own it. Here and below, `destructor` is what the
  destructor of the box's former value does. -/
  | place (arena : Nat) (l : Label κ) (value : V l.kind) (destructor : List (Op V ι))
  /-- Obtains a block and runs `initialiser` to make the value for it. -/
  | placeWith (arena : Nat) (l : Label κ) (initialiser : List (Op V ι))
      (made : Except ι (V l.kind)) (destructor : List (Op V ι))
  /-- Takes what a box owns and lets another one own it. -/
  | take (source : Label κ) (target : Nat) (destructor : List (Op V ι))
  /-- Destroys what a box owns; dropping the box does the same. -/
  | reset (l : Label κ) (destructor : List (Op V ι))
  /-- Changes a value where it lies. -/
  | modify (l : Label κ) (f : V l.kind → V l.kind)
  /-- Somebody else asks for a block. -/
  | allocate (arena : Nat) (layout : Layout) (type : layout.OfType) (size : Nat) (tag : Tag)
  /-- Somebody else gives a block back that he holds. He keeps it if the arena does not take it. -/
  | release (arena : Nat) (block : Block) (tag : Tag)

namespace Estate

variable {κ : Type} {V : κ → Type}

/-- The arena with number `n`. -/
def site (n : Nat) : ArenaIn (Estate V) where
  get s := s.arenas n
  put s a := { s with arenas := Function.update s.arenas n a }

/-- The estate in which others hold a block, or do not. -/
def putLoose (s : Estate V) (block : Block) (held : Bool) : Estate V :=
  { s with loose := Function.update s.loose block held }

/-- The estate after a number was given to a value. -/
def count (s : Estate V) : Estate V := { s with next := s.next + 1 }

section

variable [DecidableEq κ]

/-- The estate in which a box owns something else. -/
def putBox (s : Estate V) (l : Label κ) (box : Box (Stamped (V l.kind))) : Estate V :=
  { s with boxes := Function.update s.boxes l box }

variable (s : Estate V) {l m : Label κ} {box other : Box (Stamped (V l.kind))}

@[simp] theorem putBox_self : (s.putBox l box).boxes l = box := Function.update_self ..

theorem putBox_of_ne (apart : m ≠ l) : (s.putBox l box).boxes m = s.boxes m :=
  Function.update_of_ne apart ..

@[simp] theorem putBox_putBox : (s.putBox l box).putBox l other = s.putBox l other := by
  simp only [putBox, Function.update_idem]

/-- What is owned when a box is empty, another box owned before. -/
theorem holds_of_emptied {owned : Owned (Stamped (V m.kind))}
    (holds : (s.putBox l none).boxes m = some owned) : m ≠ l ∧ s.boxes m = some owned := by
  have apart : m ≠ l := by
    rintro rfl
    rw [putBox_self] at holds
    cases holds
  rw [putBox_of_ne s apart] at holds
  exact ⟨apart, holds⟩

end

variable [∀ k, Pooled (V k)]

/-- Destroys what a box owned, and gives its block up. -/
def destroy {k : κ} (box : Box (Stamped (V k))) (destructor : Estate V → Outcome Deed (Estate V) Unit)
    (s : Estate V) : Outcome Deed (Estate V) Unit :=
  match box with
  | none => .quiet () s
  | some owned =>
    ((site owned.block.arena).resetWith Deed.notice
      (fun v s => (destructor s).after [.destroyed v.serial owned.block]) box s).map fun _ => ()

theorem destroy_some {k : κ} (owned : Owned (Stamped (V k)))
    (destructor : Estate V → Outcome Deed (Estate V) Unit) (s : Estate V) :
    destroy (some owned) destructor s =
      let left := destructor s
      let back := (left.state.arenas owned.block.arena).surrenderOf (Stamped (V k)) owned.block
      ⟨(), (site owned.block.arena).put left.state back.state,
        [.destroyed owned.value.serial owned.block] ++ left.events ++ back.events.map .notice⟩ :=
  rfl

variable [DecidableEq κ]

/-- Lets a box own something else, and destroys what it owned before. Nobody looks into a box while it
is overwritten, so it does not matter which comes first. -/
def store (l : Label κ) (box : Box (Stamped (V l.kind)))
    (destructor : Estate V → Outcome Deed (Estate V) Unit) (s : Estate V) :
    Outcome Deed (Estate V) Unit :=
  destroy (s.boxes l) destructor (s.putBox l box)

variable {ι : Type}

/-- Gives a number to what an initialiser has made. -/
def stamp {k : κ} (made : Except ι (V k)) (s : Estate V) :
    Outcome Deed (Estate V) (Except ι (Stamped (V k))) :=
  match made with
  | .ok value => .quiet (.ok ⟨s.next, value⟩) s.count
  | .error why => .quiet (.error why) s

/-- Makes a value in a block of arena `n`: the block is obtained, the initialiser runs, and the
value moves in, or the block is released. -/
def construct {k : κ} (n : Nat) (init : Estate V → Outcome Deed (Estate V) (Except ι (V k)))
    (s : Estate V) : Outcome Deed (Estate V) (Except (BuildError ι) (Owned (Stamped (V k)))) :=
  (site n).placeWith Deed.notice s fun s => (init s).andThen stamp

mutual

/-- What an operation does. -/
def step : Op V ι → Estate V → Outcome Deed (Estate V) Unit
  | .place n l value destructor, s =>
    let made := (((s.arenas n).place (⟨s.next, value⟩ : Stamped (V l.kind))).mapEvents
      Deed.notice).within ((site n).put s.count)
    match made.answer with
    | .ok owned =>
      (store l (some owned) (fun s => run destructor s) made.state).after
        (made.events ++ [.placed owned.value.serial owned.block])
    | .error back => ⟨(), made.state, made.events ++ [.returned back.serial]⟩
  | .placeWith n l initialiser made destructor, s =>
    let built := construct n (fun s => (run initialiser s).map fun _ => made) s
    match built.answer with
    | .ok owned =>
      (store l (some owned) (fun s => run destructor s) built.state).after
        (built.events ++ [.placed owned.value.serial owned.block])
    | .error _ => ⟨(), built.state, built.events⟩
  | .take source target destructor, s =>
    store ⟨source.kind, target⟩ (s.boxes source) (fun s => run destructor s)
      (s.putBox source none)
  | .reset l destructor, s => store l none (fun s => run destructor s) s
  | .modify l f, s => .quiet () (s.putBox l ((s.boxes l).map (Owned.modify (Stamped.map f))))
  | .allocate n layout _ size tag, s =>
    let got := (((s.arenas n).allocate layout size tag).mapEvents Deed.notice).within
      ((site n).put s)
    match got.answer with
    | .ok block => ⟨(), got.state.putLoose block true, got.events⟩
    | .error _ => ⟨(), got.state, got.events⟩
  | .release n block tag, s =>
    if s.loose block then
      let back := (((s.arenas n).release block tag).mapEvents Deed.notice).within ((site n).put s)
      match back.answer with
      | .ok () => ⟨(), back.state.putLoose block false, back.events⟩
      | .error _ => ⟨(), back.state, back.events⟩
    else .quiet () s

/-- What a program does, one operation after the other. -/
def run : List (Op V ι) → Estate V → Outcome Deed (Estate V) Unit
  | [], s => .quiet () s
  | op :: ops, s => (step op s).andThen fun _ s => run ops s

end

/-! ## Operations case by case -/

section

variable (s : Estate V) {n : Nat} {l : Label κ} {block : Block}
  {initialiser destructor : List (Op V ι)}

/-- What the arena reports when it is asked for a block for box `l`. -/
def inquiry (s : Estate V) (n : Nat) (l : Label κ) : List Deed :=
  ((s.arenas n).allocateFor (Stamped (V l.kind))).events.map .notice

theorem step_place_of_granted {value : V l.kind}
    (got : ((s.arenas n).allocateFor (Stamped (V l.kind))).answer = .ok block) :
    step (.place n l value destructor) s =
      (store l (some ⟨block, ⟨s.next, value⟩⟩) (fun s => run destructor s)
        ((site n).asked (Stamped (V l.kind)) s).count).after
        (s.inquiry n l ++ [.placed s.next block]) := by
  rw [step]
  simp only [Arena.place, Outcome.within_answer, Outcome.mapEvents_answer, Outcome.map_answer, got]
  rfl

theorem step_place_of_refused {value : V l.kind} {why : Refusal}
    (got : ((s.arenas n).allocateFor (Stamped (V l.kind))).answer = .error why) :
    step (.place n l value destructor) s =
      ⟨(), ((site n).asked (Stamped (V l.kind)) s).count, s.inquiry n l ++ [.returned s.next]⟩ := by
  rw [step]
  simp only [Arena.place, Outcome.within_answer, Outcome.mapEvents_answer, Outcome.map_answer, got]
  rfl

theorem step_placeWith_of_refused {made : Except ι (V l.kind)} {why : Refusal}
    (got : ((s.arenas n).allocateFor (Stamped (V l.kind))).answer = .error why) :
    step (.placeWith n l initialiser made destructor) s =
      ⟨(), (site n).asked (Stamped (V l.kind)) s, s.inquiry n l⟩ := by
  rw [step]
  simp only [construct, (site n).placeWith_of_refused Deed.notice s _ got]
  rfl

theorem step_placeWith_of_made {value : V l.kind}
    (got : ((s.arenas n).allocateFor (Stamped (V l.kind))).answer = .ok block) :
    step (.placeWith n l initialiser (.ok value) destructor) s =
      let built := run initialiser ((site n).asked (Stamped (V l.kind)) s)
      (store l (some ⟨block, ⟨built.state.next, value⟩⟩) (fun s => run destructor s)
        built.state.count).after
        (s.inquiry n l ++ built.events ++ [.placed built.state.next block]) := by
  have built := (site n).placeWith_of_made Deed.notice s
    (fun s => ((run initialiser s).map fun _ => Except.ok (ε := ι) value).andThen stamp) got rfl
  rw [step]
  simp only [construct, built]
  simp only [Outcome.andThen_events, Outcome.map_answer, Outcome.map_state, Outcome.map_events,
    stamp, Outcome.quiet_events, List.append_nil]
  rfl

theorem step_placeWith_of_failed {why : ι}
    (got : ((s.arenas n).allocateFor (Stamped (V l.kind))).answer = .ok block) :
    step (.placeWith n l initialiser (.error why) destructor) s =
      let built := run initialiser ((site n).asked (Stamped (V l.kind)) s)
      let back := (built.state.arenas n).surrenderOf (Stamped (V l.kind)) block
      ⟨(), (site n).put built.state back.state,
        s.inquiry n l ++ (built.events ++ back.events.map .notice)⟩ := by
  have built := (site n).placeWith_of_failed Deed.notice s
    (fun s => ((run initialiser s).map fun _ => Except.error why).andThen stamp) got rfl
  rw [step]
  simp only [construct, built]
  simp only [Outcome.andThen_events, Outcome.map_answer, Outcome.map_state, Outcome.map_events,
    stamp, Outcome.quiet_events, List.append_nil]
  split
  · rename_i impossible
    split at impossible <;> cases impossible
  · rfl

variable {layout : Layout} {type : layout.OfType} {size : Nat} {tag : Tag}

theorem step_allocate_of_granted (got : ((s.arenas n).allocate layout size tag).answer = .ok block) :
    step (.allocate n layout type size tag : Op V ι) s =
      let asked := (s.arenas n).allocate layout size tag
      ⟨(), ((site n).put s asked.state).putLoose block true, asked.events.map .notice⟩ := by
  rw [step]
  simp only [Outcome.within_answer, Outcome.mapEvents_answer, got]
  rfl

theorem step_allocate_of_refused {why : Refusal}
    (got : ((s.arenas n).allocate layout size tag).answer = .error why) :
    step (.allocate n layout type size tag : Op V ι) s =
      let asked := (s.arenas n).allocate layout size tag
      ⟨(), (site n).put s asked.state, asked.events.map .notice⟩ := by
  rw [step]
  simp only [Outcome.within_answer, Outcome.mapEvents_answer, got]
  rfl

theorem step_release_of_taken (loose : s.loose block = true)
    (back : ((s.arenas n).release block tag).answer = .ok ()) :
    step (.release n block tag : Op V ι) s =
      let given := (s.arenas n).release block tag
      ⟨(), ((site n).put s given.state).putLoose block false, given.events.map .notice⟩ := by
  rw [step, if_pos loose]
  simp only [Outcome.within_answer, Outcome.mapEvents_answer, back]
  rfl

theorem step_release_of_refused {why : Refusal} (loose : s.loose block = true)
    (back : ((s.arenas n).release block tag).answer = .error why) :
    step (.release n block tag : Op V ι) s =
      let given := (s.arenas n).release block tag
      ⟨(), (site n).put s given.state, given.events.map .notice⟩ := by
  rw [step, if_pos loose]
  simp only [Outcome.within_answer, Outcome.mapEvents_answer, back]
  rfl

end

end Estate

end PacketRadio.Pool
