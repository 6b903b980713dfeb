import PacketRadio.Pool.Arena

/-!
# Boxes

A box owns at most one value, which lies in a block of an arena. The block is obtained before the
value exists and is released after the value has been destroyed, so a value has one place for its
whole life, whatever happens to its box.
-/

namespace PacketRadio.Pool

/-- What an arena has to know of a type whose values are kept in boxes. -/
class Pooled (α : Type) where
  tag : Tag
  layout : Layout

/-- A value and the block that it occupies. -/
structure Owned (α : Type) where
  block : Block
  value : α
  deriving DecidableEq

/-- The owner of one value, or of nothing. -/
abbrev Box (α : Type) := Option (Owned α)

namespace Owned

variable {α : Type}

/-- The same block with `f` applied to what it holds. -/
def modify (f : α → α) (o : Owned α) : Owned α :=
  ⟨o.block, f o.value⟩

end Owned

/-- Why a value could not be built in a block. -/
inductive BuildError (ι : Type)
  /-- There is no block for it. -/
  | pool (why : Refusal)
  /-- The block was there, but the value could not be made. -/
  | init (why : ι)
  /-- The block could not be given back. -/
  | fault (why : Fault)
  deriving DecidableEq

namespace BuildError

/-- The error in a sentence, if `reason` puts the initialiser's own error into one. -/
def message {ι : Type} (reason : ι → String) : BuildError ι → String
  | pool why => "allocation failed: " ++ why.message
  | init why => "initialization failed: " ++ reason why
  | fault why => why.message

end BuildError

/-- How to reach the one arena that matters in a larger state. -/
structure ArenaIn (σ : Type) where
  get : σ → Arena
  put : σ → Arena → σ

namespace ArenaIn

/-- An arena on its own. -/
def self : ArenaIn Arena := ⟨id, fun _ a => a⟩

/-- An arena with something beside it. -/
def first (β : Type) : ArenaIn (Arena × β) := ⟨Prod.fst, fun s a => (a, s.2)⟩

end ArenaIn

namespace Arena

variable {α : Type} [Pooled α]

/-- A block for a value of `α`. -/
def allocateFor (α : Type) [Pooled α] (a : Arena) : Outcome Notice Arena (Except Refusal Block) :=
  a.allocate (Pooled.layout α) (Pooled.layout α).size (Pooled.tag α)

/-- Gives up the block of a value of `α` that has been destroyed, or was never made. -/
def surrenderOf (α : Type) [Pooled α] (a : Arena) (block : Block) :
    Outcome Notice Arena (Except Fault Unit) :=
  a.surrender block (Pooled.tag α)

/-- Moves `value` into a block of its own. Without a block the value is handed back. -/
def place (a : Arena) (value : α) : Outcome Notice Arena (Except α (Owned α)) :=
  (a.allocateFor α).map fun
    | .ok block => .ok ⟨block, value⟩
    | .error _ => .error value

end Arena

namespace ArenaIn

variable {σ ε ι α : Type} [Pooled α]

/-- Settles a block whose initialiser has run: the value moves in, or the block is given up. -/
def settle (site : ArenaIn σ) (lift : Notice → ε) (block : Block) (s : σ) :
    Except ι α → Outcome ε σ (Except (BuildError ι) (Owned α))
  | .ok value => .quiet (.ok ⟨block, value⟩) s
  | .error why =>
    ((((site.get s).surrenderOf α block).mapEvents lift).within (site.put s)).map fun
      | .ok () => .error (.init why)
      | .error fault => .error (.fault fault)

/-- Obtains a block first and then lets `init` make the value for it. The initialiser may work on
the state itself, and use the arena in it; it does not run if there is no block. -/
def placeWith (site : ArenaIn σ) (lift : Notice → ε) (s : σ)
    (init : σ → Outcome ε σ (Except ι α)) : Outcome ε σ (Except (BuildError ι) (Owned α)) :=
  ((((site.get s).allocateFor α).mapEvents lift).within (site.put s)).andThen fun got s =>
    match got with
    | .error why => .quiet (.error (.pool why)) s
    | .ok block => (init s).andThen fun made s => site.settle lift block s made

/-- Destroys the value of a box and gives up its block: first whatever the destructor does, then the
release. The destructor may work on the state itself, and use the arena in it. An empty box is left
alone. -/
def resetWith (site : ArenaIn σ) (lift : Notice → ε) (destructor : α → σ → Outcome ε σ Unit)
    (box : Box α) (s : σ) : Outcome ε σ (Except Fault Unit) :=
  match box with
  | none => .quiet (.ok ()) s
  | some owned =>
    (destructor owned.value s).andThen fun _ s =>
      (((site.get s).surrenderOf α owned.block).mapEvents lift).within (site.put s)

end ArenaIn

/-- Destroys the value of a box whose destructor does nothing but report. -/
def Arena.reset {ε α : Type} [Pooled α] (lift : Notice → ε) (destructor : α → List ε) (box : Box α)
    (a : Arena) : Outcome ε Arena (Except Fault Unit) :=
  ArenaIn.self.resetWith lift (fun value a => ⟨(), a, destructor value⟩) box a

end PacketRadio.Pool
