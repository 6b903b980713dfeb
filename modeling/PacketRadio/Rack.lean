/-!
# Racks

A rack is a row of a fixed number of cells, each empty or holding one value. A value goes into the
first empty cell and stays there until it is removed, so removals leave gaps. The view of a rack is
the list of its values in the order of their cells.
-/

namespace PacketRadio

/-- A row of `n` cells. -/
structure Rack (α : Type) (n : Nat) where
  cells : List (Option α)
  length_cells : cells.length = n
  deriving DecidableEq

namespace Rack

variable {α : Type} {n : Nat}

/-- The rack with nothing in it. -/
def empty (α : Type) (n : Nat) : Rack α n :=
  ⟨List.replicate n none, by simp⟩

/-- The values in a row of cells. -/
def valuesIn : List (Option α) → List α
  | [] => []
  | none :: row => valuesIn row
  | some x :: row => x :: valuesIn row

/-- The values in the rack, first cell first. -/
def held (r : Rack α n) : List α := valuesIn r.cells

/-- No cell is empty. -/
def isFull (r : Rack α n) : Bool :=
  r.cells.all Option.isSome

/-- Fills the first empty cell of a row. -/
def fill (x : α) : List (Option α) → List (Option α)
  | [] => []
  | none :: row => some x :: row
  | some y :: row => some y :: fill x row

/-- Empties the first cell of a row whose value satisfies `p`. -/
def clear (p : α → Bool) : List (Option α) → List (Option α)
  | [] => []
  | none :: row => none :: clear p row
  | some y :: row => if p y then none :: row else some y :: clear p row

@[simp] theorem length_fill (x : α) (row : List (Option α)) : (fill x row).length = row.length := by
  induction row with
  | nil => rfl
  | cons cell row ih => cases cell <;> simp [fill, ih]

@[simp] theorem length_clear (p : α → Bool) (row : List (Option α)) :
    (clear p row).length = row.length := by
  induction row with
  | nil => rfl
  | cons cell row ih =>
    cases cell with
    | none => simp [clear, ih]
    | some y => by_cases h : p y <;> simp [clear, h, ih]

/-- Puts `x` into the first empty cell; a full rack stays as it is. -/
def insert (r : Rack α n) (x : α) : Rack α n :=
  ⟨fill x r.cells, by rw [length_fill, r.length_cells]⟩

/-- Takes the first value that satisfies `p` out of the rack. -/
def erase (r : Rack α n) (p : α → Bool) : Rack α n :=
  ⟨clear p r.cells, by rw [length_clear, r.length_cells]⟩

theorem valuesIn_replicate_none (m : Nat) : valuesIn (List.replicate m (none : Option α)) = [] := by
  induction m with
  | zero => rfl
  | succ m ih => simpa [List.replicate_succ, valuesIn] using ih

theorem valuesIn_clear (p : α → Bool) (row : List (Option α)) :
    valuesIn (clear p row) = (valuesIn row).eraseP p := by
  induction row with
  | nil => rfl
  | cons cell row ih =>
    cases cell with
    | none => simpa [clear, valuesIn] using ih
    | some y => by_cases hp : p y <;> simp [clear, valuesIn, hp, ih]

theorem valuesIn_fill_perm (x : α) (row : List (Option α)) (h : row.all Option.isSome = false) :
    (valuesIn (fill x row)).Perm (x :: valuesIn row) := by
  induction row with
  | nil => simp at h
  | cons cell row ih =>
    cases cell with
    | none => exact List.Perm.refl _
    | some y =>
      have hrow : row.all Option.isSome = false := by simpa using h
      exact ((ih hrow).cons y).trans (List.Perm.swap x y _)

@[simp] theorem held_empty : (empty α n).held = [] := valuesIn_replicate_none n

/-- Taking a value out of the rack takes it out of the view. -/
theorem held_erase (r : Rack α n) (p : α → Bool) : (r.erase p).held = r.held.eraseP p :=
  valuesIn_clear p r.cells

theorem clear_fill {x : α} {p : α → Bool} (here : p x = true) {row : List (Option α)}
    (others : ∀ y ∈ valuesIn row, p y = false) (room : row.all Option.isSome = false) :
    clear p (fill x row) = row := by
  induction row with
  | nil => simp at room
  | cons cell row ih =>
    cases cell with
    | none => simp [fill, clear, here]
    | some y =>
      have apart : p y = false := others y (by simp [valuesIn])
      have rest := ih (fun z member => others z (by simp [valuesIn, member])) (by simpa using room)
      simp [fill, clear, apart, rest]

theorem length_valuesIn (row : List (Option α)) :
    (valuesIn row).length = row.countP Option.isSome := by
  induction row with
  | nil => rfl
  | cons cell row ih => cases cell <;> simp [valuesIn, ih]

/-- A value is counted in the view as often as in the cells. -/
theorem count_valuesIn [DecidableEq α] (x : α) (row : List (Option α)) :
    (valuesIn row).count x = row.count (some x) := by
  induction row with
  | nil => rfl
  | cons cell row ih =>
    cases cell with
    | none => simpa [valuesIn] using ih
    | some y => simp [valuesIn, List.count_cons, ih]

theorem eq_replicate_of_valuesIn {row : List (Option α)} (nothing : valuesIn row = []) :
    row = List.replicate row.length none := by
  induction row with
  | nil => rfl
  | cons cell row ih =>
    cases cell with
    | none => exact congrArg (none :: ·) (ih nothing)
    | some x => cases nothing

/-- A rack that holds nothing is the empty one. -/
theorem eq_empty_of_held {r : Rack α n} (nothing : r.held = []) : r = empty α n := by
  obtain ⟨cells, rfl⟩ := r
  simp only [empty, mk.injEq]
  exact eq_replicate_of_valuesIn nothing

/-- A value that is taken out by what only it satisfies leaves its cell as it was. -/
theorem erase_insert {r : Rack α n} {x : α} {p : α → Bool} (here : p x = true)
    (others : ∀ y ∈ r.held, p y = false) (room : r.isFull = false) : (r.insert x).erase p = r := by
  obtain ⟨cells, length⟩ := r
  simp only [insert, erase, clear_fill here others room]

/-- A rack is full when it holds as many values as it has cells. -/
theorem isFull_iff (r : Rack α n) : r.isFull = true ↔ r.held.length = n := by
  have all : r.isFull = true ↔ r.cells.countP Option.isSome = r.cells.length := by
    rw [isFull, List.all_eq_true, List.countP_eq_length]
  rw [all, held, length_valuesIn, r.length_cells]

theorem none_mem_cells {r : Rack α n} (room : r.isFull = false) : none ∈ r.cells := by
  obtain ⟨cell, among, empty⟩ := List.all_eq_false.1 room
  rwa [Option.not_isSome_iff_eq_none.1 empty] at among

/-- A rack holds at most as many values as it has cells. -/
theorem length_held_le (r : Rack α n) : r.held.length ≤ n := by
  rw [held, length_valuesIn]
  exact Nat.le_trans List.countP_le_length (Nat.le_of_eq r.length_cells)

/-- A value put into a rack with an empty cell joins the view. -/
theorem held_insert_perm (r : Rack α n) (x : α) (h : r.isFull = false) :
    (r.insert x).held.Perm (x :: r.held) :=
  valuesIn_fill_perm x r.cells h

end Rack

end PacketRadio
