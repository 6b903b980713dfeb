import PacketRadio.Pool.FreeList

/-!
# What a free list covers

Holes and blocks are pieces of a region. The coverage of a list of pieces counts how many of them
lie on a byte. Taking a block out of a free list moves coverage from the holes to the block, putting
it back moves it to the holes again, and nothing else changes: this is all that is needed to know
that holes and live blocks tile the region, in whatever order they were made.
-/

namespace PacketRadio.Pool

/-! ## Rounding -/

theorem le_roundUp {unit : Nat} (n : Nat) (pos : 0 < unit) : n ≤ roundUp n unit := by
  unfold roundUp
  have split := Nat.div_add_mod (n + (unit - 1)) unit
  have small := Nat.mod_lt (n + (unit - 1)) pos
  rw [Nat.mul_comm] at split
  omega

theorem roundUp_lt {unit : Nat} (n : Nat) (pos : 0 < unit) : roundUp n unit < n + unit := by
  unfold roundUp
  have := Nat.div_mul_le_self (n + (unit - 1)) unit
  omega

theorem dvd_roundUp (n unit : Nat) : unit ∣ roundUp n unit :=
  Nat.dvd_mul_left unit _

theorem roundDown_le (n unit : Nat) : roundDown n unit ≤ n :=
  Nat.div_mul_le_self n unit

theorem dvd_roundDown (n unit : Nat) : unit ∣ roundDown n unit :=
  Nat.dvd_mul_left unit _

namespace Layout

/-- The layout of a type: its alignment is a power of two. -/
def OfType (l : Layout) : Prop := l.align.isPowerOfTwo

theorem OfType.pos {l : Layout} (h : l.OfType) : 0 < l.align := by
  obtain ⟨k, hk⟩ := h
  rw [hk]
  exact Nat.two_pow_pos k

/-- An alignment is a divisor or a multiple of eight. -/
theorem OfType.dvd_eight {l : Layout} (h : l.OfType) : l.align ∣ 8 ∨ 8 ∣ l.align := by
  obtain ⟨k, hk⟩ := h
  rw [hk]
  rcases Nat.le_total k 3 with small | large
  · exact .inl (Nat.pow_dvd_pow 2 small)
  · exact .inr (Nat.pow_dvd_pow 2 large)

theorem least_le_footprint (l : Layout) : Hole.least ≤ l.footprint :=
  Nat.le_trans (Nat.le_max_right l.size 16) (le_roundUp _ (by decide))

theorem eight_dvd_footprint (l : Layout) : 8 ∣ l.footprint := dvd_roundUp _ _

end Layout

/-! ## Coverage -/

namespace Hole

/-- The byte `n` lies in the piece. -/
def covers (h : Hole) (n : Nat) : Bool := decide (h.start ≤ n) && decide (n < h.stop)

theorem covers_iff {h : Hole} {n : Nat} : h.covers n = true ↔ h.start ≤ n ∧ n < h.stop := by
  simp [covers]

/-- A piece that can be kept as a hole of a region at address `base`. -/
structure Keepable (base : Nat) (h : Hole) : Prop where
  least_le : least ≤ h.size
  eight_dvd : 8 ∣ h.size
  aligned : 8 ∣ base + h.start

theorem Keepable.pos {base : Nat} {h : Hole} (keep : h.Keepable base) : 0 < h.size :=
  Nat.lt_of_lt_of_le (by decide) keep.least_le

end Hole

/-- How many of the pieces lie on the byte `n`. -/
def coverage (pieces : List Hole) (n : Nat) : Nat := pieces.countP fun h => h.covers n

@[simp] theorem coverage_nil (n : Nat) : coverage [] n = 0 := rfl

@[simp] theorem coverage_cons (h : Hole) (pieces : List Hole) (n : Nat) :
    coverage (h :: pieces) n = coverage pieces n + if h.covers n then 1 else 0 :=
  List.countP_cons

@[simp] theorem coverage_append (front back : List Hole) (n : Nat) :
    coverage (front ++ back) n = coverage front n + coverage back n :=
  List.countP_append

theorem coverage_perm {front back : List Hole} (same : front.Perm back) (n : Nat) :
    coverage front n = coverage back n :=
  same.countP_eq _

/-- A byte under some coverage lies in a piece. -/
theorem exists_of_coverage {pieces : List Hole} {n : Nat} (covered : 0 < coverage pieces n) :
    ∃ h ∈ pieces, h.start ≤ n ∧ n < h.stop := by
  obtain ⟨h, member, here⟩ := List.countP_pos_iff.1 covered
  exact ⟨h, member, Hole.covers_iff.1 here⟩

theorem coverage_pos {pieces : List Hole} {h : Hole} {n : Nat} (member : h ∈ pieces)
    (lower : h.start ≤ n) (upper : n < h.stop) : 0 < coverage pieces n :=
  List.countP_pos_iff.2 ⟨h, member, Hole.covers_iff.2 ⟨lower, upper⟩⟩

/-- Pieces that no byte is covered twice by are apart. -/
theorem apart_of_coverage {pieces : List Hole} (once : ∀ n, coverage pieces n ≤ 1)
    (pos : ∀ h ∈ pieces, 0 < h.size) :
    pieces.Pairwise fun h k => h.stop ≤ k.start ∨ k.stop ≤ h.start := by
  induction pieces with
  | nil => exact .nil
  | cons h pieces ih =>
    have tail : ∀ n, coverage pieces n ≤ 1 := fun n => by
      have := once n
      simp only [coverage_cons] at this
      omega
    refine List.pairwise_cons.2 ⟨fun k member => ?_, ih tail fun k hk => pos k (by simp [hk])⟩
    have hpos := pos h (by simp)
    have kpos := pos k (by simp [member])
    -- Of two pieces that overlap, the later start is covered by both.
    have both := once (max h.start k.start)
    simp only [coverage_cons] at both
    simp only [Hole.stop] at *
    by_cases apart : h.start + h.size ≤ k.start ∨ k.start + k.size ≤ h.start
    · exact apart
    · have here : h.covers (max h.start k.start) = true :=
        Hole.covers_iff.2 ⟨by omega, by simp only [Hole.stop]; omega⟩
      have there : 0 < coverage pieces (max h.start k.start) :=
        coverage_pos member (by omega) (by simp only [Hole.stop]; omega)
      simp only [here, if_true] at both
      omega

end PacketRadio.Pool
