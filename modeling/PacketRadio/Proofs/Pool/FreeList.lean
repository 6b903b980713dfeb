import PacketRadio.Proofs.Pool.Coverage

/-!
# Taking from a free list and putting back

The holes of a region stay in ascending order with a live byte between any two of them, and each of
them can be kept. Both operations on a free list keep this, and account for every byte.
-/

namespace PacketRadio.Pool

namespace FreeList

/-- Holes in ascending order, no two of them adjacent, each of them one that can be kept. -/
structure Ordered (base : Nat) (holes : FreeList) : Prop where
  keepable : ∀ h ∈ holes, h.Keepable base
  apart : holes.Pairwise fun h k => h.stop < k.start

theorem Ordered.cons {base : Nat} {h : Hole} {holes : FreeList} (keep : h.Keepable base)
    (before : ∀ k ∈ holes, h.stop < k.start) (rest : Ordered base holes) :
    Ordered base (h :: holes) where
  keepable k member := by
    rcases List.mem_cons.1 member with rfl | member
    · exact keep
    · exact rest.keepable k member
  apart := List.pairwise_cons.2 ⟨before, rest.apart⟩

theorem Ordered.head {base : Nat} {h : Hole} {holes : FreeList} (order : Ordered base (h :: holes)) :
    h.Keepable base :=
  order.keepable h (by simp)

theorem Ordered.before {base : Nat} {h : Hole} {holes : FreeList}
    (order : Ordered base (h :: holes)) : ∀ k ∈ holes, h.stop < k.start :=
  (List.pairwise_cons.1 order.apart).1

theorem Ordered.tail {base : Nat} {h : Hole} {holes : FreeList} (order : Ordered base (h :: holes)) :
    Ordered base holes :=
  ⟨fun k member => order.keepable k (by simp [member]), (List.pairwise_cons.1 order.apart).2⟩

theorem ordered_nil (base : Nat) : Ordered base [] := ⟨by simp, .nil⟩

theorem ordered_singleton {base : Nat} {h : Hole} (keep : h.Keepable base) : Ordered base [h] :=
  .cons keep (by simp) (ordered_nil base)

/-- Holes whose bytes all lie in pieces that start behind `m` start behind it too. -/
theorem starts_of_coverage {base m : Nat} {holes : FreeList} {pieces : List Hole}
    (order : Ordered base holes) (within : ∀ n, coverage holes n ≤ coverage pieces n)
    (behind : ∀ h ∈ pieces, m < h.start) : ∀ k ∈ holes, m < k.start := by
  intro k member
  have pos := (order.keepable k member).pos
  have covered := coverage_pos member (Nat.le_refl k.start) (by simp only [Hole.stop]; omega)
  obtain ⟨h, found, lower, -⟩ := exists_of_coverage (Nat.lt_of_lt_of_le covered (within k.start))
  exact Nat.lt_of_lt_of_le (behind h found) lower

end FreeList

/-! ## Taking -/

namespace Hole

/-- The first place in a hole is aligned, and lies at its start or leaves room for a hole. -/
theorem firstPlace_spec {base : Nat} {l : Layout} {h : Hole} (type : l.OfType)
    (aligned : 8 ∣ base + h.start) :
    l.align ∣ base + h.firstPlace base l.align ∧ 8 ∣ base + h.firstPlace base l.align ∧
      (h.firstPlace base l.align = h.start ∨ h.start + least ≤ h.firstPlace base l.align) := by
  unfold firstPlace
  by_cases fits : (base + h.start) % l.align = 0
  · rw [if_pos fits]
    exact ⟨Nat.dvd_of_mod_eq_zero fits, aligned, .inl rfl⟩
  · rw [if_neg fits]
    have far := le_roundUp (base + h.start + least) type.pos
    have place : base + (roundUp (base + h.start + least) l.align - base) =
        roundUp (base + h.start + least) l.align := by omega
    have onGrid := dvd_roundUp (base + h.start + least) l.align
    rw [place]
    refine ⟨onGrid, ?_, .inr (by omega)⟩
    -- A hole starts at a multiple of eight, so only a coarser alignment moves the place.
    rcases type.dvd_eight with fine | coarse
    · exact absurd (Nat.mod_eq_zero_of_dvd (Nat.dvd_trans fine aligned)) fits
    · exact Nat.dvd_trans coarse onGrid

/-- What is left of a hole without `[place, stop)`: holes in order inside it, which together with
the piece taken cover what the hole covered. -/
structure Left (base : Nat) (h : Hole) (place size : Nat) (rest : List Hole) : Prop where
  ordered : FreeList.Ordered base rest
  within : ∀ k ∈ rest, k.stop ≤ h.stop
  covered : ∀ n, coverage rest n + coverage [⟨place, size⟩] n = coverage [h] n

/-- What is left of a hole in front of `place`. -/
def front (h : Hole) (place : Nat) : List Hole :=
  if place = h.start then [] else [⟨h.start, place - h.start⟩]

theorem front_stop {h k : Hole} {place : Nat} (room : place = h.start ∨ h.start + least ≤ place)
    (member : k ∈ h.front place) : k.stop = place := by
  unfold front at member
  split at member
  · cases member
  · cases List.mem_singleton.1 member
    simp only [stop]
    omega

/-- What is in front of a place and what is behind make up the hole. -/
theorem coverage_front {h : Hole} {place : Nat} (room : place = h.start ∨ h.start + least ≤ place)
    (inside : place ≤ h.stop) (n : Nat) :
    coverage (h.front place) n + coverage [⟨place, h.stop - place⟩] n = coverage [h] n := by
  simp only [stop] at inside ⊢
  simp only [front, coverage, covers, stop]
  split <;> grind

section Cut

variable {base place size : Nat} {h : Hole} (keep : h.Keepable base) (aligned : 8 ∣ base + place)
  (room : place = h.start ∨ h.start + least ≤ place)

include keep aligned room

theorem front_ordered : FreeList.Ordered base (h.front place) := by
  unfold front
  split
  · exact FreeList.ordered_nil base
  · have start := keep.aligned
    refine FreeList.ordered_singleton ⟨?_, ?_, start⟩
    · simp only
      omega
    · simp only
      omega

/-- A piece that reaches the end of the hole leaves what is in front of it. -/
theorem left_to_end (ends : place + size = h.stop) : Left base h place size (h.front place) where
  ordered := front_ordered keep aligned room
  within k member := by
    rw [front_stop room member]
    omega
  covered n := by
    rw [← coverage_front room (by omega) n, ← ends, Nat.add_sub_cancel_left]

/-- A piece in the middle leaves a hole behind it as well. -/
theorem left_between (pos : 0 < size) (eight : 8 ∣ size) (fits : place + size ≤ h.stop)
    (enough : least ≤ h.stop - (place + size)) :
    Left base h place size (h.front place ++ [⟨place + size, h.stop - (place + size)⟩]) := by
  have back : Keepable base ⟨place + size, h.stop - (place + size)⟩ := by
    have start := keep.aligned
    have whole := keep.eight_dvd
    simp only [stop] at fits enough ⊢
    refine ⟨enough, ?_, ?_⟩
    · simp only
      omega
    · simp only
      omega
  constructor
  · unfold front
    split
    · exact FreeList.ordered_singleton back
    · rename_i gap
      have ordered := front_ordered keep aligned room
      rw [front, if_neg gap] at ordered
      refine .cons ordered.head ?_ (FreeList.ordered_singleton back)
      intro k member
      cases List.mem_singleton.1 member
      simp only [stop]
      omega
  · intro k member
    rcases List.mem_append.1 member with before | behind
    · rw [front_stop room before]
      omega
    · cases List.mem_singleton.1 behind
      simp only [stop] at fits ⊢
      omega
  · intro n
    rw [← coverage_front room (by omega) n, coverage_append]
    simp only [coverage, covers, stop] at fits ⊢
    grind

theorem left_of_without? (pos : 0 < size) (eight : 8 ∣ size) {rest : List Hole}
    (taken : h.without? place (place + size) = some rest) : Left base h place size rest := by
  simp only [without?] at taken
  split at taken
  · cases taken
  · rename_i fits
    split at taken
    · rename_i ends
      cases taken
      exact left_to_end keep aligned room ends
    · split at taken
      · cases taken
      · rename_i enough
        cases taken
        exact left_between keep aligned room pos eight (Nat.not_lt.1 fits) (Nat.not_lt.1 enough)

end Cut

end Hole

namespace FreeList

/-- A served request: its place is aligned, the holes stay in order, and together with the block
they cover what they covered before. -/
structure Taken (base : Nat) (l : Layout) (holes : FreeList) (place : Nat) (rest : FreeList) :
    Prop where
  aligned : l.align ∣ base + place
  eight_dvd : 8 ∣ base + place
  ordered : Ordered base rest
  covered : ∀ n, coverage rest n + coverage [⟨place, l.footprint⟩] n = coverage holes n

/-- Taking from a hole in front of others. -/
theorem taken_here {base place : Nat} {l : Layout} {h : Hole} {holes : FreeList} {rest : List Hole}
    (type : l.OfType) (order : Ordered base (h :: holes))
    (carved : h.carve? base l = some (place, rest)) : Taken base l (h :: holes) place (rest ++ holes) := by
  unfold Hole.carve? at carved
  obtain ⟨left, fit, same⟩ := Option.map_eq_some_iff.1 carved
  cases same
  obtain ⟨aligned, eight, room⟩ := Hole.firstPlace_spec type order.head.aligned
  have pos : 0 < l.footprint := Nat.lt_of_lt_of_le (by decide) l.least_le_footprint
  have spec := Hole.left_of_without? order.head eight room pos l.eight_dvd_footprint fit
  refine ⟨aligned, eight, ⟨fun k member => ?_, ?_⟩, fun n => ?_⟩
  · rcases List.mem_append.1 member with member | member
    · exact spec.ordered.keepable k member
    · exact order.tail.keepable k member
  · refine List.pairwise_append.2 ⟨spec.ordered.apart, order.tail.apart, fun k hk j hj => ?_⟩
    exact Nat.lt_of_le_of_lt (spec.within k hk) (order.before j hj)
  · have here := spec.covered n
    simp only [coverage_append, coverage_cons, coverage_nil] at here ⊢
    omega

/-- **Taking keeps the tiling.** -/
theorem take?_spec {base place : Nat} {l : Layout} {holes rest : FreeList} (type : l.OfType)
    (order : Ordered base holes) (taken : take? base l holes = some (place, rest)) :
    Taken base l holes place rest := by
  induction holes generalizing place rest with
  | nil => cases taken
  | cons h holes ih =>
    simp only [take?] at taken
    split at taken
    · rename_i here left carved
      cases taken
      exact taken_here type order carved
    · obtain ⟨⟨there, left⟩, found, same⟩ := Option.map_eq_some_iff.1 taken
      obtain ⟨rfl, rfl⟩ := Prod.mk.inj same
      have spec := ih order.tail found
      have covered := spec.covered
      have behind : ∀ k ∈ left, h.stop < k.start :=
        starts_of_coverage spec.ordered (fun n => by have := covered n; omega) order.before
      refine ⟨spec.aligned, spec.eight_dvd, .cons order.head behind spec.ordered, fun n => ?_⟩
      have := covered n
      simp only [coverage_cons] at this ⊢
      omega

/-! ## Putting back -/

/-- Two pieces that touch are one piece. -/
theorem coverage_joined {a b : Hole} (touch : a.stop = b.start) (n : Nat) :
    coverage [⟨a.start, a.size + b.size⟩] n = coverage [a] n + coverage [b] n := by
  simp only [Hole.stop] at touch
  simp only [coverage_cons, coverage_nil, Hole.covers, Hole.stop]
  grind

theorem keepable_joined {base : Nat} {a b : Hole} (ka : a.Keepable base) (kb : b.Keepable base) :
    Hole.Keepable base ⟨a.start, a.size + b.size⟩ :=
  ⟨Nat.le_trans ka.least_le (Nat.le_add_right _ _), Nat.dvd_add ka.eight_dvd kb.eight_dvd, ka.aligned⟩

/-- A piece put back joins the coverage, whatever it melts together with. -/
theorem coverage_putBack (piece : Hole) (holes : FreeList) (n : Nat) :
    coverage (putBack piece holes) n = coverage [piece] n + coverage holes n := by
  induction holes generalizing piece with
  | nil => simp [putBack]
  | cons h holes ih =>
    simp only [putBack]
    split
    · simp only [coverage_cons, coverage_nil]
      omega
    · split
      · rename_i touch
        have := coverage_joined touch n
        simp only [coverage_cons, coverage_nil] at this ⊢
        omega
      · split
        · rename_i touch
          have := coverage_joined touch n
          rw [ih]
          simp only [coverage_cons, coverage_nil] at this ⊢
          omega
        · simp only [coverage_cons, ih, coverage_nil]
          omega

/-- **Putting back keeps the order**, if the piece can be kept and overlaps no hole. -/
theorem Ordered.putBack {base : Nat} {piece : Hole} {holes : FreeList} (order : Ordered base holes)
    (keep : piece.Keepable base)
    (apart : ∀ h ∈ holes, h.stop ≤ piece.start ∨ piece.stop ≤ h.start) :
    Ordered base (FreeList.putBack piece holes) := by
  induction holes generalizing piece with
  | nil => exact ordered_singleton keep
  | cons h holes ih =>
    have here := apart h (by simp)
    have there : ∀ k ∈ holes, k.stop ≤ piece.start ∨ piece.stop ≤ k.start :=
      fun k member => apart k (by simp [member])
    have hpos := order.head.pos
    simp only [FreeList.putBack]
    split
    · rename_i gap
      refine .cons keep (fun k member => ?_) order
      rcases List.mem_cons.1 member with rfl | member
      · exact gap
      · have := order.before k member
        simp only [Hole.stop] at *
        omega
    · split
      · rename_i touch
        refine .cons (keepable_joined keep order.head) (fun k member => ?_) order.tail
        have := order.before k member
        simp only [Hole.stop] at *
        omega
      · split
        · -- The hole grows by the piece, and what has grown goes on to the holes behind it.
          rename_i touch
          refine ih order.tail (keepable_joined order.head keep) fun k member => ?_
          have ahead := order.before k member
          have := there k member
          simp only [Hole.stop] at *
          omega
        · refine .cons order.head ?_ (ih order.tail keep there)
          have behind : ∀ k ∈ piece :: holes, h.stop < k.start := by
            intro k member
            rcases List.mem_cons.1 member with rfl | member
            · simp only [Hole.stop] at *
              omega
            · exact order.before k member
          refine starts_of_coverage (ih order.tail keep there) (fun n => ?_) behind
          rw [coverage_putBack]
          simp only [coverage_cons, coverage_nil]
          omega

end FreeList

end PacketRadio.Pool
