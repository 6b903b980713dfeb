import PacketRadio.Proofs.Pool.Boxes

/-!
# A block that goes straight back

The holes of a region are known by the bytes that they cover: there is one way only to keep them in
order with gaps between them. So a block that is given back as soon as it was handed out leaves the
arena exactly as it was, hole by hole and record by record, and only two counters tell of it. This
is what an operation relies on that has to be undone after it got its block.
-/

namespace PacketRadio.Pool

namespace FreeList

variable {base : Nat} {h k : Hole} {holes others : FreeList}

/-! ## Holes are known by what they cover -/

/-- No byte is covered in front of the first hole. -/
theorem Ordered.start_le (order : Ordered base (h :: holes)) {n : Nat}
    (covered : 0 < coverage (h :: holes) n) : h.start ≤ n := by
  obtain ⟨j, member, lower, -⟩ := exists_of_coverage covered
  rcases List.mem_cons.1 member with rfl | later
  · exact lower
  · have := order.before j later
    simp only [Hole.stop] at this
    omega

/-- The byte behind a hole is not free. -/
theorem Ordered.stop_uncovered (order : Ordered base (h :: holes)) :
    coverage (h :: holes) h.stop = 0 := by
  refine Nat.eq_zero_of_not_pos fun covered => ?_
  obtain ⟨j, member, lower, upper⟩ := exists_of_coverage covered
  rcases List.mem_cons.1 member with rfl | later
  · omega
  · have := order.before j later
    omega

/-- Of two lists that cover the same bytes, neither starts with a hole that reaches further. -/
theorem Ordered.head_le (left : Ordered base (h :: holes)) (right : Ordered base (k :: others))
    (same : ∀ n, coverage (h :: holes) n = coverage (k :: others) n) :
    k.start ≤ h.start ∧ h.stop ≤ k.stop := by
  have pos := left.head.pos
  have first : k.start ≤ h.start := by
    refine right.start_le ?_
    rw [← same]
    exact coverage_pos (by simp) (Nat.le_refl _) (by simp only [Hole.stop]; omega)
  refine ⟨first, Nat.le_of_not_lt fun further => ?_⟩
  -- Otherwise the byte behind `k` would lie in `h`.
  have back : h.start ≤ k.start := by
    refine left.start_le ?_
    rw [same]
    have positive := right.head.pos
    exact coverage_pos (by simp) (Nat.le_refl _) (by simp only [Hole.stop]; omega)
  have covered : 0 < coverage (h :: holes) k.stop :=
    coverage_pos (by simp) (by simp only [Hole.stop]; omega) further
  rw [same, right.stop_uncovered] at covered
  exact Nat.lt_irrefl 0 covered

/-- **Holes in order are known by the bytes that they cover.** -/
theorem Ordered.ext (left : Ordered base holes) (right : Ordered base others)
    (same : ∀ n, coverage holes n = coverage others n) : holes = others := by
  have empty : ∀ {j : Hole} {rest : FreeList}, Ordered base (j :: rest) →
      coverage (j :: rest) j.start ≠ 0 := fun {j rest} order =>
    Nat.pos_iff_ne_zero.1 <| coverage_pos (by simp) (Nat.le_refl _) (by
      have := order.head.pos
      simp only [Hole.stop]
      omega)
  induction holes generalizing others with
  | nil =>
    cases others with
    | nil => rfl
    | cons k others => exact absurd (same k.start).symm (empty right)
  | cons h holes ih =>
    cases others with
    | nil => exact absurd (same h.start) (empty left)
    | cons k others =>
      obtain ⟨start, stop⟩ := left.head_le right same
      obtain ⟨start', stop'⟩ := right.head_le left fun n => (same n).symm
      have head : h = k := by
        cases h
        cases k
        simp only [Hole.stop, Hole.mk.injEq] at *
        omega
      subst head
      refine congrArg (h :: ·) (ih left.tail right.tail fun n => ?_)
      have := same n
      simp only [coverage_cons] at this
      omega

/-- No byte is covered twice. -/
theorem Ordered.coverage_le_one (order : Ordered base holes) (n : Nat) : coverage holes n ≤ 1 := by
  induction holes with
  | nil => exact Nat.zero_le 1
  | cons h holes ih =>
    have rest := ih order.tail
    rw [coverage_cons]
    split
    · rename_i here
      have inside := (Hole.covers_iff.1 here).2
      have none : coverage holes n = 0 := by
        refine Nat.eq_zero_of_not_pos fun covered => ?_
        obtain ⟨j, member, lower, -⟩ := exists_of_coverage covered
        have := order.before j member
        omega
      omega
    · omega

/-- **What was taken and is put back leaves the holes as they were.** -/
theorem putBack_take? {l : Layout} {place : Nat} {rest : FreeList} (type : l.OfType)
    (order : Ordered base holes) (taken : take? base l holes = some (place, rest)) :
    putBack ⟨place, l.footprint⟩ rest = holes := by
  have spec := take?_spec type order taken
  have keep : Hole.Keepable base ⟨place, l.footprint⟩ :=
    ⟨l.least_le_footprint, l.eight_dvd_footprint, spec.eight_dvd⟩
  have together : ∀ n, coverage (⟨place, l.footprint⟩ :: rest) n = coverage holes n := fun n => by
    rw [coverage_cons, ← spec.covered n, coverage_cons, coverage_nil]
    omega
  have apart : (⟨place, l.footprint⟩ :: rest : List Hole).Pairwise
      fun h k => h.stop ≤ k.start ∨ k.stop ≤ h.start := by
    refine apart_of_coverage (fun n => ?_) fun h member => ?_
    · rw [together]
      exact order.coverage_le_one n
    · rcases List.mem_cons.1 member with rfl | member
      · exact keep.pos
      · exact (spec.ordered.keepable h member).pos
  refine Ordered.ext (spec.ordered.putBack keep fun h member => ?_) order fun n => ?_
  · exact ((List.pairwise_cons.1 apart).1 h member).symm
  · rw [coverage_putBack, Nat.add_comm]
    exact spec.covered n

/-! ## Whether there is a hole -/

/-- A request that needs no coarser alignment than a hole has is served by a hole that it fills, or
that is large enough to leave another one. -/
theorem take?_eq_none {l : Layout} (fine : l.align ∣ 8) (order : Ordered base holes) :
    take? base l holes = none ↔
      ∀ h ∈ holes, h.size ≠ l.footprint ∧ h.size < l.footprint + Hole.least := by
  induction holes with
  | nil => simp [take?]
  | cons h holes ih =>
    have start : h.firstPlace base l.align = h.start :=
      if_pos (Nat.mod_eq_zero_of_dvd (Nat.dvd_trans fine order.head.aligned))
    have here : h.carve? base l = none ↔ h.size ≠ l.footprint ∧ h.size < l.footprint + Hole.least := by
      unfold Hole.carve? Hole.without?
      simp only [start, Hole.stop, Option.map_eq_none_iff]
      grind
    rw [List.forall_mem_cons, ← here, ← ih order.tail, take?]
    cases h.carve? base l <;> simp

end FreeList

/-! ## Arenas -/

namespace Arena

variable {α : Type} [Pooled α]

/-- The arena has a hole that a block of the layout fills, or that leaves another one behind it. -/
def HasHole (a : Arena) (l : Layout) : Prop :=
  ∃ h ∈ a.free, h.size = l.footprint ∨ l.footprint + Hole.least ≤ h.size

/-- The arena can hand out a block of the layout: there is a hole, and a record to be kept of it. -/
def HasRoom (a : Arena) (l : Layout) : Prop := a.HasHole l ∧ a.live.length ≠ maxBlocks

/-- The arena after it has refused a request. -/
def afterRefusal (a : Arena) : Arena :=
  { a with stats.failedAllocations := a.stats.failedAllocations + 1 }

/-- The arena after it has handed out a block and taken it back. -/
def afterReturn (a : Arena) : Arena :=
  { a with stats := { a.stats with
      allocations := a.stats.allocations + 1
      deallocations := a.stats.deallocations + 1 } }

theorem isFull_iff (a : Arena) : a.records.isFull = true ↔ a.live.length = maxBlocks :=
  a.records.isFull_iff

theorem Sound.take?_eq_none {a : Arena} (sound : a.Sound) {l : Layout} (fine : l.align ∣ 8) :
    a.free.take? a.base l = none ↔ ¬ a.HasHole l := by
  rw [FreeList.take?_eq_none fine sound.ordered, HasHole]
  push Not
  exact forall₂_congr fun h _ => by omega

/-- **A block that is taken back at once leaves holes and records as they were.** -/
theorem Sound.withoutBlock_withBlock {a : Arena} (sound : a.Sound) {l : Layout} {offset : Nat}
    {free : FreeList} (tag : Tag) (type : l.OfType) (room : a.records.isFull = false)
    (taken : a.free.take? a.base l = some (offset, free)) :
    (a.withBlock ⟨offset, l, tag⟩ free).withoutBlock ⟨offset, l, tag⟩ = a.afterReturn := by
  have places := (sound.withBlock tag type room taken).offsets_nodup
  have live := live_withBlock ⟨offset, l, tag⟩ free room
  rw [(live.map Record.offset).nodup_iff, List.map_cons, List.nodup_cons] at places
  have records : (a.records.insert ⟨offset, l, tag⟩).erase (fun other => other.offset == offset) =
      a.records := by
    refine Rack.erase_insert (by simp) (fun r member => ?_) room
    rw [beq_eq_false_iff_ne]
    exact fun same => places.1 (List.mem_map.2 ⟨r, member, same⟩)
  have holes := FreeList.putBack_take? type sound.ordered taken
  simp only [Arena.withBlock, Arena.withoutBlock, afterReturn, Record.piece, records, holes,
    Nat.add_sub_cancel]

/-- A request for a block of the right size is served, or refused for want of a record or a hole. -/
theorem allocateFor_of_room {a : Arena} (sound : a.Sound) (fine : (Pooled.layout α).align ∣ 8)
    (some : (Pooled.layout α).size ≠ 0) :
    (∃ offset free, a.HasRoom (Pooled.layout α) ∧ a.records.isFull = false ∧
      a.free.take? a.base (Pooled.layout α) = .some (offset, free) ∧
      (a.allocateFor α).answer = .ok ⟨a.id, offset⟩ ∧
      (a.allocateFor α).state = a.withBlock ⟨offset, Pooled.layout α, Pooled.tag α⟩ free) ∨
    ∃ why, ¬ a.HasRoom (Pooled.layout α) ∧ why.isExhaustion = true ∧
      (a.allocateFor α).answer = .error why ∧ (a.allocateFor α).state = a.afterRefusal := by
  unfold allocateFor allocate
  rw [if_neg (not_not_intro rfl), if_neg some]
  split
  · rename_i full
    exact .inr ⟨_, fun room => room.2 (a.isFull_iff.1 full), rfl, rfl, rfl⟩
  · rename_i room
    have records : a.live.length ≠ maxBlocks := fun full => room (a.isFull_iff.2 full)
    split
    · rename_i none
      exact .inr ⟨_, fun room => (sound.take?_eq_none fine).1 none room.1, rfl, rfl, rfl⟩
    · rename_i offset free taken
      have hole : a.HasHole (Pooled.layout α) := by
        refine Classical.not_not.1 fun nowhere => ?_
        rw [(sound.take?_eq_none fine).2 nowhere] at taken
        cases taken
      exact .inl ⟨offset, free, ⟨hole, records⟩, by simpa using room, taken, rfl, rfl⟩

/-- **A block that its owner gives back at once leaves the arena as it was**, but for two counters. -/
theorem surrenderOf_allocateFor {a : Arena} (sound : a.Sound) (type : (Pooled.layout α).OfType)
    {block : Block} (got : (a.allocateFor α).answer = .ok block) :
    ((a.allocateFor α).state.surrenderOf α block).answer = .ok () ∧
      ((a.allocateFor α).state.surrenderOf α block).state = a.afterReturn := by
  rcases a.allocate_cases (Pooled.layout α) (Pooled.layout α).size (Pooled.tag α) with
    ⟨offset, free, -, room, taken, answer, state⟩ | ⟨why, answer, -⟩
  · cases got.symm.trans answer
    have sound' := sound.withBlock (Pooled.tag α) type room taken
    have hosts : (a.allocateFor α).state.Hosts α ⟨a.id, offset⟩ := by
      constructor
      · rw [allocateFor, state]
        rfl
      · rw [allocateFor, state]
        exact (live_withBlock _ free room).mem_iff.2 List.mem_cons_self
    rw [allocateFor, state] at hosts ⊢
    refine ⟨(surrenderOf_of_hosts sound' hosts).1, ?_⟩
    rw [(surrenderOf_eq sound' hosts).2]
    exact sound.withoutBlock_withBlock (Pooled.tag α) type room taken
  · cases got.symm.trans answer

end Arena

end PacketRadio.Pool
