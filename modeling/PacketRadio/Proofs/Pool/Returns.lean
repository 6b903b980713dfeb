import PacketRadio.Proofs.Pool.Restoration

/-!
# Blocks that go back in any order

Two blocks that are given back leave the same arena, whichever goes first: the same holes, since
these are known by the bytes that they cover, the same records in the same places, and the same
counters. So whoever gives a block back need not know what others have given back before.
-/

namespace PacketRadio

/-- Two values that no predicate has in common are taken out of a row in any order. -/
theorem Rack.clear_comm {α : Type} {p q : α → Bool} (apart : ∀ y, p y = true → q y = false)
    (row : List (Option α)) : clear p (clear q row) = clear q (clear p row) := by
  induction row with
  | nil => rfl
  | cons cell row ih =>
    cases cell with
    | none => simp only [clear, ih]
    | some y =>
      by_cases first : p y = true
      · simp only [clear, first, apart y first, if_true, Bool.false_eq_true, if_false]
      · by_cases second : q y = true
        · simp only [clear, first, second, if_true, Bool.false_eq_true, if_false]
        · simp only [clear, first, second, Bool.false_eq_true, if_false, ih]

namespace Pool

variable {α : Type} [Pooled α]

namespace Arena

/-- A live record is still live when another one has been dropped. -/
theorem Sound.recordAt?_withoutBlock {a : Arena} (sound : a.Sound) {r s : Record}
    (first : r ∈ a.live) (second : s ∈ a.live) (apart : r.offset ≠ s.offset) :
    (a.withoutBlock r).recordAt? s.offset = some s := by
  have found := sound.recordAt? first
  have kept := (live_withoutBlock found).mem_iff.1 second
  rcases List.mem_cons.1 kept with same | there
  · exact absurd (congrArg Record.offset same).symm apart
  · exact (sound.withoutBlock found).recordAt? there

/-- **Live blocks go back in any order.** -/
theorem Sound.withoutBlock_comm {a : Arena} (sound : a.Sound) {r s : Record} (first : r ∈ a.live)
    (second : s ∈ a.live) (apart : r.offset ≠ s.offset) :
    (a.withoutBlock r).withoutBlock s = (a.withoutBlock s).withoutBlock r := by
  have left := (sound.withoutBlock (sound.recordAt? first)).withoutBlock
    (sound.recordAt?_withoutBlock first second apart)
  have right := (sound.withoutBlock (sound.recordAt? second)).withoutBlock
    (sound.recordAt?_withoutBlock second first apart.symm)
  have holes : (a.free.putBack r.piece).putBack s.piece =
      (a.free.putBack s.piece).putBack r.piece := by
    refine FreeList.Ordered.ext left.ordered right.ordered fun n => ?_
    simp only [FreeList.coverage_putBack]
    omega
  have records : (a.records.erase fun other => other.offset == r.offset).erase
        (fun other => other.offset == s.offset) =
      (a.records.erase fun other => other.offset == s.offset).erase
        fun other => other.offset == r.offset := by
    have cells := Rack.clear_comm (p := fun other : Record => other.offset == s.offset)
      (q := fun other : Record => other.offset == r.offset) (fun other here => by
        rw [beq_eq_false_iff_ne, beq_iff_eq.1 here]
        exact apart.symm) a.records.cells
    simp only [Rack.erase, cells]
  simp only [Arena.withoutBlock, holes, records, Nat.sub_right_comm]

/-- **Owners give their blocks back in any order**, and leave the same arena. -/
theorem surrenderOf_comm {a : Arena} {b c : Block} (sound : a.Sound) (first : a.Hosts α b)
    (second : a.Hosts α c) (apart : b.offset ≠ c.offset) :
    ((a.surrenderOf α b).state.surrenderOf α c).state =
      ((a.surrenderOf α c).state.surrenderOf α b).state := by
  have state : ∀ b c : Block, a.Hosts α b → a.Hosts α c → b.offset ≠ c.offset →
      ((a.surrenderOf α b).state.surrenderOf α c).state =
        (a.withoutBlock (b.recordFor α)).withoutBlock (c.recordFor α) := by
    intro b c first second apart
    have found := sound.recordAt? first.live
    have there := sound.recordAt?_withoutBlock first.live second.live apart
    rw [(surrenderOf_eq sound first).2]
    exact (surrenderOf_eq (sound.withoutBlock found)
      ⟨second.own, (recordAt?_eq_some there).1⟩).2
  rw [state b c first second apart, state c b second first apart.symm]
  exact sound.withoutBlock_comm first.live second.live apart

end Arena

end Pool

end PacketRadio
