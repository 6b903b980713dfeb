import PacketRadio.Pool.Arena
import PacketRadio.Proofs.Pool.Coverage

/-!
# Calls to an arena

The two operations of an arena, each with all that it can do, and runs of calls. A block value that
is given back may be anything: the owner's block, an old copy of it, or the block of another arena.
-/

namespace PacketRadio.Pool

namespace Arena

/-! ## What an operation can do -/

/-- A block is handed out from a hole, or the request is refused and only counted. -/
theorem allocate_cases (a : Arena) (layout : Layout) (size : Nat) (tag : Tag) :
    (∃ offset free, size = layout.size ∧ a.records.isFull = false ∧
      a.free.take? a.base layout = some (offset, free) ∧
      (a.allocate layout size tag).answer = .ok ⟨a.id, offset⟩ ∧
      (a.allocate layout size tag).state = a.withBlock ⟨offset, layout, tag⟩ free) ∨
    ∃ why, (a.allocate layout size tag).answer = .error why ∧
      (a.allocate layout size tag).state =
        { a with stats.failedAllocations := a.stats.failedAllocations + 1 } := by
  unfold allocate
  split
  · exact .inr ⟨_, rfl, rfl⟩
  · rename_i same
    split
    · exact .inr ⟨_, rfl, rfl⟩
    · split
      · exact .inr ⟨_, rfl, rfl⟩
      · rename_i room
        split
        · exact .inr ⟨_, rfl, rfl⟩
        · rename_i offset free taken
          exact .inl ⟨offset, free, Decidable.not_not.1 same, by simpa using room, taken, rfl, rfl⟩

/-- The block of a record is taken back, or the release is refused and only counted. -/
theorem release_cases (a : Arena) (block : Block) (tag : Tag) :
    (∃ r, block.arena = a.id ∧ a.recordAt? block.offset = some r ∧ r.tag = tag ∧
      (a.release block tag).answer = .ok () ∧ (a.release block tag).state = a.withoutBlock r) ∨
    ∃ why, (a.release block tag).answer = .error why ∧
      (a.release block tag).state =
        { a with stats.rejectedFrees := a.stats.rejectedFrees + 1 } := by
  unfold release
  split
  · exact .inr ⟨_, rfl, rfl⟩
  · rename_i own
    split
    · exact .inr ⟨_, rfl, rfl⟩
    · rename_i r found
      split
      · exact .inr ⟨_, rfl, rfl⟩
      · rename_i same
        exact .inl ⟨r, Decidable.not_not.1 own, found, Decidable.not_not.1 same, rfl, rfl⟩

/-- A live block that is given back under its tag is taken back. -/
theorem release_eq {a : Arena} {block : Block} {r : Record} (own : block.arena = a.id)
    (found : a.recordAt? block.offset = some r) :
    (a.release block r.tag).answer = .ok () ∧ (a.release block r.tag).state = a.withoutBlock r := by
  unfold release
  rw [if_neg (not_not_intro own), found]
  simp

/-! ## Live records -/

theorem recordAt?_eq_some {a : Arena} {offset : Nat} {r : Record}
    (found : a.recordAt? offset = some r) : r ∈ a.live ∧ r.offset = offset :=
  ⟨List.mem_of_find?_eq_some found, by simpa using List.find?_some found⟩

/-- A block handed out joins the live ones. -/
theorem live_withBlock {a : Arena} (r : Record) (free : FreeList) (room : a.records.isFull = false) :
    (a.withBlock r free).live.Perm (r :: a.live) :=
  a.records.held_insert_perm r room

/-- The record that is found at an offset is the one that a release there drops. -/
theorem live_withoutBlock {a : Arena} {r : Record} (found : a.recordAt? r.offset = some r) :
    a.live.Perm (r :: (a.withoutBlock r).live) := by
  have dropped : (a.withoutBlock r).live = a.live.eraseP fun other => other.offset == r.offset :=
    a.records.held_erase _
  rw [dropped]
  obtain ⟨-, front, back, split, other⟩ := List.find?_eq_some_iff_append.1 found
  have split' : a.live = front ++ r :: back := split
  rw [split', List.eraseP_append_right _ (by simpa using other), List.eraseP_cons_of_pos (by simp)]
  exact List.perm_middle

/-! ## Runs of calls -/

/-- A call to an arena. The layout asked for is that of some type. -/
inductive Call
  | allocate (layout : Layout) (type : layout.OfType) (size : Nat) (tag : Tag)
  | release (block : Option Block) (tag : Tag)

/-- Serves a call: what is handed out, if anything is. -/
def serve (a : Arena) : Call → Outcome Notice Arena (Except Refusal (Option Block))
  | .allocate layout _ size tag => (a.allocate layout size tag).map (Except.map some)
  | .release block tag => (a.releaseAny block tag).map (Except.map fun _ => none)

/-- Serves calls one after the other. -/
def run : Arena → List Call → Outcome Notice Arena (List (Except Refusal (Option Block)))
  | a, [] => .quiet [] a
  | a, call :: calls => (a.serve call).andThen fun answer b => (run b calls).map (answer :: ·)

theorem run_concat (a : Arena) (calls : List Call) (call : Call) :
    (a.run (calls ++ [call])).state = ((a.run calls).state.serve call).state := by
  induction calls generalizing a with
  | nil => rfl
  | cons first calls ih => exact ih _

/-- What every call keeps, every run of calls keeps. -/
theorem run_keeps {P : Arena → Prop} (step : ∀ a call, P a → P (a.serve call).state) {a : Arena}
    (start : P a) (calls : List Call) : P (a.run calls).state := by
  induction calls generalizing a with
  | nil => exact start
  | cons call calls ih => exact ih (step a call start)

/-- What a call can do to an arena. -/
inductive Change (a : Arena) : Arena → Prop
  /-- Nothing but a counter. -/
  | counted (stats : Stats) : Change a { a with stats := stats }
  | handedOut {layout : Layout} {offset : Nat} {free : FreeList} (tag : Tag) (type : layout.OfType)
      (room : a.records.isFull = false) (taken : a.free.take? a.base layout = some (offset, free)) :
      Change a (a.withBlock ⟨offset, layout, tag⟩ free)
  | takenBack {r : Record} (found : a.recordAt? r.offset = some r) : Change a (a.withoutBlock r)

theorem change_allocate (a : Arena) {layout : Layout} (type : layout.OfType) (size : Nat)
    (tag : Tag) : Change a (a.allocate layout size tag).state := by
  rcases a.allocate_cases layout size tag with ⟨_, _, -, room, taken, -, same⟩ | ⟨_, -, same⟩
  · rw [same]
    exact .handedOut tag type room taken
  · rw [same]
    exact .counted _

theorem change_release (a : Arena) (block : Block) (tag : Tag) :
    Change a (a.release block tag).state := by
  rcases a.release_cases block tag with ⟨r, -, found, -, -, same⟩ | ⟨_, -, same⟩
  · rw [same]
    have place := (recordAt?_eq_some found).2
    exact .takenBack (place ▸ found)
  · rw [same]
    exact .counted _

theorem change_serve (a : Arena) (call : Call) : Change a (a.serve call).state := by
  cases call with
  | allocate layout type size tag => exact a.change_allocate type size tag
  | release block tag =>
    cases block with
    | none => exact .counted a.stats
    | some block => exact a.change_release block tag

/-! ## Counting -/

/-- The number of live blocks is right. -/
def Counted (a : Arena) : Prop := a.stats.liveBlocks = a.live.length

theorem Counted.allocate {a : Arena} (counted : a.Counted) (layout : Layout) (size : Nat)
    (tag : Tag) : (a.allocate layout size tag).state.Counted := by
  rcases a.allocate_cases layout size tag with ⟨offset, free, -, room, -, -, same⟩ | ⟨_, -, same⟩
  · have live := (live_withBlock ⟨offset, layout, tag⟩ free room).length_eq
    rw [same, Counted, live, List.length_cons, ← counted]
    rfl
  · rw [same]
    exact counted

theorem Counted.release {a : Arena} (counted : a.Counted) (block : Block) (tag : Tag) :
    (a.release block tag).state.Counted := by
  rcases a.release_cases block tag with ⟨r, -, found, -, -, same⟩ | ⟨_, -, same⟩
  · have place := (recordAt?_eq_some found).2
    have live := (live_withoutBlock (place ▸ found)).length_eq
    rw [List.length_cons] at live
    change a.stats.liveBlocks = _ at counted
    rw [same, Counted]
    change a.stats.liveBlocks - 1 = _
    omega
  · rw [same]
    exact counted

theorem Counted.serve {a : Arena} (counted : a.Counted) (call : Call) :
    (a.serve call).state.Counted := by
  cases call with
  | allocate layout type size tag => exact counted.allocate layout size tag
  | release block tag =>
    cases block with
    | none => exact counted
    | some block => exact counted.release block tag

/-- No call moves the region. -/
theorem Change.region {a b : Arena} (h : Change a b) :
    b.id = a.id ∧ b.base = a.base ∧ b.size = a.size := by
  cases h <;> exact ⟨rfl, rfl, rfl⟩

end Arena

end PacketRadio.Pool
