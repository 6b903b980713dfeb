import PacketRadio.Proofs.Pool.Inventory

/-!
# An arena that is empty is as new

A block that is given back at once leaves the arena as it was. More than that: however blocks were
handed out and in whatever order they went back, once the last one is gone there is a single hole
again, which is the one that the arena was opened with. Holes that touch were melted together each
time a block went back, so the holes are told by the bytes that they cover, and an empty arena covers
all of them.

From there on the arena cannot be told from a new one over the same region. A new one has another
number, which is seen in its blocks and in its refusals and nowhere else, so it is compared with the
old one up to a renumbering of arenas.
-/

namespace PacketRadio

namespace Pool

/-! ## Renumbering -/

/-- The block with the arenas renumbered. -/
def Block.renumbered (f : Nat → Nat) (b : Block) : Block := ⟨f b.arena, b.offset⟩

/-- The refusal with the arenas renumbered. -/
def Refusal.renumbered (f : Nat → Nat) : Refusal → Refusal
  | .unknownBlock (.inRegion arena offset) => .unknownBlock (.inRegion (f arena) offset)
  | why => why

namespace Arena

/-- The call with the arenas renumbered. -/
def Call.renumbered (f : Nat → Nat) : Call → Call
  | .allocate layout type size tag => .allocate layout type size tag
  | .release block tag => .release (block.map (Block.renumbered f)) tag

/-- The answer to a call with the arenas renumbered. -/
def renumberedAnswer (f : Nat → Nat) :
    Except Refusal (Option Block) → Except Refusal (Option Block)
  | .ok block => .ok (block.map (Block.renumbered f))
  | .error why => .error (why.renumbered f)

/-- `b` has the holes and records of `a` in the same region, under the number that `f` gives it. -/
structure Mirrors (f : Nat → Nat) (a b : Arena) : Prop where
  id : b.id = f a.id
  base : b.base = a.base
  size : b.size = a.size
  free : b.free = a.free
  records : b.records = a.records

namespace Mirrors

variable {f : Nat → Nat} {a b : Arena}

/-- Counts are no part of the likeness. -/
theorem withStats (mirrors : Mirrors f a b) (stats others : Stats) :
    Mirrors f { a with stats := stats } { b with stats := others } :=
  ⟨mirrors.id, mirrors.base, mirrors.size, mirrors.free, mirrors.records⟩

theorem withBlock (mirrors : Mirrors f a b) (r : Record) (free : FreeList) :
    Mirrors f (a.withBlock r free) (b.withBlock r free) where
  id := mirrors.id
  base := mirrors.base
  size := mirrors.size
  free := rfl
  records := congrArg (fun records => records.insert r) mirrors.records

theorem withoutBlock (mirrors : Mirrors f a b) (r : Record) :
    Mirrors f (a.withoutBlock r) (b.withoutBlock r) where
  id := mirrors.id
  base := mirrors.base
  size := mirrors.size
  free := congrArg (FreeList.putBack r.piece) mirrors.free
  records := congrArg (fun records => records.erase fun s => s.offset == r.offset) mirrors.records

theorem recordAt? (mirrors : Mirrors f a b) (offset : Nat) :
    b.recordAt? offset = a.recordAt? offset := by
  rw [Arena.recordAt?, Arena.recordAt?, live, live, mirrors.records]

theorem allocate (mirrors : Mirrors f a b) (layout : Layout) (type : layout.OfType) (size : Nat)
    (tag : Tag) :
    (b.serve (.allocate layout type size tag)).answer =
        renumberedAnswer f (a.serve (.allocate layout type size tag)).answer ∧
      Mirrors f (a.serve (.allocate layout type size tag)).state
        (b.serve (.allocate layout type size tag)).state := by
  simp only [serve, Arena.allocate, mirrors.free, mirrors.base, mirrors.records]
  split
  · exact ⟨rfl, mirrors.withStats _ _⟩
  · split
    · exact ⟨rfl, mirrors.withStats _ _⟩
    · split
      · exact ⟨rfl, mirrors.withStats _ _⟩
      · cases a.free.take? a.base layout with
        | none => exact ⟨rfl, mirrors.withStats _ _⟩
        | some there =>
          obtain ⟨offset, free⟩ := there
          refine ⟨?_, mirrors.withBlock _ _⟩
          simp only [Outcome.map_answer, mirrors.id]
          rfl

theorem release (mirrors : Mirrors f a b) (distinct : Function.Injective f) (block : Block)
    (tag : Tag) :
    (b.serve (.release (some (block.renumbered f)) tag)).answer =
        renumberedAnswer f (a.serve (.release (some block) tag)).answer ∧
      Mirrors f (a.serve (.release (some block) tag)).state
        (b.serve (.release (some (block.renumbered f)) tag)).state := by
  have own : (block.renumbered f).arena ≠ b.id ↔ block.arena ≠ a.id := by
    rw [mirrors.id]
    exact distinct.ne_iff
  have place : (block.renumbered f).offset = block.offset := rfl
  simp only [serve, releaseAny, Arena.release, own, place, mirrors.recordAt?]
  split
  · exact ⟨rfl, mirrors.withStats _ _⟩
  · cases a.recordAt? block.offset with
    | none => exact ⟨rfl, mirrors.withStats _ _⟩
    | some r =>
      by_cases other : r.tag ≠ tag
      · simp only [if_pos other]
        exact ⟨rfl, mirrors.withStats _ _⟩
      · simp only [if_neg other]
        exact ⟨rfl, mirrors.withoutBlock r⟩

/-- **Arenas that mirror each other serve every call alike.** -/
theorem serve (mirrors : Mirrors f a b) (distinct : Function.Injective f) (call : Call) :
    (b.serve (call.renumbered f)).answer = renumberedAnswer f (a.serve call).answer ∧
      Mirrors f (a.serve call).state (b.serve (call.renumbered f)).state := by
  cases call with
  | allocate layout type size tag => exact mirrors.allocate layout type size tag
  | release block tag =>
    cases block with
    | none => exact ⟨rfl, mirrors⟩
    | some block => exact mirrors.release distinct block tag

theorem run (mirrors : Mirrors f a b) (distinct : Function.Injective f) (calls : List Call) :
    (b.run (calls.map (Call.renumbered f))).answer =
        (a.run calls).answer.map (renumberedAnswer f) ∧
      Mirrors f (a.run calls).state (b.run (calls.map (Call.renumbered f))).state := by
  induction calls generalizing a b with
  | nil => exact ⟨rfl, mirrors⟩
  | cons call calls ih =>
    obtain ⟨first, after⟩ := mirrors.serve distinct call
    obtain ⟨rest, last⟩ := ih after
    refine ⟨?_, last⟩
    exact congrArg₂ List.cons first rest

end Mirrors

/-! ## Without live blocks -/

theorem Opened.eq_run {a : Arena} (opened : a.Opened) :
    ∃ id base size calls, minRegion ≤ size ∧ a = ((fresh id base size).run calls).state := by
  obtain ⟨id, base, size, start, notices, calls, isOpen, rfl⟩ := opened
  unfold open? at isOpen
  split at isOpen
  · cases isOpen
  · rename_i large
    cases isOpen
    exact ⟨id, base, size, calls, Nat.not_lt.1 large, rfl⟩

theorem Opened.large {a : Arena} (opened : a.Opened) : minRegion ≤ a.size := by
  obtain ⟨id, base, size, calls, large, rfl⟩ := opened.eq_run
  rw [((fresh id base size).run_region calls).2.2]
  exact large

theorem Opened.booked {a : Arena} (opened : a.Opened) : a.Booked := by
  obtain ⟨id, base, size, calls, large, rfl⟩ := opened.eq_run
  exact ((fresh_sound id base large).runs (fresh_booked id base size) calls).2

/-- **All holes have melted together** once no block is live. -/
theorem Opened.free_of_idle {a : Arena} (opened : a.Opened) (idle : a.live = []) :
    a.free = FreeList.ofRegion a.base a.size := by
  have new := fresh_sound a.id a.base opened.large
  refine opened.sound.ordered.ext new.ordered fun n => ?_
  -- With nothing live, the holes alone cover the usable part, as they did at first.
  have tiled := opened.sound.tiled n
  rwa [pieces, idle] at tiled

/-- The arena is as new: it cannot be told from one that is opened over the same region. -/
structure AsNew (a : Arena) : Prop where
  free : a.free = FreeList.ofRegion a.base a.size
  records : a.records = Rack.empty Record maxBlocks
  blocks : a.stats.liveBlocks = 0
  bytes : a.stats.liveBytes = 0
  /-- Whatever is asked from now on is answered as in the new arena, which has a number of its own. -/
  serves : ∀ f, Function.Injective f → ∃ b notices,
    open? (f a.id) a.base a.size = .ok (b, notices) ∧
      ∀ calls : List Call, (b.run (calls.map (Call.renumbered f))).answer =
          (a.run calls).answer.map (renumberedAnswer f) ∧
        Mirrors f (a.run calls).state (b.run (calls.map (Call.renumbered f))).state

theorem Opened.asNew {a : Arena} (opened : a.Opened) (idle : a.live = []) : a.AsNew := by
  have booked := opened.booked
  have free := opened.free_of_idle idle
  have records : a.records = Rack.empty Record maxBlocks := Rack.eq_empty_of_held idle
  refine ⟨free, records, ?_, ?_, fun f distinct => ?_⟩
  · rw [booked.blocks, idle, List.length_nil]
  · rw [booked.bytes, idle, List.map_nil, List.sum_nil]
  · refine ⟨fresh (f a.id) a.base a.size, _, if_neg (Nat.not_lt.2 opened.large), fun calls => ?_⟩
    have mirrors : Mirrors f a (fresh (f a.id) a.base a.size) :=
      ⟨rfl, rfl, rfl, free.symm, records.symm⟩
    exact mirrors.run distinct calls

/-- What a release undoes. -/
structure Renews (a : Arena) : Prop where
  /-- A block that is given back at once leaves everything as it was, but for two counts. -/
  undone : ∀ {layout : Layout} (_ : layout.OfType) {size : Nat} {tag : Tag} {block : Block},
    (a.allocate layout size tag).answer = .ok block →
      ((a.allocate layout size tag).state.release block tag).answer = .ok () ∧
        ((a.allocate layout size tag).state.release block tag).state = a.afterReturn
  /-- With the last block everything is as it was when the arena was opened. -/
  emptied : a.live = [] → a.AsNew

theorem Sound.undone {a : Arena} (sound : a.Sound) {layout : Layout} (type : layout.OfType)
    {size : Nat} {tag : Tag} {block : Block}
    (got : (a.allocate layout size tag).answer = .ok block) :
    ((a.allocate layout size tag).state.release block tag).answer = .ok () ∧
      ((a.allocate layout size tag).state.release block tag).state = a.afterReturn := by
  rcases a.allocate_cases layout size tag with
    ⟨offset, free, -, room, taken, answer, state⟩ | ⟨why, answer, -⟩
  · cases got.symm.trans answer
    -- The record that a release at this place finds is the one that was just made.
    have live := live_withBlock ⟨offset, layout, tag⟩ free room
    have found := (sound.withBlock tag type room taken).recordAt? (live.mem_iff.2 List.mem_cons_self)
    have own : (⟨a.id, offset⟩ : Block).arena = (a.withBlock ⟨offset, layout, tag⟩ free).id := rfl
    rw [state, ← sound.withoutBlock_withBlock tag type room taken]
    exact release_eq own found
  · cases got.symm.trans answer

/-- **Release undoes allocation, and nothing is fragmented for good.** -/
theorem Opened.renews {a : Arena} (opened : a.Opened) : a.Renews where
  undone type _ _ _ got := opened.sound.undone type got
  emptied idle := opened.asNew idle

/-- Three blocks, the second one coarsely aligned, which go back in another order. -/
theorem borrow_renews :
    let returned : Arena :=
      ((fresh 1 4099 1000).run
        [.allocate ⟨100, 1⟩ ⟨0, rfl⟩ 100 Tag.generic, .allocate ⟨128, 64⟩ ⟨6, rfl⟩ 128 Tag.generic,
          .allocate ⟨40, 8⟩ ⟨3, rfl⟩ 40 Tag.generic, .release (some ⟨1, 125⟩) Tag.generic,
          .release (some ⟨1, 5⟩) Tag.generic, .release (some ⟨1, 253⟩) Tag.generic]).state
    returned.Opened ∧ returned.Renews ∧ returned.live = [] := by
  intro returned
  have opened : returned.Opened :=
    ⟨1, 4099, 1000, fresh 1 4099 1000, [.opened 1 1000], _, rfl, rfl⟩
  exact ⟨opened, opened.renews, by decide +kernel⟩

end Arena

end Pool

end PacketRadio
