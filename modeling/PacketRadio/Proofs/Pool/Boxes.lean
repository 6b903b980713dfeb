import Mathlib.Data.List.Nodup
import PacketRadio.Pool.Box
import PacketRadio.Proofs.Observation
import PacketRadio.Proofs.Pool.Tiling

/-!
# Blocks for values

A block is obtained for a value before the value is made, and its owner gives it back. The arena
then holds one live record more, or the record of the value less; nothing else that is live moves.
-/

namespace PacketRadio.Pool

variable {σ ε ι α : Type} [Pooled α]

/-- The record that an arena keeps of the block of a value of `α`. -/
def Block.recordFor (α : Type) [Pooled α] (block : Block) : Record :=
  ⟨block.offset, Pooled.layout α, Pooled.tag α⟩

namespace Arena

/-- A value of `α` has its block in the arena: the block is the arena's own, and live as it should
be. -/
structure Hosts (α : Type) [Pooled α] (a : Arena) (block : Block) : Prop where
  own : block.arena = a.id
  live : block.recordFor α ∈ a.live

/-- In a sound arena every live record is found at its place. -/
theorem Sound.recordAt? {a : Arena} (sound : a.Sound) {r : Record} (member : r ∈ a.live) :
    a.recordAt? r.offset = some r := by
  cases found : a.recordAt? r.offset with
  | none =>
    have := List.find?_eq_none.1 found r member
    simp at this
  | some s =>
    obtain ⟨there, place⟩ := recordAt?_eq_some found
    have distinct := List.inj_on_of_nodup_map sound.offsets_nodup
    rw [distinct there member place]

/-- A block that is handed out is new and becomes live; otherwise the arena keeps its live blocks. -/
theorem allocate_grants (a : Arena) {layout : Layout} (type : layout.OfType) (size : Nat) (tag : Tag)
    (sound : a.Sound) :
    (a.allocate layout size tag).state.Sound ∧ (a.allocate layout size tag).state.id = a.id ∧
      ((∃ block, (a.allocate layout size tag).answer = .ok block ∧ block.arena = a.id ∧
          (a.allocate layout size tag).state.live.Perm (⟨block.offset, layout, tag⟩ :: a.live)) ∨
        ∃ why, (a.allocate layout size tag).answer = .error why ∧
          (a.allocate layout size tag).state.live = a.live) := by
  have change := a.change_allocate type size tag
  refine ⟨change.sound sound, change.region.1, ?_⟩
  rcases a.allocate_cases layout size tag with
    ⟨offset, free, -, room, -, answer, state⟩ | ⟨why, answer, state⟩
  · refine .inl ⟨⟨a.id, offset⟩, answer, rfl, ?_⟩
    rw [state]
    exact live_withBlock _ free room
  · refine .inr ⟨why, answer, ?_⟩
    rw [state]
    rfl

/-- Of the live blocks, a release drops the one that is given back, or none. -/
theorem release_spends (a : Arena) (block : Block) (tag : Tag) (sound : a.Sound) :
    (a.release block tag).state.Sound ∧ (a.release block tag).state.id = a.id ∧
      ((∃ r, (a.release block tag).answer = .ok () ∧ block.arena = a.id ∧
          r.offset = block.offset ∧ a.live.Perm (r :: (a.release block tag).state.live)) ∨
        ∃ why, (a.release block tag).answer = .error why ∧
          (a.release block tag).state.live = a.live) := by
  have change := a.change_serve (.release (some block) tag)
  refine ⟨change.sound sound, change.region.1, ?_⟩
  rcases a.release_cases block tag with ⟨r, own, found, -, answer, state⟩ | ⟨why, answer, state⟩
  · have place := (recordAt?_eq_some found).2
    refine .inl ⟨r, answer, own, place, ?_⟩
    rw [state]
    exact live_withoutBlock (place ▸ found)
  · refine .inr ⟨why, answer, ?_⟩
    rw [state]
    rfl

/-- A block for a value is new and becomes live, or the arena keeps its live blocks. -/
theorem allocateFor_cases (a : Arena) (type : (Pooled.layout α).OfType) (sound : a.Sound) :
    (a.allocateFor α).state.Sound ∧ (a.allocateFor α).state.id = a.id ∧
      ((∃ block, (a.allocateFor α).answer = .ok block ∧ block.arena = a.id ∧
          (a.allocateFor α).state.live.Perm (block.recordFor α :: a.live)) ∨
        ∃ why, (a.allocateFor α).answer = .error why ∧
          (a.allocateFor α).state.live = a.live) :=
  a.allocate_grants type (Pooled.layout α).size (Pooled.tag α) sound

theorem Opened.allocateFor {a : Arena} (opened : a.Opened) (type : (Pooled.layout α).OfType) :
    (a.allocateFor α).state.Opened :=
  opened.serve (.allocate (Pooled.layout α) type (Pooled.layout α).size (Pooled.tag α))

theorem Opened.surrenderOf {a : Arena} (opened : a.Opened) (block : Block) :
    (a.surrenderOf α block).state.Opened := by
  have released := opened.serve (.release (some block) (Pooled.tag α))
  simp only [Arena.surrenderOf, surrender]
  split <;> exact released

/-- Who gives a block back has its record dropped. -/
theorem surrenderOf_eq {a : Arena} {block : Block} (sound : a.Sound) (hosts : a.Hosts α block) :
    (a.surrenderOf α block).answer = .ok () ∧
      (a.surrenderOf α block).state = a.withoutBlock (block.recordFor α) := by
  obtain ⟨answer, state⟩ := release_eq hosts.own (sound.recordAt? hosts.live)
  have result : a.surrenderOf α block =
      (a.release block (block.recordFor α).tag).map fun _ => .ok () := by
    simp only [surrenderOf, surrender]
    rw [show (a.release block (Pooled.tag α)).answer = .ok () from answer]
    rfl
  rw [result]
  exact ⟨rfl, state⟩

/-- **The owner of a block can always give it back.** -/
theorem surrenderOf_of_hosts {a : Arena} {block : Block} (sound : a.Sound)
    (hosts : a.Hosts α block) :
    (a.surrenderOf α block).answer = .ok () ∧ (a.surrenderOf α block).state.Sound ∧
      (a.surrenderOf α block).state.id = a.id ∧
      a.live.Perm (block.recordFor α :: (a.surrenderOf α block).state.live) := by
  have found := sound.recordAt? hosts.live
  obtain ⟨answer, state⟩ := surrenderOf_eq sound hosts
  rw [state]
  exact ⟨answer, sound.withoutBlock found, rfl, live_withoutBlock found⟩

/-- A block that goes back as soon as it was handed out leaves the live blocks as they were. -/
theorem surrenderOf_of_new {a b : Arena} {block : Block} (sound : b.Sound) (id : b.id = a.id)
    (own : block.arena = a.id) (live : b.live.Perm (block.recordFor α :: a.live)) :
    (b.surrenderOf α block).answer = .ok () ∧ (b.surrenderOf α block).state.Sound ∧
      (b.surrenderOf α block).state.id = a.id ∧
      (b.surrenderOf α block).state.live.Perm a.live := by
  have hosts : b.Hosts α block :=
    ⟨own.trans id.symm, live.mem_iff.2 List.mem_cons_self⟩
  obtain ⟨answer, sound, same, rest⟩ := surrenderOf_of_hosts sound hosts
  exact ⟨answer, sound, same.trans id, (rest.symm.trans live).cons_inv⟩

end Arena

/-! ## Values that are made in their blocks -/

namespace ArenaIn

variable (site : ArenaIn σ) (lift : Notice → ε) (s : σ) (init : σ → Outcome ε σ (Except ι α))

/-- The state in which the initialiser runs: the block has been asked for. -/
def asked (α : Type) [Pooled α] (site : ArenaIn σ) (s : σ) : σ :=
  site.put s ((site.get s).allocateFor α).state

theorem placeWith_of_refused {why : Refusal}
    (got : ((site.get s).allocateFor α).answer = .error why) :
    site.placeWith lift s init =
      ⟨.error (.pool why), site.asked α s, ((site.get s).allocateFor α).events.map lift⟩ := by
  simp only [placeWith, Outcome.andThen, Outcome.within_answer, Outcome.mapEvents_answer, got]
  simp only [Outcome.after, Outcome.quiet, Outcome.within, Outcome.mapEvents, List.append_nil]
  rfl

theorem placeWith_of_made {block : Block} {value : α}
    (got : ((site.get s).allocateFor α).answer = .ok block)
    (made : (init (site.asked α s)).answer = .ok value) :
    site.placeWith lift s init =
      ⟨.ok ⟨block, value⟩, (init (site.asked α s)).state,
        ((site.get s).allocateFor α).events.map lift ++ (init (site.asked α s)).events⟩ := by
  simp only [placeWith, Outcome.andThen, Outcome.within_answer, Outcome.mapEvents_answer, got]
  change Outcome.after _ (Outcome.after _ (site.settle lift block _
    (init (site.asked α s)).answer)) = _
  rw [made]
  simp only [settle, Outcome.after, Outcome.quiet, List.append_nil]
  rfl

theorem placeWith_of_failed {block : Block} {why : ι}
    (got : ((site.get s).allocateFor α).answer = .ok block)
    (made : (init (site.asked α s)).answer = .error why) :
    site.placeWith lift s init =
      let back := (site.get (init (site.asked α s)).state).surrenderOf α block
      ⟨match back.answer with
        | .ok () => .error (.init why)
        | .error fault => .error (.fault fault),
        site.put (init (site.asked α s)).state back.state,
        ((site.get s).allocateFor α).events.map lift ++
          ((init (site.asked α s)).events ++ back.events.map lift)⟩ := by
  simp only [placeWith, Outcome.andThen, Outcome.within_answer, Outcome.mapEvents_answer, got]
  change Outcome.after _ (Outcome.after _ (site.settle lift block _
    (init (site.asked α s)).answer)) = _
  rw [made]
  rfl

end ArenaIn

end PacketRadio.Pool
