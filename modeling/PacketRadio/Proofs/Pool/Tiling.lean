import PacketRadio.Proofs.Pool.Calls
import PacketRadio.Proofs.Pool.FreeList

/-!
# Live blocks and holes tile the region

Whatever is asked of an arena and whatever is given back to it, its live blocks, each with all that
it occupies, and its holes divide the usable part of the region among them. No byte is lost and none
is handed out twice.
-/

namespace PacketRadio.Pool

namespace Arena

/-- What the live blocks occupy, and the holes. -/
def pieces (a : Arena) : List Hole := a.live.map Record.piece ++ a.free

/-- The part of the region that can be handed out. -/
def usable (a : Arena) : Hole := FreeList.usable a.base a.size

/-- The holes are in order, the live blocks are where they may be, and together they tile the usable
part of the region. -/
structure Sound (a : Arena) : Prop where
  ordered : a.free.Ordered a.base
  aligned : ∀ r ∈ a.live, r.layout.align ∣ a.base + r.offset
  eight_dvd : ∀ r ∈ a.live, 8 ∣ a.base + r.offset
  tiled : ∀ n, coverage a.pieces n = coverage [a.usable] n

theorem coverage_pieces (a : Arena) (n : Nat) :
    coverage a.pieces n = coverage (a.live.map Record.piece) n + coverage a.free n :=
  coverage_append _ _ n

theorem Sound.keepable {a : Arena} (sound : a.Sound) {r : Record} (member : r ∈ a.live) :
    r.piece.Keepable a.base :=
  ⟨r.layout.least_le_footprint, r.layout.eight_dvd_footprint, sound.eight_dvd r member⟩

theorem Sound.pieces_pos {a : Arena} (sound : a.Sound) : ∀ h ∈ a.pieces, 0 < h.size := by
  intro h member
  rcases List.mem_append.1 member with live | free
  · obtain ⟨r, found, rfl⟩ := List.mem_map.1 live
    exact (sound.keepable found).pos
  · exact (sound.ordered.keepable h free).pos

theorem Sound.pieces_apart {a : Arena} (sound : a.Sound) :
    a.pieces.Pairwise fun h k => h.stop ≤ k.start ∨ k.stop ≤ h.start := by
  refine apart_of_coverage (fun n => ?_) sound.pieces_pos
  rw [sound.tiled, coverage_cons, coverage_nil]
  split <;> omega

/-! ## One call -/

theorem fresh_sound (id base : Nat) {size : Nat} (large : minRegion ≤ size) :
    (fresh id base size).Sound where
  ordered := by
    have eight : 0 < 8 := by decide
    have start := le_roundUp base eight
    have near := roundUp_lt base eight
    have onGrid := dvd_roundUp base 8
    have whole := dvd_roundDown (size - (roundUp base 8 - base)) 8
    refine FreeList.ordered_singleton ⟨?_, whole, ?_⟩
    · simp only [minRegion] at large
      simp only [FreeList.usable, roundDown, Hole.least]
      omega
    · simp only [fresh, FreeList.usable]
      omega
  aligned r member := by simp [live, fresh] at member
  eight_dvd r member := by simp [live, fresh] at member
  tiled n := by simp [pieces, live, fresh, usable, FreeList.ofRegion]

theorem Sound.withBlock {a : Arena} (sound : a.Sound) {layout : Layout} {offset : Nat}
    {free : FreeList} (tag : Tag) (type : layout.OfType) (room : a.records.isFull = false)
    (taken : a.free.take? a.base layout = some (offset, free)) :
    (a.withBlock ⟨offset, layout, tag⟩ free).Sound := by
  have spec := FreeList.take?_spec type sound.ordered taken
  have live := live_withBlock ⟨offset, layout, tag⟩ free room
  have old : ∀ r ∈ (a.withBlock ⟨offset, layout, tag⟩ free).live,
      r = ⟨offset, layout, tag⟩ ∨ r ∈ a.live := fun r member =>
    List.mem_cons.1 (live.mem_iff.1 member)
  refine ⟨spec.ordered, fun r member => ?_, fun r member => ?_, fun n => ?_⟩
  · rcases old r member with rfl | there
    · exact spec.aligned
    · exact sound.aligned r there
  · rcases old r member with rfl | there
    · exact spec.eight_dvd
    · exact sound.eight_dvd r there
  · have before := sound.tiled n
    have moved := spec.covered n
    rw [coverage_pieces] at before ⊢
    rw [coverage_perm (live.map Record.piece) n, List.map_cons, coverage_cons]
    rw [coverage_cons, coverage_nil] at moved
    change _ = coverage [a.usable] n
    change coverage (a.live.map Record.piece) n + (if Hole.covers ⟨offset, layout.footprint⟩ n then 1
      else 0) + coverage free n = _
    omega

theorem Sound.withoutBlock {a : Arena} (sound : a.Sound) {r : Record}
    (found : a.recordAt? r.offset = some r) : (a.withoutBlock r).Sound := by
  have live := live_withoutBlock found
  have member : r ∈ a.live := (recordAt?_eq_some found).1
  have kept : ∀ s ∈ (a.withoutBlock r).live, s ∈ a.live := fun s there =>
    live.mem_iff.2 (List.mem_cons_of_mem r there)
  have apart : ∀ h ∈ a.free, h.stop ≤ r.piece.start ∨ r.piece.stop ≤ h.start := by
    intro h free
    have := (List.pairwise_append.1 sound.pieces_apart).2.2 _
      (List.mem_map_of_mem (f := Record.piece) member) h free
    exact this.symm
  refine ⟨sound.ordered.putBack (sound.keepable member) apart, fun s there => ?_, fun s there => ?_,
    fun n => ?_⟩
  · exact sound.aligned s (kept s there)
  · exact sound.eight_dvd s (kept s there)
  · have before := sound.tiled n
    rw [coverage_pieces, coverage_perm (live.map Record.piece) n, List.map_cons,
      coverage_cons] at before
    have back := FreeList.coverage_putBack r.piece a.free n
    rw [coverage_cons, coverage_nil] at back
    rw [coverage_pieces]
    change _ + coverage (FreeList.putBack r.piece a.free) n = coverage [a.usable] n
    omega

/-- **One call keeps the tiling**, whatever it asks for or gives back. -/
theorem Change.sound {a b : Arena} (h : Change a b) (sound : a.Sound) : b.Sound := by
  cases h with
  | counted stats => exact ⟨sound.ordered, sound.aligned, sound.eight_dvd, sound.tiled⟩
  | handedOut tag type room taken => exact sound.withBlock tag type room taken
  | takenBack found => exact sound.withoutBlock found

/-! ## All calls -/

theorem run_sound {a : Arena} (sound : a.Sound) (calls : List Call) : (a.run calls).state.Sound :=
  run_keeps (fun b call => (b.change_serve call).sound) sound calls

theorem run_region (a : Arena) (calls : List Call) :
    (a.run calls).state.id = a.id ∧ (a.run calls).state.base = a.base ∧
      (a.run calls).state.size = a.size := by
  refine run_keeps (P := fun b => b.id = a.id ∧ b.base = a.base ∧ b.size = a.size) ?_
    ⟨rfl, rfl, rfl⟩ calls
  intro b call same
  obtain ⟨id, base, size⟩ := (b.change_serve call).region
  exact ⟨id.trans same.1, base.trans same.2.1, size.trans same.2.2⟩

/-- The arena was opened and has served calls. -/
def Opened (a : Arena) : Prop :=
  ∃ id base size opened notices calls,
    open? id base size = .ok (opened, notices) ∧ a = (opened.run calls).state

theorem Opened.sound {a : Arena} (opened : a.Opened) : a.Sound := by
  obtain ⟨id, base, size, start, notices, calls, isOpen, rfl⟩ := opened
  unfold open? at isOpen
  split at isOpen
  · cases isOpen
  · rename_i large
    cases isOpen
    exact run_sound (fresh_sound id base (Nat.not_lt.1 large)) calls

theorem Opened.serve {a : Arena} (opened : a.Opened) (call : Call) :
    (a.serve call).state.Opened := by
  obtain ⟨id, base, size, start, notices, calls, isOpen, rfl⟩ := opened
  exact ⟨id, base, size, start, notices, calls ++ [call], isOpen, (run_concat start calls call).symm⟩

theorem Opened.run {a : Arena} (opened : a.Opened) (calls : List Call) : (a.run calls).state.Opened :=
  run_keeps (fun _ call before => before.serve call) opened calls

theorem Opened.counted {a : Arena} (opened : a.Opened) : a.Counted := by
  obtain ⟨id, base, size, start, notices, calls, isOpen, rfl⟩ := opened
  unfold open? at isOpen
  split at isOpen
  · cases isOpen
  · cases isOpen
    refine run_keeps (fun b call counted => counted.serve call) ?_ calls
    simp [Counted, live, fresh]

/-- Live blocks do not overlap. -/
theorem Sound.live_apart {a : Arena} (sound : a.Sound) :
    a.live.Pairwise fun r s => r.piece.stop ≤ s.offset ∨ s.piece.stop ≤ r.offset :=
  List.pairwise_map.1 (List.pairwise_append.1 sound.pieces_apart).1

/-- No two live blocks start at the same place. -/
theorem Sound.offsets_nodup {a : Arena} (sound : a.Sound) : (a.live.map Record.offset).Nodup := by
  refine List.pairwise_map.2 (sound.live_apart.imp fun {r s} apart => ?_)
  have := r.layout.least_le_footprint
  have := s.layout.least_le_footprint
  simp only [Record.piece, Hole.stop, Hole.least] at *
  omega

/-- A piece of the region ends where the region ends or before. -/
theorem Sound.within {a : Arena} (sound : a.Sound) {h : Hole} (member : h ∈ a.pieces) :
    h.stop ≤ a.usable.stop := by
  have pos := sound.pieces_pos h member
  have last : 0 < coverage a.pieces (h.stop - 1) :=
    coverage_pos member (by simp only [Hole.stop]; omega) (by simp only [Hole.stop]; omega)
  rw [sound.tiled] at last
  obtain ⟨k, same, -, upper⟩ := exists_of_coverage last
  cases List.mem_singleton.1 same
  omega

theorem usable_within (a : Arena) (large : minRegion ≤ a.size) : a.usable.stop ≤ a.size := by
  have near := roundUp_lt a.base (show 0 < 8 by decide)
  have cut := roundDown_le (a.size - (roundUp a.base 8 - a.base)) 8
  simp only [minRegion] at large
  simp only [usable, FreeList.usable, Hole.stop]
  omega

/-- The live blocks and the holes of an arena divide a region of `size` bytes at `base` among them.
-/
structure TilesRegion (base size : Nat) (a : Arena) : Prop where
  /-- Each byte of the usable part lies in exactly one live block or hole, no other byte in any. -/
  once : ∀ n, coverage (a.live.map Record.piece ++ a.free) n =
    if (FreeList.usable base size).covers n then 1 else 0
  blocks_apart : a.live.Pairwise fun r s => r.piece.stop ≤ s.offset ∨ s.piece.stop ≤ r.offset
  blocks_within : ∀ r ∈ a.live, r.piece.stop ≤ size
  blocks_aligned : ∀ r ∈ a.live, r.layout.align ∣ base + r.offset
  /-- Holes are in ascending order with a gap between any two. -/
  holes_apart : a.free.Pairwise fun h k => h.stop < k.start
  holes_kept : ∀ h ∈ a.free, 8 ∣ h.size ∧ 16 ≤ h.size
  places_distinct : (a.live.map Record.offset).Nodup

theorem Sound.tilesRegion {a : Arena} (sound : a.Sound) (large : minRegion ≤ a.size) :
    TilesRegion a.base a.size a where
  once n := by
    have tiled := sound.tiled n
    rw [coverage_cons, coverage_nil, Nat.zero_add] at tiled
    exact tiled
  blocks_apart := sound.live_apart
  blocks_within r member := by
    have piece := sound.within
      (List.mem_append_left a.free (List.mem_map_of_mem (f := Record.piece) member))
    have region := a.usable_within large
    omega
  blocks_aligned := sound.aligned
  holes_apart := sound.ordered.apart
  holes_kept h member :=
    ⟨(sound.ordered.keepable h member).eight_dvd, (sound.ordered.keepable h member).least_le⟩
  places_distinct := sound.offsets_nodup

/-- **Live blocks and holes tile the region.** An arena over a region that is large enough is opened,
and after any calls to it, with any layouts, block values and tags, live blocks and holes divide
the region among them. -/
theorem calls_tile_region (id base : Nat) {size : Nat} (large : minRegion ≤ size) :
    ∃ opened notices, open? id base size = .ok (opened, notices) ∧
      ∀ calls : List Call, TilesRegion base size (opened.run calls).state := by
  refine ⟨fresh id base size, _, if_neg (Nat.not_lt.2 large), fun calls => ?_⟩
  have sound := run_sound (fresh_sound id base large) calls
  obtain ⟨-, atBase, ofSize⟩ := (fresh id base size).run_region calls
  change _ = base at atBase
  change _ = size at ofSize
  have tiles := sound.tilesRegion (ofSize.symm ▸ large)
  rwa [atBase, ofSize] at tiles

/-- A region that starts three bytes behind a multiple of eight: a coarsely aligned block leaves a
hole in front of it, and the block before it is released through an old copy, under a wrong tag and
then under its own. -/
theorem skewed_region_tiled :
    minRegion ≤ 1000 ∧
      ∃ opened notices, open? 1 4099 1000 = .ok (opened, notices) ∧
        TilesRegion 4099 1000
          (opened.run
            [.allocate ⟨100, 1⟩ ⟨0, rfl⟩ 100 Tag.generic, .allocate ⟨128, 64⟩ ⟨6, rfl⟩ 128 Tag.generic,
              .release (some ⟨1, 5⟩) (Tag.ofChars 'a' 'x' 'O' 'T'),
              .release (some ⟨1, 5⟩) Tag.generic, .release (some ⟨1, 5⟩) Tag.generic]).state := by
  refine ⟨by decide, ?_⟩
  obtain ⟨opened, notices, isOpen, tiled⟩ := calls_tile_region 1 4099 (show minRegion ≤ 1000 by decide)
  exact ⟨opened, notices, isOpen, tiled _⟩

end Arena

end PacketRadio.Pool
