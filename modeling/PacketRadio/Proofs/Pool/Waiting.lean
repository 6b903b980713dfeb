import PacketRadio.Proofs.Pool.Upkeep

/-!
# Blocks that wait

A live block that neither a box has nor anybody else waits for an operation to go on: for its value,
while an initialiser runs, or for its release, while a destructor runs. Operations start and finish
around it. None of them touches such a block, and none leaves one behind, so the blocks that wait
after a program are those that waited before it. What else is live, somebody has.
-/

namespace PacketRadio.Pool

/-! ## What befalls a block -/

/-- The deed is about block `b`: it was handed out or taken back, or a value was placed or destroyed
in it. -/
def Deed.befalls (b : Block) : Deed → Bool
  | .notice (.allocated _ _ place) | .notice (.released _ _ place) => place == b.location
  | .placed _ block | .destroyed _ block => block == b
  | _ => false

/-- What befell block `b`, in order. -/
def lot (b : Block) (deeds : List Deed) : List Deed := deeds.filter (Deed.befalls b)

section

variable {b : Block} {deeds more : List Deed}

theorem lot_append (b : Block) (deeds more : List Deed) :
    lot b (deeds ++ more) = lot b deeds ++ lot b more := List.filter_append ..

theorem lot_append_nil (first : lot b deeds = []) (second : lot b more = []) :
    lot b (deeds ++ more) = [] := by
  rw [lot_append, first, second, List.append_nil]

theorem lot_of_not {deed : Deed} (other : deed.befalls b = false) : lot b [deed] = [] := by
  rw [lot, List.filter_cons, other]
  rfl

theorem Block.location_inj {b c : Block} (same : b.location = c.location) : b = c := by
  cases b
  cases c
  cases same
  rfl

theorem Block.eq_of_place {b c : Block} {r : Record} (arena : b.arena = c.arena)
    (place : r.offset = b.offset) (place' : r.offset = c.offset) : b = c := by
  have offset := place.symm.trans place'
  cases b
  cases c
  exact congrArg₂ Block.mk arena offset

theorem some_block_ne {b block : Block} : some block ≠ some b ↔ b ≠ block := by
  rw [ne_eq, Option.some_inj, eq_comm]

/-- What is told of one block does not befall another one. -/
theorem befalls_location {b c : Block} (apart : b ≠ c) : (c.location == b.location) = false := by
  rw [beq_eq_false_iff_ne]
  exact fun same => apart (Block.location_inj same).symm

theorem lot_allocated {block : Block} (apart : b ≠ block) (tag : Tag) (size : Nat) :
    lot b ([Notice.allocated tag size block.location].map .notice) = [] :=
  lot_of_not (befalls_location apart)

theorem lot_placed {block : Block} (apart : b ≠ block) (serial : Nat) :
    lot b [.placed serial block] = [] := lot_of_not (beq_eq_false_iff_ne.2 apart.symm)

theorem lot_destroyed {block : Block} (apart : b ≠ block) (serial : Nat) :
    lot b [.destroyed serial block] = [] := lot_of_not (beq_eq_false_iff_ne.2 apart.symm)

end

namespace Arena

/-- In a sound arena no other record has the place of a live one. -/
theorem Sound.offset_ne {a : Arena} (sound : a.Sound) {r : Record} {others : List Record}
    (live : a.live.Perm (r :: others)) : ∀ other ∈ others, other.offset ≠ r.offset := by
  have places := sound.offsets_nodup
  rw [(live.map Record.offset).nodup_iff, List.map_cons, List.nodup_cons] at places
  exact fun other there same => places.1 (List.mem_map.2 ⟨other, there, same⟩)

/-- An arena that hands a block out says so, and says nothing of any other block. -/
theorem allocate_events (a : Arena) (layout : Layout) (size : Nat) (tag : Tag) :
    (∀ block, (a.allocate layout size tag).answer = .ok block →
      (a.allocate layout size tag).events = [.allocated tag size block.location]) ∧
    ∀ why, (a.allocate layout size tag).answer = .error why → ∀ b,
      lot b ((a.allocate layout size tag).events.map .notice) = [] := by
  unfold allocate
  split
  · exact ⟨nofun, fun _ _ _ => rfl⟩
  · split
    · exact ⟨nofun, fun _ _ _ => rfl⟩
    · split
      · exact ⟨nofun, fun _ _ _ => rfl⟩
      · split
        · exact ⟨nofun, fun _ _ _ => rfl⟩
        · refine ⟨fun block got => ?_, nofun⟩
          cases got
          rfl

/-- An arena that takes a block back says so, and says nothing of any other block. -/
theorem release_events (a : Arena) (block : Block) (tag : Tag) {b : Block} (apart : b ≠ block) :
    lot b ((a.release block tag).events.map .notice) = [] := by
  unfold release
  split
  · rfl
  · split
    · rfl
    · split
      · rfl
      · exact lot_of_not (befalls_location apart)

theorem surrenderOf_events {α : Type} [Pooled α] {a : Arena} {block : Block}
    (sound : a.Sound) (hosts : a.Hosts α block) :
    (a.surrenderOf α block).events =
      [.released (Pooled.tag α) (Pooled.layout α).size block.location] := by
  have found : a.recordAt? block.offset = some (block.recordFor α) := sound.recordAt? hosts.live
  have back : a.release block (Pooled.tag α) =
      ⟨.ok (), a.withoutBlock (block.recordFor α),
        [.released (Pooled.tag α) (Pooled.layout α).size block.location]⟩ := by
    unfold release
    rw [if_neg (not_not_intro hosts.own), found]
    exact if_neg (not_not_intro rfl)
  simp only [surrenderOf, surrender, back]
  rfl

end Arena

namespace Estate

variable {κ : Type} {V : κ → Type}

/-! ## Blocks that nobody has -/

/-- A box has the block, or somebody else. -/
def Claims (s : Estate V) (b : Block) : Prop :=
  s.loose b = true ∨ ∃ l, (s.boxes l).map Owned.block = some b

/-- The block is live under `r`, and nobody has it but an operation that is under way. -/
structure Waiting (s : Estate V) (b : Block) (r : Record) : Prop where
  place : r.offset = b.offset
  live : r ∈ (s.arenas b.arena).live
  unclaimed : ¬ s.Claims b

section

variable {s t : Estate V} {b block : Block} {r r' : Record} {n : Nat} {a : Arena}

theorem Waiting.unboxed (waiting : s.Waiting b r) (l : Label κ) :
    (s.boxes l).map Owned.block ≠ some b := fun has => waiting.unclaimed (.inr ⟨l, has⟩)

theorem arenas_put (s : Estate V) (n m : Nat) (a : Arena) :
    ((site n).put s a).arenas m = if m = n then a else s.arenas m :=
  Function.update_apply s.arenas n a m

/-- What waits is told by the arenas and by who has which block. -/
theorem waiting_congr (live : (t.arenas b.arena).live = (s.arenas b.arena).live)
    (loose : t.loose b = s.loose b)
    (boxes : ∀ l, (t.boxes l).map Owned.block = (s.boxes l).map Owned.block) :
    t.Waiting b r ↔ s.Waiting b r := by
  have claims : t.Claims b ↔ s.Claims b := by
    rw [Claims, Claims, loose]
    simp only [boxes]
  constructor
  · exact fun ⟨place, there, free⟩ => ⟨place, live ▸ there, mt claims.2 free⟩
  · exact fun ⟨place, there, free⟩ => ⟨place, live.symm ▸ there, mt claims.1 free⟩

theorem waiting_count : s.count.Waiting b r ↔ s.Waiting b r := waiting_congr rfl rfl fun _ => rfl

/-- An arena that has only counted. -/
theorem waiting_recount (live : a.live = (s.arenas n).live) :
    ((site n).put s a).Waiting b r ↔ s.Waiting b r := by
  refine waiting_congr ?_ rfl fun _ => rfl
  rw [arenas_put]
  split
  · rename_i here
    rw [live, here]
  · rfl

theorem waiting_putLoose {held : Bool} (apart : b ≠ block) :
    (s.putLoose block held).Waiting b r ↔ s.Waiting b r :=
  waiting_congr rfl (Function.update_of_ne apart ..) fun _ => rfl

/-- A block that was taken back waits no more, and what else waited still does. -/
theorem waiting_yield (own : block.arena = n) (place : r.offset = block.offset)
    (sound : (s.arenas n).Sound) (live : (s.arenas n).live.Perm (r :: a.live)) :
    ((site n).put s a).Waiting b r' ↔ s.Waiting b r' ∧ b ≠ block := by
  constructor
  · rintro ⟨place', there, free⟩
    rw [arenas_put] at there
    split at there
    · rename_i here
      have before := live.mem_iff.2 (List.mem_cons_of_mem _ there)
      refine ⟨⟨place', here ▸ before, free⟩, ?_⟩
      rintro rfl
      exact sound.offset_ne live r' there (place'.trans place.symm)
    · rename_i elsewhere
      refine ⟨⟨place', there, free⟩, ?_⟩
      rintro rfl
      exact elsewhere own
  · rintro ⟨⟨place', there, free⟩, apart⟩
    refine ⟨place', ?_, free⟩
    rw [arenas_put]
    split
    · rename_i here
      rcases List.mem_cons.1 (live.mem_iff.1 (here ▸ there)) with rfl | left
      · exact absurd (Block.eq_of_place (here.trans own.symm) place' place) apart
      · exact left
    · exact there

variable [DecidableEq κ] {l : Label κ} {box : Box (Stamped (V l.kind))}

theorem claims_putBox : (s.putBox l box).Claims b ↔
    s.loose b = true ∨ (∃ m, m ≠ l ∧ (s.boxes m).map Owned.block = some b) ∨
      box.map Owned.block = some b := by
  refine or_congr_right ⟨?_, ?_⟩
  · rintro ⟨m, there⟩
    by_cases here : m = l
    · subst here
      rw [putBox_self] at there
      exact .inr there
    · rw [putBox_of_ne s here] at there
      exact .inl ⟨m, here, there⟩
  · rintro (⟨m, other, there⟩ | given)
    · exact ⟨m, by rw [putBox_of_ne s other, there]⟩
    · exact ⟨l, by rw [putBox_self, given]⟩

end

variable [∀ k, Pooled (V k)]

/-- The arenas are sound, every block that somebody has is live, and one holder has it. -/
def InOrder (s : Estate V) : Prop := ∃ c, Orderly c s

namespace InOrder

variable {s : Estate V} {b block : Block} {r r' : Record} {n : Nat} {a : Arena}

theorem sound (order : s.InOrder) (n : Nat) : (s.arenas n).Sound := order.choose_spec.sound n

theorem numbered (order : s.InOrder) (n : Nat) : (s.arenas n).id = n := order.choose_spec.numbered n

theorem count (order : s.InOrder) : s.count.InOrder := order.imp fun _ orderly => orderly.count

/-- What is live has one record. -/
theorem record_eq (order : s.InOrder) (live : r ∈ (s.arenas n).live)
    (live' : r' ∈ (s.arenas n).live) (place : r.offset = r'.offset) : r = r' :=
  List.inj_on_of_nodup_map (order.sound n).offsets_nodup live live' place

/-- A box has a live block, recorded for its value. -/
theorem boxed (order : s.InOrder) {l : Label κ} (has : (s.boxes l).map Owned.block = some b) :
    b.recordFor (V l.kind) ∈ (s.arenas b.arena).live := by
  obtain ⟨c, orderly⟩ := order
  obtain ⟨owned, holds, rfl⟩ := Option.map_eq_some_iff.1 has
  exact (orderly.live _ _ _ (orderly.boxes l owned holds)).2

/-- No two boxes have one block. -/
theorem apart (order : s.InOrder) {l m : Label κ} (has : (s.boxes l).map Owned.block = some b)
    (also : (s.boxes m).map Owned.block = some b) : l = m := by
  obtain ⟨c, orderly⟩ := order
  obtain ⟨owned, holds, rfl⟩ := Option.map_eq_some_iff.1 has
  obtain ⟨other, there, same⟩ := Option.map_eq_some_iff.1 also
  have had := orderly.boxes m other there
  rw [same, orderly.boxes l owned holds] at had
  exact Holder.box.inj (congrArg Prod.snd (Option.some.inj had))

theorem unheld (order : s.InOrder) {l : Label κ} (has : (s.boxes l).map Owned.block = some b) :
    s.loose b ≠ true := by
  obtain ⟨c, orderly⟩ := order
  obtain ⟨owned, holds, rfl⟩ := Option.map_eq_some_iff.1 has
  exact fun held => orderly.unheld (orderly.boxes l owned holds) nofun held rfl

theorem lent (order : s.InOrder) (held : s.loose b = true) :
    ∃ r ∈ (s.arenas b.arena).live, r.offset = b.offset := by
  obtain ⟨c, orderly⟩ := order
  obtain ⟨r, had⟩ := orderly.loose b held
  obtain ⟨place, live⟩ := orderly.live b r _ had
  exact ⟨r, live, place⟩

theorem claimed_live (order : s.InOrder) (claimed : s.Claims b) :
    ∃ r ∈ (s.arenas b.arena).live, r.offset = b.offset := by
  rcases claimed with held | ⟨l, has⟩
  · exact order.lent held
  · exact ⟨_, order.boxed has, rfl⟩

/-- What waits, some operation has. -/
theorem adopt (order : s.InOrder) (waiting : s.Waiting b r) :
    ∃ c, Orderly c s ∧ c b = some (r, .kept) := by
  obtain ⟨c, orderly⟩ := order
  refine ⟨Function.update c b (some (r, .kept)), orderly.entrust _ rfl (fun r' w given => ?_)
    (fun l owned holds => ⟨fun same => ?_, fun _ => holds⟩)
    (fun b' held => ⟨fun same => ?_, fun _ => held⟩), Function.update_self ..⟩
  · cases given
    exact ⟨waiting.place, waiting.live⟩
  · refine absurd (.inr ⟨l, ?_⟩) waiting.unclaimed
    rw [holds, Option.map_some, same]
  · exact absurd (.inl (same ▸ held)) waiting.unclaimed

/-- A block that waits under the record of a value can be released for that value. -/
theorem hosts (order : s.InOrder) {k : κ} (waiting : s.Waiting b (b.recordFor (V k))) :
    (s.arenas b.arena).Hosts (Stamped (V k)) b :=
  ⟨(order.numbered _).symm, waiting.live⟩

/-- A block that was handed out waits, and what waited still does. -/
theorem waiting_grant (order : s.InOrder) (own : block.arena = n) (place : r.offset = block.offset)
    (new : ∀ old ∈ (s.arenas n).live, old.offset ≠ block.offset)
    (live : a.live.Perm (r :: (s.arenas n).live)) :
    ((site n).put s a).Waiting b r' ↔ s.Waiting b r' ∨ (b = block ∧ r' = r) := by
  have unclaimed : ¬ s.Claims block := by
    intro claimed
    obtain ⟨old, there, same⟩ := order.claimed_live claimed
    exact new old (own ▸ there) same
  constructor
  · rintro ⟨place', there, free⟩
    rw [arenas_put] at there
    split at there
    · rename_i here
      rcases List.mem_cons.1 (live.mem_iff.1 there) with rfl | before
      · exact .inr ⟨Block.eq_of_place (here.trans own.symm) place' place, rfl⟩
      · exact .inl ⟨place', here ▸ before, free⟩
    · exact .inl ⟨place', there, free⟩
  · rintro (⟨place', there, free⟩ | ⟨rfl, rfl⟩)
    · refine ⟨place', ?_, free⟩
      rw [arenas_put]
      split
      · rename_i here
        exact live.mem_iff.2 (List.mem_cons_of_mem _ (here ▸ there))
      · exact there
    · refine ⟨place, ?_, unclaimed⟩
      rw [arenas_put, if_pos own]
      exact live.mem_iff.2 List.mem_cons_self

/-- A block that waits goes back to its arena, and all else stays in order. -/
theorem giveBack (order : s.InOrder) {k : κ} (waiting : s.Waiting block (block.recordFor (V k)))
    (own : block.arena = n) :
    let back := (s.arenas n).surrenderOf (Stamped (V k)) block
    back.answer = .ok () ∧ ((site n).put s back.state).InOrder ∧
      (∀ b r, ((site n).put s back.state).Waiting b r ↔ s.Waiting b r ∧ b ≠ block) ∧
      (s.arenas n).live.Perm (block.recordFor (V k) :: back.state.live) ∧
      back.events =
        [.released (Pooled.tag (V k)) (Pooled.layout (V k)).size block.location] := by
  subst own
  have hosts := order.hosts waiting
  have sound := order.sound block.arena
  obtain ⟨answer, -, -, live⟩ := Arena.surrenderOf_of_hosts sound hosts
  obtain ⟨c, orderly, had⟩ := order.adopt waiting
  exact ⟨answer, ⟨_, (orderly.giveBack rfl had).2⟩,
    fun b r => waiting_yield rfl rfl sound live, live, Arena.surrenderOf_events sound hosts⟩

/-! ### Boxes -/

variable [DecidableEq κ] {l : Label κ} {box : Box (Stamped (V l.kind))}

/-- A box that is given a block that waited leaves the one that it had before to wait. -/
theorem waiting_putBox (order : s.InOrder) (l : Label κ) (box : Box (Stamped (V l.kind)))
    (waits : ∀ b, box.map Owned.block = some b → ¬ s.Claims b) :
    (s.putBox l box).Waiting b r ↔
      (s.Waiting b r ∧ box.map Owned.block ≠ some b) ∨
        ((s.boxes l).map Owned.block = some b ∧ r = b.recordFor (V l.kind)) := by
  constructor
  · rintro ⟨place, live, free⟩
    rw [claims_putBox, not_or, not_or] at free
    obtain ⟨unheld, unboxed, other⟩ := free
    by_cases claimed : s.Claims b
    · obtain held | ⟨m, has⟩ := claimed
      · exact absurd held unheld
      · by_cases here : m = l
        · subst here
          exact .inr ⟨has, order.record_eq live (order.boxed has) place⟩
        · exact absurd ⟨m, here, has⟩ unboxed
    · exact .inl ⟨⟨place, live, claimed⟩, other⟩
  · rintro (⟨⟨place, live, free⟩, other⟩ | ⟨has, rfl⟩)
    · refine ⟨place, live, ?_⟩
      rw [claims_putBox]
      rintro (held | ⟨m, -, there⟩ | given)
      · exact free (.inl held)
      · exact free (.inr ⟨m, there⟩)
      · exact other given
    · refine ⟨rfl, order.boxed has, ?_⟩
      rw [claims_putBox]
      rintro (held | ⟨m, apart, there⟩ | given)
      · exact order.unheld has held
      · exact apart (order.apart there has)
      · exact waits b given (.inr ⟨l, has⟩)

theorem putBox (order : s.InOrder)
    (waits : ∀ b, box.map Owned.block = some b → s.Waiting b (b.recordFor (V l.kind))) :
    (s.putBox l box).InOrder := by
  have adopted : ∃ c, Orderly c s ∧ ∀ owned, box = some owned →
      c owned.block = some (owned.block.recordFor (V l.kind), .kept) := by
    cases box with
    | none => exact order.imp fun c orderly => ⟨orderly, nofun⟩
    | some owned =>
      obtain ⟨c, orderly, had⟩ := order.adopt (waits owned.block rfl)
      exact ⟨c, orderly, fun other same => Option.some.inj same ▸ had⟩
  obtain ⟨c, orderly, kept⟩ := adopted
  obtain ⟨c₁, emptied, keeps, -⟩ := orderly.takeOut l
  obtain ⟨c₂, filled, -⟩ := emptied.putIn l box fun owned same => keeps _ _ nofun (kept owned same)
  rw [putBox_putBox] at filled
  exact ⟨c₂, filled⟩

end InOrder

/-- What keeps estates in order does so for any holders. -/
theorem Tidy.inOrder {f : Estate V → Outcome Deed (Estate V) Unit} (tidy : Tidy f) {s : Estate V}
    (order : s.InOrder) : (f s).state.InOrder := by
  obtain ⟨c, orderly⟩ := order
  obtain ⟨-, c', after, -⟩ := tidy c s orderly
  exact ⟨c', after⟩

/-! ## Operations spare what waits -/

/-- An outcome that leaves the same blocks to wait, but for `gone`, and did nothing to them. -/
structure Spares (gone : Option Block) (s : Estate V) (o : Outcome Deed (Estate V) Unit) :
    Prop where
  order : o.state.InOrder
  waiting : ∀ b r, o.state.Waiting b r ↔ s.Waiting b r ∧ gone ≠ some b
  untold : ∀ b r, s.Waiting b r → gone ≠ some b → lot b o.events = []

/-- What spares every block that waits, wherever it starts in order. -/
def Sparing (f : Estate V → Outcome Deed (Estate V) Unit) : Prop :=
  ∀ s, s.InOrder → Spares none s (f s)

namespace Spares

variable {s t : Estate V} {gone : Option Block} {block : Block}
  {o : Outcome Deed (Estate V) Unit} {deeds : List Deed}

theorem of_same (order : o.state.InOrder) (same : ∀ b r, o.state.Waiting b r ↔ s.Waiting b r)
    (untold : ∀ b r, s.Waiting b r → lot b o.events = []) : Spares none s o :=
  ⟨order, fun b r => (same b r).trans (and_iff_left (Option.some_ne_none b).symm).symm,
    fun b r waiting _ => untold b r waiting⟩

theorem refl (order : s.InOrder) : Spares none s (.quiet () s) :=
  .of_same order (fun _ _ => .rfl) fun _ _ _ => rfl

theorem same (spares : Spares none s o) (b : Block) (r : Record) :
    o.state.Waiting b r ↔ s.Waiting b r :=
  (spares.waiting b r).trans (and_iff_left (Option.some_ne_none b).symm)

theorem after (spares : Spares gone s o)
    (untold : ∀ b r, s.Waiting b r → gone ≠ some b → lot b deeds = []) :
    Spares gone s (o.after deeds) :=
  ⟨spares.order, spares.waiting, fun b r waiting apart =>
    lot_append_nil (untold b r waiting apart) (spares.untold b r waiting apart)⟩

/-- An operation that releases a block in the end. -/
theorem release {k : κ} {n : Nat} (spares : Spares none s o)
    (waits : o.state.Waiting block (block.recordFor (V k))) (own : block.arena = n) :
    let back := (o.state.arenas n).surrenderOf (Stamped (V k)) block
    Spares (some block) s
      ⟨(), (site n).put o.state back.state, o.events ++ back.events.map .notice⟩ := by
  obtain ⟨-, after, fewer, -, told⟩ := spares.order.giveBack waits own
  refine ⟨after, fun b r => ?_, fun b r waiting apart => ?_⟩
  · exact (fewer b r).trans (and_congr (spares.same b r) some_block_ne.symm)
  · rw [told]
    exact lot_append_nil (spares.untold b r waiting (Option.some_ne_none b).symm)
      (lot_of_not (befalls_location (some_block_ne.1 apart)))

/-- An operation that uses up what has come to wait before it. -/
theorem spent (spares : Spares gone t o)
    (rest : ∀ b r, gone ≠ some b → (t.Waiting b r ↔ s.Waiting b r))
    (new : ∀ b r, gone = some b → ¬ s.Waiting b r) : Spares none s o where
  order := spares.order
  waiting b r := by
    rw [spares.waiting]
    constructor
    · exact fun ⟨waiting, apart⟩ => ⟨(rest b r apart).1 waiting, nofun⟩
    · intro ⟨waiting, _⟩
      have apart : gone ≠ some b := fun same => new b r same waiting
      exact ⟨(rest b r apart).2 waiting, apart⟩
  untold b r waiting _ := by
    have apart : gone ≠ some b := fun same => new b r same waiting
    exact spares.untold b r ((rest b r apart).2 waiting) apart

end Spares

theorem Sparing.andThen {s : Estate V} {o : Outcome Deed (Estate V) Unit}
    {f : Estate V → Outcome Deed (Estate V) Unit} (sparing : Sparing f) (spares : Spares none s o) :
    Spares none s (o.andThen fun _ s => f s) := by
  have later := sparing _ spares.order
  refine .of_same later.order (fun b r => (later.same b r).trans (spares.same b r))
    fun b r waiting => ?_
  have apart := (Option.some_ne_none b).symm
  exact lot_append_nil (spares.untold b r waiting apart)
    (later.untold b r ((spares.same b r).2 waiting) apart)

section

variable {s : Estate V} {destructor : Estate V → Outcome Deed (Estate V) Unit}

/-- The block of a value that is destroyed is released, and nothing befalls the others. -/
theorem InOrder.destroy (order : s.InOrder) {k : κ} {box : Box (Stamped (V k))}
    (waits : ∀ b, box.map Owned.block = some b → s.Waiting b (b.recordFor (V k)))
    (sparing : Sparing destructor) :
    Spares (box.map Owned.block) s (destroy box destructor s) := by
  cases box with
  | none => exact .refl order
  | some owned =>
    have left := sparing s order
    have waiting := (left.same _ _).2 (waits owned.block rfl)
    exact (left.release waiting rfl).after fun b r _ apart =>
      lot_destroyed (some_block_ne.1 apart) owned.value.serial

variable [DecidableEq κ]

/-- A box is given something else, and what it had before is destroyed. -/
theorem InOrder.store (order : s.InOrder) (l : Label κ) (box : Box (Stamped (V l.kind)))
    (waits : ∀ b, box.map Owned.block = some b → s.Waiting b (b.recordFor (V l.kind)))
    (sparing : Sparing destructor) :
    Spares (box.map Owned.block) s (store l box destructor s) := by
  have moved := fun b r => order.waiting_putBox (b := b) (r := r) l box fun b given =>
    (waits b given).unclaimed
  have gone := (order.putBox waits).destroy (fun b has => (moved b _).2 (.inr ⟨has, rfl⟩)) sparing
  refine ⟨gone.order, fun b r => ?_, fun b r waiting apart => ?_⟩
  · refine (gone.waiting b r).trans ?_
    rw [moved]
    constructor
    · rintro ⟨waiting | ⟨has, -⟩, other⟩
      · exact waiting
      · exact absurd has other
    · exact fun waiting => ⟨.inl waiting, waiting.1.unboxed l⟩
  · exact gone.untold b r ((moved b r).2 (.inl ⟨waiting, apart⟩)) (waiting.unboxed l)

end

/-! ## Blocks are asked for -/

/-- What comes of asking arena `n` for the block of a value. -/
inductive Asking (n : Nat) (k : κ) (s : Estate V) : Prop
  | granted {block : Block} (got : ((s.arenas n).allocateFor (Stamped (V k))).answer = .ok block)
      (own : block.arena = n) (order : ((site n).asked (Stamped (V k)) s).InOrder)
      (new : ∀ r ∈ (s.arenas n).live, r.offset ≠ block.offset)
      (waiting : ∀ b r, ((site n).asked (Stamped (V k)) s).Waiting b r ↔
        s.Waiting b r ∨ (b = block ∧ r = block.recordFor (V k)))
      (told : ((s.arenas n).allocateFor (Stamped (V k))).events =
        [.allocated (Pooled.tag (V k)) (Pooled.layout (V k)).size block.location])
  | refused {why : Refusal}
      (got : ((s.arenas n).allocateFor (Stamped (V k))).answer = .error why)
      (order : ((site n).asked (Stamped (V k)) s).InOrder)
      (waiting : ∀ b r, ((site n).asked (Stamped (V k)) s).Waiting b r ↔ s.Waiting b r)
      (untold : ∀ b, lot b (((s.arenas n).allocateFor (Stamped (V k))).events.map .notice) = [])

theorem InOrder.ask {s : Estate V} (order : s.InOrder) (n : Nat) (k : κ)
    (type : (Pooled.layout (V k)).OfType) : Asking n k s := by
  obtain ⟨granting, refusing⟩ := (s.arenas n).allocate_events (Pooled.layout (V k))
    (Pooled.layout (V k)).size (Pooled.tag (V k))
  obtain ⟨sound, id, ⟨block, got, own, live⟩ | ⟨why, got, live⟩⟩ :=
    (s.arenas n).allocateFor_cases (α := Stamped (V k)) type (order.sound n)
  · have here : block.arena = n := own.trans (order.numbered n)
    have new : ∀ r ∈ (s.arenas n).live, r.offset ≠ block.offset := sound.offset_ne live
    have asked : ((site n).asked (Stamped (V k)) s).InOrder := by
      obtain ⟨c, orderly⟩ := order
      exact ⟨_, (orderly.grant sound id own rfl live).2⟩
    exact .granted got here asked new (fun b r => order.waiting_grant here rfl new live)
      (granting block got)
  · obtain ⟨c, orderly⟩ := order
    exact .refused got ⟨c, orderly.recount sound id live⟩ (fun b r => waiting_recount live)
      (refusing why got)

/-- An operation that uses up the block that it asked for. -/
theorem Spares.granted {k : κ} {n : Nat} {s t : Estate V} {block : Block} {deeds : List Deed}
    {o : Outcome Deed (Estate V) Unit} (own : block.arena = n)
    (new : ∀ r ∈ (s.arenas n).live, r.offset ≠ block.offset)
    (waiting : ∀ b r, t.Waiting b r ↔ s.Waiting b r ∨ (b = block ∧ r = block.recordFor (V k)))
    (spares : Spares (some block) t o)
    (untold : ∀ b r, s.Waiting b r → b ≠ block → lot b deeds = []) :
    Spares none s (o.after deeds) := by
  have fresh : ∀ b r, some block = some b → ¬ s.Waiting b r := by
    rintro b r ⟨⟩ ⟨place, live, -⟩
    exact new r (own ▸ live) place
  refine (spares.spent (fun b r apart => ?_) fresh).after fun b r waits _ => ?_
  · rw [waiting]
    exact or_iff_left fun ⟨same, _⟩ => apart (congrArg some same.symm)
  · exact untold b r waits fun same => fresh b r (congrArg some same.symm) waits

/-! ## Operations -/

section

variable [DecidableEq κ] {ι : Type} {n : Nat} {l : Label κ} {initialiser destructor : List (Op V ι)}

theorem sparing_place (type : (Pooled.layout (V l.kind)).OfType) (value : V l.kind)
    (sparing : Sparing (run destructor)) : Sparing (step (.place n l value destructor)) := by
  intro s order
  cases order.ask n l.kind type with
  | @granted block got own asked new waiting told =>
    rw [step_place_of_granted s got]
    have waits := (waiting block _).2 (.inr ⟨rfl, rfl⟩)
    have stored := asked.count.store l (some ⟨block, ⟨s.next, value⟩⟩)
      (fun b same => waiting_count.2 (by cases same; exact waits)) sparing
    refine .granted own new (fun b r => waiting_count.trans (waiting b r)) stored
      fun b r _ apart => ?_
    rw [inquiry, told]
    exact lot_append_nil (lot_allocated apart _ _) (lot_placed apart _)
  | refused got asked waiting untold =>
    rw [step_place_of_refused s got]
    exact .of_same asked.count (fun b r => waiting_count.trans (waiting b r))
      fun b _ _ => lot_append_nil (untold b) rfl

/-- The block waits for its value while the initialiser runs. Then a box gets it, or it is
released. -/
theorem sparing_placeWith (type : (Pooled.layout (V l.kind)).OfType) (made : Except ι (V l.kind))
    (builds : Sparing (run initialiser)) (sparing : Sparing (run destructor)) :
    Sparing (step (.placeWith n l initialiser made destructor)) := by
  intro s order
  cases order.ask n l.kind type with
  | @granted block got own asked new waiting told =>
    -- The initialiser starts when the block waits already, so it spares this one like any other.
    have built := builds _ asked
    have still := fun b r => (built.same b r).trans (waiting b r)
    have waits := (still block _).2 (.inr ⟨rfl, rfl⟩)
    have quiet : ∀ b, b ≠ block → lot b (s.inquiry n l) = [] := fun b apart => by
      rw [inquiry, told]
      exact lot_allocated apart _ _
    cases made with
    | ok value =>
      rw [step_placeWith_of_made s got]
      have stored := built.order.count.store l
        (some ⟨block,
          ⟨(run initialiser ((site n).asked (Stamped (V l.kind)) s)).state.next, value⟩⟩)
        (fun b same => waiting_count.2 (by cases same; exact waits)) sparing
      refine .granted own new (fun b r => waiting_count.trans (still b r)) stored
        fun b r waits apart => ?_
      have untold := built.untold b r ((waiting b r).2 (.inl waits)) (Option.some_ne_none b).symm
      exact lot_append_nil (lot_append_nil (quiet b apart) untold) (lot_placed apart _)
    | error why =>
      rw [step_placeWith_of_failed s got]
      exact .granted own new waiting (built.release waits own) fun b _ _ apart => quiet b apart
  | refused got asked waiting untold =>
    rw [step_placeWith_of_refused s got]
    exact .of_same asked waiting fun b _ _ => untold b

theorem sparing_take (source : Label κ) (target : Nat) (sparing : Sparing (run destructor)) :
    Sparing (step (.take source target destructor)) := by
  intro s order
  have moved := fun b r => order.waiting_putBox (b := b) (r := r) source none nofun
  have emptied : (s.putBox source none).InOrder := order.putBox nofun
  refine (emptied.store ⟨source.kind, target⟩ (s.boxes source)
    (fun b has => (moved b _).2 (.inr ⟨has, rfl⟩)) sparing).spent (fun b r apart => ?_)
    fun b r has waiting => waiting.unboxed source has
  rw [moved]
  constructor
  · rintro (⟨waiting, -⟩ | ⟨has, -⟩)
    · exact waiting
    · exact absurd has apart
  · exact fun waiting => .inl ⟨waiting, nofun⟩

theorem sparing_reset (sparing : Sparing (run destructor)) : Sparing (step (.reset l destructor)) :=
  fun _ order => order.store l none nofun sparing

theorem sparing_modify (f : V l.kind → V l.kind) : Sparing (step (.modify l f : Op V ι)) := by
  intro s order
  refine .of_same ((tidy_modify f).inOrder order) (fun b r => waiting_congr rfl rfl fun m => ?_)
    fun _ _ _ => rfl
  change ((s.putBox l _).boxes m).map Owned.block = _
  by_cases here : m = l
  · subst here
    rw [putBox_self, Option.map_map]
    rfl
  · rw [putBox_of_ne s here]

theorem sparing_allocate {layout : Layout} (type : layout.OfType) (size : Nat) (tag : Tag) :
    Sparing (step (.allocate n layout type size tag : Op V ι)) := by
  intro s order
  have after := (tidy_allocate (n := n) (ι := ι) type size tag).inOrder order
  obtain ⟨granting, refusing⟩ := (s.arenas n).allocate_events layout size tag
  obtain ⟨sound, -, ⟨block, got, own, live⟩ | ⟨why, got, live⟩⟩ :=
    (s.arenas n).allocate_grants type size tag (order.sound n)
  · have here : block.arena = n := own.trans (order.numbered n)
    have new := sound.offset_ne live
    have fresh : ∀ r, ¬ s.Waiting block r := fun r waiting =>
      new r (here ▸ waiting.live) waiting.place
    rw [step_allocate_of_granted s got] at after ⊢
    refine .of_same after (fun b r => ?_) fun b r waiting => ?_
    · by_cases same : b = block
      · subst same
        refine iff_of_false (fun waiting => ?_) (fresh r)
        exact waiting.unclaimed (.inl (Function.update_self ..))
      · refine (waiting_putLoose same).trans ((order.waiting_grant here rfl new live).trans ?_)
        exact or_iff_left fun known => same known.1
    · have apart : b ≠ block := by
        rintro rfl
        exact fresh r waiting
      dsimp only
      rw [granting block got]
      exact lot_allocated apart _ _
  · rw [step_allocate_of_refused s got] at after ⊢
    exact .of_same after (fun b r => waiting_recount live) fun b _ _ => refusing why got b

theorem sparing_release (block : Block) (tag : Tag) :
    Sparing (step (.release n block tag : Op V ι)) := by
  intro s order
  have after := (tidy_release (n := n) (ι := ι) block tag).inOrder order
  by_cases loose : s.loose block = true
  · have lent : ∀ r, ¬ s.Waiting block r := fun r waiting => waiting.unclaimed (.inl loose)
    have untold : ∀ b r, s.Waiting b r →
        lot b (((s.arenas n).release block tag).events.map .notice) = [] := fun b r waiting =>
      (s.arenas n).release_events block tag fun same => lent r (same ▸ waiting)
    have sound := order.sound n
    obtain ⟨-, -, ⟨r', back, own, place, live⟩ | ⟨why, back, live⟩⟩ :=
      (s.arenas n).release_spends block tag sound
    · have here : block.arena = n := own.trans (order.numbered n)
      rw [step_release_of_taken s loose back] at after ⊢
      refine .of_same after (fun b r => ?_) untold
      by_cases same : b = block
      · subst same
        refine iff_of_false (fun waiting => ?_) (lent r)
        have there := waiting.live
        change r ∈ (((site n).put s _).arenas b.arena).live at there
        rw [arenas_put, if_pos here] at there
        exact sound.offset_ne live r there (waiting.place.trans place.symm)
      · exact (waiting_putLoose same).trans
          ((waiting_yield here place sound live).trans (and_iff_left same))
    · rw [step_release_of_refused s loose back] at after ⊢
      exact .of_same after (fun b r => waiting_recount live) untold
  · rw [step, if_neg loose]
    exact .refl order

mutual

/-- Every operation spares the blocks that wait, whatever its initialiser and destructor do. -/
theorem step_sparing (types : ∀ k, (Pooled.layout (V k)).OfType) : ∀ op : Op V ι, Sparing (step op)
  | .place _ l value destructor =>
    sparing_place (types l.kind) value (run_sparing types destructor)
  | .placeWith _ l initialiser made destructor =>
    sparing_placeWith (types l.kind) made (run_sparing types initialiser)
      (run_sparing types destructor)
  | .take source target destructor => sparing_take source target (run_sparing types destructor)
  | .reset _ destructor => sparing_reset (run_sparing types destructor)
  | .modify _ f => sparing_modify f
  | .allocate _ _ type size tag => sparing_allocate type size tag
  | .release _ block tag => sparing_release block tag

/-- **Every program spares the blocks that wait.** -/
theorem run_sparing (types : ∀ k, (Pooled.layout (V k)).OfType) :
    ∀ ops : List (Op V ι), Sparing (run ops)
  | [] => fun _ order => .refl order
  | op :: ops => fun s order => (run_sparing types ops).andThen (step_sparing types op s order)

end

end

end Estate

end PacketRadio.Pool
