import PacketRadio.Proofs.Pool.Estate

/-!
# Who has which block

While a program runs, every block that somebody has is live in its arena, and one holder has it: a
box, somebody else, or an operation that has taken it out of a box or has just obtained it. What an
operation has it keeps while an initialiser or a destructor runs, whatever that does. So every block
that an owner gives up is live under its tag, and the arena takes it.
-/

namespace PacketRadio.Pool

/-! ## Faults are reported -/

/-- Nothing is reported as a fault. -/
def Faultless (deeds : List Deed) : Prop := ∀ fault, Deed.notice (.fault fault) ∉ deeds

namespace Faultless

theorem nil : Faultless [] := fun _ => List.not_mem_nil

theorem append {deeds more : List Deed} (first : Faultless deeds) (second : Faultless more) :
    Faultless (deeds ++ more) := fun fault member =>
  (List.mem_append.1 member).elim (first fault) (second fault)

theorem of_notices {notices : List Notice} (none : ∀ fault, Notice.fault fault ∉ notices) :
    Faultless (notices.map .notice) := by
  intro fault member
  obtain ⟨notice, there, same⟩ := List.mem_map.1 member
  cases same
  exact none fault there

theorem placed (serial : Nat) (block : Block) : Faultless [.placed serial block] := by
  simp [Faultless]

theorem destroyed (serial : Nat) (block : Block) : Faultless [.destroyed serial block] := by
  simp [Faultless]

theorem returned (serial : Nat) : Faultless [.returned serial] := by
  simp [Faultless]

end Faultless

namespace Arena

theorem allocate_faultless (a : Arena) (layout : Layout) (size : Nat) (tag : Tag) :
    Faultless ((a.allocate layout size tag).events.map .notice) := by
  refine .of_notices fun fault => ?_
  unfold allocate
  split
  · simp [refuseRequest]
  · split
    · simp [refuseRequest]
    · split
      · simp [refuseRequest]
      · split <;> simp [refuseRequest]

theorem release_faultless (a : Arena) (block : Block) (tag : Tag) :
    Faultless ((a.release block tag).events.map .notice) := by
  refine .of_notices fun fault => ?_
  unfold release
  split
  · simp [refuseRelease]
  · split
    · simp [refuseRelease]
    · split <;> simp [refuseRelease]

/-- A block that was taken back from its owner was released without a word more. -/
theorem surrenderOf_faultless {α : Type} [Pooled α] {a : Arena} {block : Block}
    (answer : (a.surrenderOf α block).answer = .ok ()) :
    Faultless ((a.surrenderOf α block).events.map .notice) := by
  have released := a.release_faultless block (Pooled.tag α)
  simp only [surrenderOf, surrender] at answer ⊢
  cases back : (a.release block (Pooled.tag α)).answer with
  | ok => exact released
  | error why =>
    rw [back] at answer
    cases answer

end Arena

/-! ## Custody -/

/-- Who has a block. -/
inductive Holder (κ : Type)
  | box (l : Label κ)
  | others
  /-- An operation that is under way. -/
  | kept

/-- What is known of blocks: the record that the arena keeps, and the holder. -/
abbrev Custody (κ : Type) := Block → Option (Record × Holder κ)

namespace Custody

variable {κ : Type} {c c' c'' : Custody κ} {gone : Option Block}

/-- What operations that are under way have, they keep, except for one block that they may give
away. -/
def Keeps (c : Custody κ) (gone : Option Block) (c' : Custody κ) : Prop :=
  ∀ b r, gone ≠ some b → c b = some (r, .kept) → c' b = some (r, .kept)

theorem Keeps.refl (c : Custody κ) (gone : Option Block) : c.Keeps gone c := fun _ _ _ had => had

theorem Keeps.weaken (keeps : c.Keeps none c') (gone : Option Block) : c.Keeps gone c' :=
  fun b r _ => keeps b r nofun

/-- What goes in the second part was not yet had before, or goes anyway. -/
theorem Keeps.trans {gone' : Option Block} (first : c.Keeps gone c') (second : c'.Keeps gone' c'')
    (apart : ∀ b r, gone' = some b → c b = some (r, .kept) → gone = some b) : c.Keeps gone c'' := by
  intro b r other had
  refine second b r (fun same => ?_) (first b r other had)
  exact other (apart b r same had)

theorem Keeps.update {block : Block} {entry : Option (Record × Holder κ)}
    (apart : ∀ r, c block = some (r, .kept) → gone = some block) :
    c.Keeps gone (Function.update c block entry) := by
  intro b r other had
  rw [Function.update_of_ne (by rintro rfl; exact other (apart r had))]
  exact had

end Custody

namespace Estate

variable {κ : Type} {V : κ → Type} [∀ k, Pooled (V k)]

/-- The arenas are sound, and blocks are had as `c` tells. -/
structure Orderly (c : Custody κ) (s : Estate V) : Prop where
  sound : ∀ n, (s.arenas n).Sound
  numbered : ∀ n, (s.arenas n).id = n
  live : ∀ b r w, c b = some (r, w) → r.offset = b.offset ∧ r ∈ (s.arenas b.arena).live
  boxes : ∀ l owned, s.boxes l = some owned →
    c owned.block = some (owned.block.recordFor (V l.kind), .box l)
  loose : ∀ b, s.loose b = true → ∃ r, c b = some (r, .others)

namespace Orderly

variable {c : Custody κ} {s : Estate V} {block : Block} {r : Record}

theorem count (orderly : Orderly c s) : Orderly c s.count :=
  ⟨orderly.sound, orderly.numbered, orderly.live, orderly.boxes, orderly.loose⟩

/-! ### Arenas -/

/-- An arena in which nobody's block has gone. -/
theorem put (orderly : Orderly c s) {n : Nat} {a : Arena} (sound : a.Sound) (id : a.id = n)
    (stays : ∀ b r w, c b = some (r, w) → b.arena = n → r ∈ a.live) :
    Orderly c ((site n).put s a) := by
  have arena : ∀ m, ((site n).put s a).arenas m = if m = n then a else s.arenas m := fun m =>
    Function.update_apply s.arenas n a m
  refine ⟨fun m => ?_, fun m => ?_, fun b r w had => ?_, orderly.boxes, orderly.loose⟩
  · rw [arena]
    split
    · exact sound
    · exact orderly.sound m
  · rw [arena]
    split
    · rename_i here
      exact id.trans here.symm
    · exact orderly.numbered m
  · obtain ⟨place, there⟩ := orderly.live b r w had
    refine ⟨place, ?_⟩
    rw [arena]
    split
    · rename_i here
      exact stays b r w had here
    · exact there

/-- An arena that has only counted. -/
theorem recount (orderly : Orderly c s) {n : Nat} {a : Arena} (sound : a.Sound)
    (id : a.id = (s.arenas n).id) (live : a.live = (s.arenas n).live) :
    Orderly c ((site n).put s a) := by
  refine orderly.put sound (id.trans (orderly.numbered n)) fun b r w had here => ?_
  rw [live, ← here]
  exact (orderly.live b r w had).2

/-! ### Holders -/

/-- Blocks with one record are one block. -/
theorem block_eq (orderly : Orderly c s) {b b' : Block} {w w' : Holder κ} (had : c b = some (r, w))
    (had' : c b' = some (r, w')) (arena : b.arena = b'.arena) : b = b' := by
  have place := (orderly.live b r w had).1
  have place' := (orderly.live b' r w' had').1
  cases b
  cases b'
  simp only at arena place place'
  rw [arena, ← place, ← place']

/-- What somebody else has is not in a box. -/
theorem unboxed (orderly : Orderly c s) {w : Holder κ} (had : c block = some (r, w)) {l : Label κ}
    (other : w ≠ .box l) {owned : Owned (Stamped (V l.kind))} (holds : s.boxes l = some owned) :
    owned.block ≠ block := by
  intro same
  have had' := orderly.boxes l owned holds
  rw [same, had] at had'
  exact other (congrArg Prod.snd (Option.some.inj had'))

theorem unheld (orderly : Orderly c s) {w : Holder κ} (had : c block = some (r, w))
    (other : w ≠ .others) {b : Block} (held : s.loose b = true) : b ≠ block := by
  rintro rfl
  obtain ⟨r', had'⟩ := orderly.loose b held
  rw [had] at had'
  exact other (congrArg Prod.snd (Option.some.inj had'))

/-- A block changes hands, and the boxes and others have what they had. -/
theorem entrust (orderly : Orderly c s) (entry : Option (Record × Holder κ)) {t : Estate V}
    (arenas : t.arenas = s.arenas)
    (live : ∀ r w, entry = some (r, w) → r.offset = block.offset ∧ r ∈ (s.arenas block.arena).live)
    (boxes : ∀ l owned, t.boxes l = some owned →
      (owned.block = block → entry = some (block.recordFor (V l.kind), .box l)) ∧
        (owned.block ≠ block → s.boxes l = some owned))
    (loose : ∀ b, t.loose b = true →
      (b = block → ∃ r, entry = some (r, .others)) ∧ (b ≠ block → s.loose b = true)) :
    Orderly (Function.update c block entry) t := by
  refine ⟨fun n => arenas ▸ orderly.sound n, fun n => arenas ▸ orderly.numbered n,
    fun b r w had => ?_, fun l owned holds => ?_, fun b held => ?_⟩
  · rw [arenas]
    by_cases same : b = block
    · subst same
      rw [Function.update_self] at had
      exact live r w had
    · rw [Function.update_of_ne same] at had
      exact orderly.live b r w had
  · obtain ⟨here, elsewhere⟩ := boxes l owned holds
    by_cases same : owned.block = block
    · rw [same, Function.update_self]
      exact here same
    · rw [Function.update_of_ne same]
      exact orderly.boxes l owned (elsewhere same)
  · obtain ⟨here, elsewhere⟩ := loose b held
    by_cases same : b = block
    · rw [same, Function.update_self]
      exact here same
    · rw [Function.update_of_ne same]
      exact orderly.loose b (elsewhere same)

/-- What no box has and nobody else, an operation may have, or nobody. -/
theorem keep (orderly : Orderly c s) (entry : Option Record)
    (live : ∀ r, entry = some r → r.offset = block.offset ∧ r ∈ (s.arenas block.arena).live)
    (unboxed : ∀ r l, c block ≠ some (r, .box l)) (unheld : ∀ r, c block ≠ some (r, .others)) :
    Orderly (Function.update c block (entry.map (·, .kept))) s := by
  refine orderly.entrust _ rfl (fun r w given => ?_) (fun l owned holds => ⟨fun same => ?_, fun _ =>
    holds⟩) fun b held => ⟨fun same => ?_, fun _ => held⟩
  · obtain ⟨r', given', same⟩ := Option.map_eq_some_iff.1 given
    cases same
    exact live r given'
  · exact absurd (same ▸ orderly.boxes l owned holds) (unboxed _ l)
  · obtain ⟨r, had⟩ := orderly.loose b held
    exact absurd (same ▸ had) (unheld r)

/-- A block that was handed out is nobody else's. -/
theorem grant (orderly : Orderly c s) {n : Nat} {a : Arena} (sound : a.Sound)
    (id : a.id = (s.arenas n).id) (own : block.arena = (s.arenas n).id)
    (place : r.offset = block.offset) (live : a.live.Perm (r :: (s.arenas n).live)) :
    c block = none ∧ Orderly (Function.update c block (some (r, .kept))) ((site n).put s a) := by
  have here : block.arena = n := own.trans (orderly.numbered n)
  have new : c block = none := by
    cases had : c block with
    | none => rfl
    | some entry =>
      obtain ⟨where_, there⟩ := orderly.live block entry.1 entry.2 had
      have places := sound.offsets_nodup
      rw [(live.map Record.offset).nodup_iff, List.map_cons, List.nodup_cons] at places
      rw [here] at there
      exact absurd (List.mem_map.2 ⟨entry.1, there, where_.trans place.symm⟩) places.1
  have wider := orderly.put sound (id.trans (orderly.numbered n)) fun b r w had at_ =>
    live.mem_iff.2 (List.mem_cons_of_mem _ (at_ ▸ (orderly.live b r w had).2))
  refine ⟨new, wider.keep (some r) (fun r' given => ?_) ?_ ?_⟩
  · cases given
    refine ⟨place, ?_⟩
    change r ∈ (Function.update s.arenas n a block.arena).live
    rw [here, Function.update_self]
    exact live.mem_iff.2 List.mem_cons_self
  · rw [new]
    exact nofun
  · rw [new]
    exact nofun

/-- A block that was taken back is nobody's. -/
theorem yield (orderly : Orderly c s) (kept : c block = some (r, .kept)) {n : Nat} {a : Arena}
    (sound : a.Sound) (id : a.id = (s.arenas n).id) (own : block.arena = (s.arenas n).id)
    (live : (s.arenas n).live.Perm (r :: a.live)) :
    Orderly (Function.update c block none) ((site n).put s a) := by
  have here : block.arena = n := own.trans (orderly.numbered n)
  have ceded : Orderly (Function.update c block none) s :=
    orderly.keep none nofun (by rw [kept]; exact nofun) (by rw [kept]; exact nofun)
  refine ceded.put sound (id.trans (orderly.numbered n)) fun b r' w had at_ => ?_
  by_cases other : b = block
  · rw [other, Function.update_self] at had
    cases had
  · rw [Function.update_of_ne other] at had
    have there := (orderly.live b r' w had).2
    rw [at_] at there
    refine (List.mem_cons.1 (live.mem_iff.1 there)).resolve_left fun same => other ?_
    exact orderly.block_eq (same ▸ had) kept (at_.trans here.symm)

/-! ### Others -/

/-- What an operation has, others may get. -/
theorem lend (orderly : Orderly c s) (had : c block = some (r, .kept)) :
    Orderly (Function.update c block (some (r, .others))) (s.putLoose block true) := by
  refine orderly.entrust _ rfl (fun r' w given => ?_) (fun l owned holds => ⟨fun same => ?_, fun _ =>
    holds⟩) fun b held => ⟨fun _ => ⟨r, rfl⟩, fun apart => ?_⟩
  · cases given
    exact orderly.live block r _ had
  · exact absurd same (orderly.unboxed had nofun holds)
  · change Function.update s.loose block true b = true at held
    rwa [Function.update_of_ne apart] at held

/-- What others give back, an operation has. -/
theorem regain (orderly : Orderly c s) (had : c block = some (r, .others)) :
    Orderly (Function.update c block (some (r, .kept))) (s.putLoose block false) := by
  refine orderly.entrust _ rfl (fun r' w given => ?_) (fun l owned holds => ⟨fun same => ?_, fun _ =>
    holds⟩) fun b held => ⟨fun same => ?_, fun apart => ?_⟩
  · cases given
    exact orderly.live block r _ had
  · exact absurd same (orderly.unboxed had nofun holds)
  · subst same
    change Function.update s.loose b false b = true at held
    rw [Function.update_self] at held
    cases held
  · change Function.update s.loose block false b = true at held
    rwa [Function.update_of_ne apart] at held

/-! ### Boxes -/

variable [DecidableEq κ]

/-- What a box owns is taken out. -/
theorem takeOut (orderly : Orderly c s) (l : Label κ) :
    ∃ c', Orderly c' (s.putBox l none) ∧ c.Keeps none c' ∧ ∀ owned, s.boxes l = some owned →
      c' owned.block = some (owned.block.recordFor (V l.kind), .kept) := by
  cases own : s.boxes l with
  | none =>
    refine ⟨c, ⟨orderly.sound, orderly.numbered, orderly.live, fun m owned holds => ?_,
      orderly.loose⟩, .refl c none, nofun⟩
    exact orderly.boxes m owned (s.holds_of_emptied holds).2
  | some owned =>
    have had := orderly.boxes l owned own
    refine ⟨Function.update c owned.block (some (owned.block.recordFor (V l.kind), .kept)),
      orderly.entrust _ rfl
      (fun r w given => ?_) (fun m other holds => ⟨fun same => ?_, fun _ => ?_⟩)
      fun b held => ⟨fun same => ?_, fun _ => held⟩, .update fun r kept => ?_,
      fun other same => ?_⟩
    · cases given
      exact orderly.live _ _ _ had
    · obtain ⟨apart, holds⟩ := s.holds_of_emptied holds
      exact absurd same (orderly.unboxed had (fun same => apart (Holder.box.inj same).symm) holds)
    · exact (s.holds_of_emptied holds).2
    · exact absurd same (orderly.unheld had nofun held)
    · rw [had] at kept
      cases kept
    · cases same
      exact Function.update_self ..

/-- What an operation has is put into a box. -/
theorem putIn (orderly : Orderly c s) (l : Label κ) (box : Box (Stamped (V l.kind)))
    (kept : ∀ owned, box = some owned →
      c owned.block = some (owned.block.recordFor (V l.kind), .kept)) :
    ∃ c', Orderly c' (s.putBox l box) ∧ c.Keeps (box.map Owned.block) c' := by
  cases box with
  | none =>
    obtain ⟨c', emptied, keeps, -⟩ := orderly.takeOut l
    exact ⟨c', emptied, keeps⟩
  | some owned =>
    have had := kept owned rfl
    refine ⟨Function.update c owned.block (some (owned.block.recordFor (V l.kind), .box l)),
      orderly.entrust _ rfl
      (fun r w given => ?_) (fun m other holds => ?_) fun b held => ⟨fun same => ?_, fun _ => held⟩,
      .update fun r _ => rfl⟩
    · cases given
      exact orderly.live _ _ _ had
    · by_cases here : m = l
      · subst here
        rw [putBox_self] at holds
        cases holds
        exact ⟨fun _ => rfl, fun apart => absurd rfl apart⟩
      · rw [putBox_of_ne s here] at holds
        exact ⟨fun same => absurd same (orderly.unboxed had nofun holds), fun _ => holds⟩
    · exact absurd same (orderly.unheld had nofun held)

/-- A value that was changed where it lies. -/
theorem modify (orderly : Orderly c s) (l : Label κ)
    (f : Stamped (V l.kind) → Stamped (V l.kind)) :
    Orderly c (s.putBox l ((s.boxes l).map (Owned.modify f))) := by
  refine ⟨orderly.sound, orderly.numbered, orderly.live, fun m owned holds => ?_, orderly.loose⟩
  by_cases here : m = l
  · subst here
    rw [putBox_self] at holds
    obtain ⟨before, own, rfl⟩ := Option.map_eq_some_iff.1 holds
    exact orderly.boxes m before own
  · rw [putBox_of_ne s here] at holds
    exact orderly.boxes m owned holds

end Orderly

end Estate

end PacketRadio.Pool
