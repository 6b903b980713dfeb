import PacketRadio.Proofs.Pool.Custody

/-!
# Programs keep estates in order

Whatever operation starts in an estate in order leaves one, without a fault, and takes nothing from
the operations that are under way around it. Initialisers and destructors are programs themselves, so
this holds of operations and of programs together.
-/

namespace PacketRadio.Pool

namespace Estate

variable {κ : Type} {V : κ → Type} [∀ k, Pooled (V k)]

/-- What ends in order and without a fault. Of what operations under way have, no block goes but
`gone`. -/
def Settled (c : Custody κ) (gone : Option Block) (o : Outcome Deed (Estate V) Unit) : Prop :=
  Faultless o.events ∧ ∃ c', Orderly c' o.state ∧ c.Keeps gone c'

/-- What ends in order wherever it starts in order. -/
def Tidy (f : Estate V → Outcome Deed (Estate V) Unit) : Prop :=
  ∀ c s, Orderly c s → Settled c none (f s)

section

variable {c c' : Custody κ} {gone gone' : Option Block} {o : Outcome Deed (Estate V) Unit}

namespace Settled

theorem after (settled : Settled c gone o) {deeds : List Deed} (faultless : Faultless deeds) :
    Settled c gone (o.after deeds) :=
  ⟨faultless.append settled.1, settled.2⟩

/-- What ends in order after something else has come between. -/
theorem since (settled : Settled c' gone' o) (keeps : c.Keeps gone c')
    (apart : ∀ b r, gone' = some b → c b = some (r, .kept) → gone = some b) : Settled c gone o := by
  obtain ⟨faultless, c'', orderly, keeps'⟩ := settled
  exact ⟨faultless, c'', orderly, keeps.trans keeps' apart⟩

end Settled

theorem Tidy.andThen {f : Estate V → Outcome Deed (Estate V) Unit} (tidy : Tidy f)
    (settled : Settled c none o) : Settled c none (o.andThen fun _ s => f s) := by
  obtain ⟨faultless, c', orderly, keeps⟩ := settled
  exact ((tidy c' o.state orderly).since keeps nofun).after faultless

end

/-! ## What boxes own is destroyed -/

namespace Orderly

variable {c : Custody κ} {s : Estate V} {destructor : Estate V → Outcome Deed (Estate V) Unit}

/-- The arena takes back the block of a value from the operation that has it. -/
theorem giveBack (orderly : Orderly c s) {k : κ} {block : Block} {n : Nat} (own : block.arena = n)
    (had : c block = some (block.recordFor (V k), .kept)) :
    let back := (s.arenas n).surrenderOf (Stamped (V k)) block
    Faultless (back.events.map .notice) ∧
      Orderly (Function.update c block none) ((site n).put s back.state) := by
  have hosts : (s.arenas n).Hosts (Stamped (V k)) block :=
    ⟨own.trans (orderly.numbered n).symm, own ▸ (orderly.live _ _ _ had).2⟩
  obtain ⟨answer, sound, id, live⟩ := Arena.surrenderOf_of_hosts (orderly.sound n) hosts
  exact ⟨Arena.surrenderOf_faultless answer, orderly.yield had sound id hosts.own live⟩

/-- The destructor finds the block still there, and so does the release. -/
theorem destroy (orderly : Orderly c s) {k : κ} {box : Box (Stamped (V k))}
    (kept : ∀ owned, box = some owned →
      c owned.block = some (owned.block.recordFor (V k), .kept)) (tidy : Tidy destructor) :
    Settled c (box.map Owned.block) (destroy box destructor s) := by
  cases box with
  | none => exact ⟨.nil, c, orderly, .refl c none⟩
  | some owned =>
    obtain ⟨faultless, c', left, keeps⟩ := tidy c s orderly
    obtain ⟨taken, after⟩ := left.giveBack rfl (keeps _ _ nofun (kept owned rfl))
    refine ⟨((Faultless.destroyed _ _).append faultless).append taken, _, after, ?_⟩
    exact (keeps.weaken _).trans (.update fun _ _ => rfl) fun _ _ same _ => same

variable [DecidableEq κ]

/-- A box is given something else, and what it owned before is destroyed. -/
theorem store (orderly : Orderly c s) (l : Label κ) (box : Box (Stamped (V l.kind)))
    (kept : ∀ owned, box = some owned →
      c owned.block = some (owned.block.recordFor (V l.kind), .kept)) (tidy : Tidy destructor) :
    Settled c (box.map Owned.block) (store l box destructor s) := by
  obtain ⟨c₁, emptied, keeps₁, out⟩ := orderly.takeOut l
  obtain ⟨c₂, filled, keeps₂⟩ := emptied.putIn l box
    fun owned same => keeps₁ _ _ nofun (kept owned same)
  rw [putBox_putBox] at filled
  have old : ∀ owned, s.boxes l = some owned →
      c₂ owned.block = some (owned.block.recordFor (V l.kind), .kept) := by
    intro owned own
    refine keeps₂ _ _ (fun same => ?_) (out owned own)
    obtain ⟨new, given, here⟩ := Option.map_eq_some_iff.1 same
    exact orderly.unboxed (kept new given) nofun own here.symm
  have keeps := (keeps₁.weaken _).trans keeps₂ fun _ _ same _ => same
  refine (filled.destroy old tidy).since keeps fun b r same had => ?_
  obtain ⟨owned, own, here⟩ := Option.map_eq_some_iff.1 same
  exact absurd here (orderly.unboxed had nofun own)

end Orderly

/-! ## Blocks are asked for -/

/-- The operation that asks for a block gets one that nobody has, or the arena has only counted. -/
theorem Orderly.ask {c : Custody κ} {s : Estate V} (orderly : Orderly c s) (n : Nat) (l : Label κ)
    (type : (Pooled.layout (V l.kind)).OfType) :
    Faultless (s.inquiry n l) ∧
      ((∃ block, ((s.arenas n).allocateFor (Stamped (V l.kind))).answer = .ok block ∧
          block.arena = n ∧ c block = none ∧
          Orderly (Function.update c block (some (block.recordFor (V l.kind), .kept)))
            ((site n).asked (Stamped (V l.kind)) s)) ∨
        ∃ why, ((s.arenas n).allocateFor (Stamped (V l.kind))).answer = .error why ∧
          Orderly c ((site n).asked (Stamped (V l.kind)) s)) := by
  refine ⟨(s.arenas n).allocate_faultless _ _ _, ?_⟩
  obtain ⟨sound, id, ⟨block, got, own, live⟩ | ⟨why, got, live⟩⟩ :=
    (s.arenas n).allocateFor_cases (α := Stamped (V l.kind)) type (orderly.sound n)
  · obtain ⟨new, granted⟩ := orderly.grant sound id own rfl live
    exact .inl ⟨block, got, own.trans (orderly.numbered n), new, granted⟩
  · exact .inr ⟨why, got, orderly.recount sound id live⟩

/-! ## Operations -/

section

variable [DecidableEq κ] {ι : Type} {n : Nat} {l : Label κ} {initialiser destructor : List (Op V ι)}

theorem tidy_place (type : (Pooled.layout (V l.kind)).OfType) (value : V l.kind)
    (tidy : Tidy (run destructor)) : Tidy (step (.place n l value destructor)) := by
  intro c s orderly
  obtain ⟨quiet, ⟨block, got, -, new, asked⟩ | ⟨why, got, asked⟩⟩ := orderly.ask n l type
  · rw [step_place_of_granted s got]
    refine ((asked.count.store l _ (fun owned same => ?_) tidy).since (.update fun r had => ?_)
      fun b r same had => ?_).after (quiet.append (.placed _ _))
    · cases same
      exact Function.update_self ..
    · rw [new] at had
      cases had
    · cases same
      rw [new] at had
      cases had
  · rw [step_place_of_refused s got]
    exact ⟨quiet.append (.returned _), c, asked.count, .refl c none⟩

/-- The block waits for its value while the initialiser runs. -/
theorem tidy_placeWith (type : (Pooled.layout (V l.kind)).OfType) (made : Except ι (V l.kind))
    (builds : Tidy (run initialiser)) (tidy : Tidy (run destructor)) :
    Tidy (step (.placeWith n l initialiser made destructor)) := by
  intro c s orderly
  obtain ⟨quiet, ⟨block, got, own, new, asked⟩ | ⟨why, got, asked⟩⟩ := orderly.ask n l type
  · obtain ⟨faultless, c', built, keeps⟩ := builds _ _ asked
    have had := keeps block _ nofun (Function.update_self ..)
    have nobody : ∀ r, c block ≠ some (r, .kept) := by
      rw [new]
      exact nofun
    have waits : c.Keeps none c' :=
      (Custody.Keeps.update fun r had => absurd had (nobody r)).trans keeps nofun
    cases made with
    | ok value =>
      rw [step_placeWith_of_made s got]
      refine ((built.count.store l _ (fun owned same => ?_) tidy).since waits
        fun b r same had => ?_).after ((quiet.append faultless).append (.placed _ _))
      · cases same
        exact had
      · cases same
        exact absurd had (nobody r)
    | error why =>
      rw [step_placeWith_of_failed s got]
      obtain ⟨taken, after⟩ := built.giveBack own had
      have ceded : c'.Keeps (some block) (Function.update c' block none) := .update fun _ _ => rfl
      refine ⟨quiet.append (faultless.append taken), _, after,
        waits.trans ceded fun b r same had => ?_⟩
      cases same
      exact absurd had (nobody r)
  · rw [step_placeWith_of_refused s got]
    exact ⟨quiet, c, asked, .refl c none⟩

theorem tidy_take (source : Label κ) (target : Nat) (tidy : Tidy (run destructor)) :
    Tidy (step (.take source target destructor)) := by
  intro c s orderly
  obtain ⟨c', emptied, keeps, out⟩ := orderly.takeOut source
  refine (emptied.store ⟨source.kind, target⟩ _ out tidy).since keeps fun b r same had => ?_
  obtain ⟨owned, own, here⟩ := Option.map_eq_some_iff.1 same
  exact absurd here (orderly.unboxed (l := source) had nofun own)

theorem tidy_reset (tidy : Tidy (run destructor)) : Tidy (step (.reset l destructor)) :=
  fun _ _ orderly => orderly.store l none nofun tidy

theorem tidy_modify (f : V l.kind → V l.kind) : Tidy (step (.modify l f : Op V ι)) :=
  fun c _ orderly => ⟨.nil, c, orderly.modify l (Stamped.map f), .refl c none⟩

theorem tidy_allocate {layout : Layout} (type : layout.OfType) (size : Nat) (tag : Tag) :
    Tidy (step (.allocate n layout type size tag : Op V ι)) := by
  intro c s orderly
  have quiet := (s.arenas n).allocate_faultless layout size tag
  obtain ⟨sound, id, ⟨block, got, own, live⟩ | ⟨why, got, live⟩⟩ :=
    (s.arenas n).allocate_grants type size tag (orderly.sound n)
  · rw [step_allocate_of_granted s got]
    obtain ⟨new, granted⟩ := orderly.grant sound id own rfl live
    refine ⟨quiet, _, granted.lend (Function.update_self ..), ?_⟩
    rw [Function.update_idem]
    exact .update fun r had => by rw [new] at had; cases had
  · rw [step_allocate_of_refused s got]
    exact ⟨quiet, c, orderly.recount sound id live, .refl c none⟩

theorem tidy_release (block : Block) (tag : Tag) :
    Tidy (step (.release n block tag : Op V ι)) := by
  intro c s orderly
  by_cases loose : s.loose block = true
  · have quiet := (s.arenas n).release_faultless block tag
    obtain ⟨r, had⟩ := orderly.loose block loose
    obtain ⟨sound, id, ⟨r', back, own, place, live⟩ | ⟨why, back, live⟩⟩ :=
      (s.arenas n).release_spends block tag (orderly.sound n)
    · rw [step_release_of_taken s loose back]
      have here : block.arena = n := own.trans (orderly.numbered n)
      have there := orderly.live block r _ had
      have same : r' = r :=
        List.inj_on_of_nodup_map (orderly.sound n).offsets_nodup (live.mem_iff.2 List.mem_cons_self)
          (here ▸ there.2) (place.trans there.1.symm)
      subst same
      have after := (orderly.regain had).yield (Function.update_self ..) sound id own live
      rw [Function.update_idem] at after
      exact ⟨quiet, _, after, .update fun r kept => by rw [had] at kept; cases kept⟩
    · rw [step_release_of_refused s loose back]
      exact ⟨quiet, c, orderly.recount sound id live, .refl c none⟩
  · rw [step, if_neg loose]
    exact ⟨.nil, c, orderly, .refl c none⟩

mutual

/-- Every operation keeps an estate in order, whatever its initialiser and destructor do. -/
theorem step_tidy (types : ∀ k, (Pooled.layout (V k)).OfType) : ∀ op : Op V ι, Tidy (step op)
  | .place _ l value destructor => tidy_place (types l.kind) value (run_tidy types destructor)
  | .placeWith _ l initialiser made destructor =>
    tidy_placeWith (types l.kind) made (run_tidy types initialiser) (run_tidy types destructor)
  | .take source target destructor => tidy_take source target (run_tidy types destructor)
  | .reset _ destructor => tidy_reset (run_tidy types destructor)
  | .modify _ f => tidy_modify f
  | .allocate _ _ type size tag => tidy_allocate type size tag
  | .release _ block tag => tidy_release block tag

/-- **Every program keeps an estate in order.** -/
theorem run_tidy (types : ∀ k, (Pooled.layout (V k)).OfType) : ∀ ops : List (Op V ι), Tidy (run ops)
  | [] => fun c _ orderly => ⟨.nil, c, orderly, .refl c none⟩
  | op :: ops => fun c s orderly => (run_tidy types ops).andThen (step_tidy types op c s orderly)

end

end

end Estate

end PacketRadio.Pool
