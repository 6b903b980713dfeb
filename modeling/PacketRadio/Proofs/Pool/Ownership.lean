import PacketRadio.Proofs.Pool.Ledger
import PacketRadio.Proofs.Pool.Upkeep
import PacketRadio.Scenario.Sample

/-!
# Single ownership

Programs that use boxes start with empty ones, over arenas in any state. Then whatever they do, every
value that was placed in a block is still in one box, in that block, or was destroyed there, once; and
every block of a box is live in its arena, so that it can be given up.
-/

namespace PacketRadio.Pool

namespace Estate

variable {κ : Type} {V : κ → Type}

/-- Box `l` owns the value with number `i`, which lies in `block`. -/
def Owns (s : Estate V) (l : Label κ) (i : Nat) (block : Block) : Prop :=
  Stamped.held (s.boxes l) = some (i, block)

/-- No box owns anything yet. The arenas have served any calls before, and others hold live blocks
only. -/
structure Founded (s : Estate V) : Prop where
  opened : ∀ n, (s.arenas n).Opened
  numbered : ∀ n, (s.arenas n).id = n
  empty : ∀ l, s.boxes l = none
  loose : ∀ b, s.loose b = true → ∃ r ∈ (s.arenas b.arena).live, r.offset = b.offset
  first : s.next = 0

/-- Values and blocks have one owner, and it looks after them. -/
structure SingleOwnership [∀ k, Pooled (V k)] (deeds : List Deed) (s : Estate V) : Prop where
  /-- What was placed was destroyed there, once, or one box still owns it there. -/
  placed : ∀ i b, .placed i b ∈ deeds →
    (history i deeds = [.placed i b, .destroyed i b] ∧ ∀ l b', ¬ s.Owns l i b') ∨
      (history i deeds = [.placed i b] ∧ ∃ l, s.Owns l i b ∧ ∀ m b', s.Owns m i b' → m = l)
  /-- What is owned lies where it was placed. -/
  owned : ∀ l i b, s.Owns l i b → history i deeds = [.placed i b]
  /-- Nothing is destroyed but what was placed, and where it was placed. -/
  destroyed : ∀ i b, .destroyed i b ∈ deeds → history i deeds = [.placed i b, .destroyed i b]
  /-- What is handed back was not placed and is not destroyed. -/
  returned : ∀ i, .returned i ∈ deeds → history i deeds = [.returned i]
  apart : ∀ l m i j b, s.Owns l i b → s.Owns m j b → l = m
  live : ∀ l i b, s.Owns l i b → (s.arenas b.arena).Hosts (V l.kind) b
  faultless : Faultless deeds

/-! ## The start -/

/-- To begin with, others have what is loose. -/
def custodyOfOthers (s : Estate V) : Custody κ := fun b =>
  if s.loose b then ((s.arenas b.arena).recordAt? b.offset).map (·, .others) else none

namespace Founded

variable {s : Estate V}

theorem accounted (founded : s.Founded) : Accounted none [] s := by
  refine ⟨fun _ => .ahead, fun _ => rfl, fun i => ?_, fun i l b => ?_, fun i b => ⟨nofun, nofun⟩⟩
  · rw [founded.first]
    simp
  · rw [founded.empty]
    exact ⟨nofun, nofun⟩

theorem orderly [∀ k, Pooled (V k)] (founded : s.Founded) : Orderly s.custodyOfOthers s := by
  refine ⟨fun n => (founded.opened n).sound, founded.numbered, fun b r w had => ?_,
    fun l owned holds => ?_, fun b held => ?_⟩
  · unfold custodyOfOthers at had
    split at had
    · obtain ⟨r', found, same⟩ := Option.map_eq_some_iff.1 had
      cases same
      exact (Arena.recordAt?_eq_some found).symm
    · cases had
  · rw [founded.empty] at holds
    cases holds
  · obtain ⟨r, live, place⟩ := founded.loose b held
    have found := (founded.opened b.arena).sound.recordAt? live
    rw [place] at found
    exact ⟨r, by rw [custodyOfOthers, if_pos held, found]; rfl⟩

end Founded

/-! ## What follows -/

variable {deeds : List Deed} {s : Estate V}

theorem Owns.boxes {l : Label κ} {i : Nat} {b : Block} (owns : s.Owns l i b) :
    ∃ v, s.boxes l = some ⟨b, ⟨i, v⟩⟩ := by
  obtain ⟨⟨block, stamped⟩, holds, same⟩ := Option.map_eq_some_iff.1 owns
  cases same
  exact ⟨stamped.value, holds⟩

/-- What was placed is gone, or it is in one box. -/
theorem Account.placed {at_ : Nat → Whereabouts κ} (account : Account at_ none deeds s) {i : Nat}
    {b : Block} (member : .placed i b ∈ deeds) :
    (history i deeds = [.placed i b, .destroyed i b] ∧ ∀ l b', ¬ s.Owns l i b') ∨
      (history i deeds = [.placed i b] ∧ ∃ l, s.Owns l i b ∧ ∀ m b', s.Owns m i b' → m = l) := by
  have told := account.told member (beq_self_eq_true i)
  rw [account.past]
  obtain ⟨l, here⟩ | inHand | gone := Whereabouts.placed_mem_past.1 told
  · rw [here]
    refine .inr ⟨rfl, l, (account.boxed i l b).1 here, fun m b' owns => ?_⟩
    have there := (account.boxed i m b').2 owns
    rw [here] at there
    cases there
    rfl
  · cases (account.inHand i b).1 inHand
  · rw [gone]
    refine .inl ⟨rfl, fun l b' owns => ?_⟩
    have there := (account.boxed i l b').2 owns
    rw [gone] at there
    cases there

theorem SingleOwnership.of [∀ k, Pooled (V k)] {c : Custody κ} (accounted : Accounted none deeds s)
    (orderly : Orderly c s) (faultless : Faultless deeds) : SingleOwnership deeds s := by
  obtain ⟨at_, account⟩ := accounted
  refine {
    placed := fun i b member => account.placed member
    owned := fun l i b owns => ?_
    destroyed := fun i b member => ?_
    returned := fun i member => ?_
    apart := fun l m i j b mine others => ?_
    live := fun l i b owns => ?_
    faultless := faultless }
  · rw [account.past, (account.boxed i l b).2 owns]
    rfl
  · have told := account.told member (beq_self_eq_true i)
    rw [account.past, Whereabouts.destroyed_mem_past.1 told]
    rfl
  · have told := account.told member (beq_self_eq_true i)
    rw [account.past, Whereabouts.returned_mem_past.1 told]
    rfl
  · obtain ⟨v, mine⟩ := mine.boxes
    obtain ⟨w, others⟩ := others.boxes
    have had := (orderly.boxes l _ mine).symm.trans (orderly.boxes m _ others)
    exact Holder.box.inj (congrArg Prod.snd (Option.some.inj had))
  · obtain ⟨v, mine⟩ := owns.boxes
    exact ⟨(orderly.numbered _).symm, (orderly.live _ _ _ (orderly.boxes l _ mine)).2⟩

section

variable [∀ k, Pooled (V k)] [DecidableEq κ] {ι : Type}

theorem events_run_append (ops more : List (Op V ι)) (s : Estate V) :
    (run (ops ++ more) s).events =
      (run ops s).events ++ (run more (run ops s).state).events := by
  induction ops generalizing s with
  | nil => rfl
  | cons op ops ih =>
    change (step op s).events ++ (run (ops ++ more) (step op s).state).events = _
    rw [ih, ← List.append_assoc]
    rfl

/-- **Every value has one owner until it is destroyed, and one place.** Whatever a program has done
and does further: each value lies where it was placed, in one box, or was destroyed there, once; and
no block of a box is ever given up in vain. -/
theorem run_single_ownership (types : ∀ k, (Pooled.layout (V k)).OfType) {s : Estate V}
    (founded : s.Founded) (ops more : List (Op V ι)) :
    SingleOwnership (run ops s).events (run ops s).state ∧
      ∀ l i b, (run ops s).state.Owns l i b →
        (∀ m b', (run (ops ++ more) s).state.Owns m i b' → b' = b) ∧
          ∀ b', .destroyed i b' ∈ (run (ops ++ more) s).events → b' = b := by
  have owned : ∀ ops : List (Op V ι), SingleOwnership (run ops s).events (run ops s).state := by
    intro ops
    obtain ⟨faultless, c, orderly, -⟩ := run_tidy types ops _ s founded.orderly
    exact .of (run_balanced ops [] s founded.accounted) orderly faultless
  refine ⟨owned ops, fun l i b owns => ?_⟩
  have before := (owned ops).owned l i b owns
  have later : history i (run (ops ++ more) s).events =
      .placed i b :: history i (run more (run ops s).state).events := by
    rw [events_run_append, history_append, before]
    rfl
  refine ⟨fun m b' owns' => ?_, fun b' member => ?_⟩
  · have now := (owned (ops ++ more)).owned m i b' owns'
    rw [later] at now
    exact (Deed.placed.inj (List.cons.inj now).1).2.symm
  · have now := (owned (ops ++ more)).destroyed i b' member
    rw [later] at now
    exact (Deed.placed.inj (List.cons.inj now).1).2.symm

end

/-! ## Samples in boxes -/

open Scenario

/-- The kinds of samples that have the layout of a type. -/
abbrev TypedKind := { kind : SampleKind // kind.layout.OfType }

/-- Empty boxes for samples, and arenas in which nothing has happened. -/
def ofSamples : Estate fun kind : TypedKind => Sample kind.1 where
  arenas n := Arena.fresh n 4096 1024
  boxes _ := none
  loose _ := false
  next := 0

theorem ofSamples_founded : ofSamples.Founded where
  opened n := ⟨n, 4096, 1024, _, _, [], rfl, rfl⟩
  numbered _ := rfl
  empty _ := rfl
  loose _ := nofun
  first := rfl

/-- A sample is placed while another one is being made, and finds no room. Then the one that was made
is overwritten, and its destructor asks for a block. -/
theorem samples_single_ownership :
    let probe : TypedKind := ⟨.probe, 2, rfl⟩
    let big : TypedKind := ⟨.big, 2, rfl⟩
    let ops : List (Op (fun kind : TypedKind => Sample kind.1) Unit) :=
      [.place 1 ⟨probe, 0⟩ ⟨7⟩ [],
        .placeWith 1 ⟨probe, 1⟩ [.place 2 ⟨big, 0⟩ ⟨8⟩ []] (.ok ⟨9⟩) []]
    let more : List (Op (fun kind : TypedKind => Sample kind.1) Unit) :=
      [.take ⟨probe, 0⟩ 1 [.allocate 1 ⟨8, 8⟩ ⟨3, rfl⟩ 8 .generic]]
    (history 0 (run (ops ++ more) ofSamples).events = [.placed 0 ⟨1, 0⟩] ∧
      history 1 (run (ops ++ more) ofSamples).events = [.returned 1] ∧
      history 2 (run (ops ++ more) ofSamples).events = [.placed 2 ⟨1, 16⟩, .destroyed 2 ⟨1, 16⟩]) ∧
      SingleOwnership (run ops ofSamples).events (run ops ofSamples).state ∧
      ∀ l i b, (run ops ofSamples).state.Owns l i b →
        (∀ m b', (run (ops ++ more) ofSamples).state.Owns m i b' → b' = b) ∧
          ∀ b', .destroyed i b' ∈ (run (ops ++ more) ofSamples).events → b' = b :=
  ⟨by decide, run_single_ownership (fun kind => kind.2) ofSamples_founded _ _⟩

end Estate

end PacketRadio.Pool
