import PacketRadio.Proofs.Pool.Ownership
import PacketRadio.Proofs.Pool.Waiting

/-!
# Values that are made in place

A value is made for a block that was obtained before. The initialiser may do whatever programs do,
to the same arena and with initialisers of its own, down to any depth; its block waits meanwhile. If
it fails, the block is released, and all that is left is what the initialiser has left in boxes. If
it succeeds, there is one block more, at the address that was obtained in the beginning. Without a
block it does not run.
-/

namespace PacketRadio.Pool

namespace Estate

variable {κ : Type} {V : κ → Type} {ι ζ : Type}

section

variable {k : κ} {built : Outcome Deed (Estate V) (Except ι (V k))}

theorem andThen_stamp_of_made {value : V k} (made : built.answer = .ok value) :
    built.andThen stamp = ⟨.ok ⟨built.state.next, value⟩, built.state.count, built.events⟩ := by
  simp only [Outcome.andThen, made, stamp, Outcome.quiet, Outcome.after, List.append_nil]

theorem andThen_stamp_of_failed {why : ι} (made : built.answer = .error why) :
    built.andThen stamp = ⟨.error why, built.state, built.events⟩ := by
  simp only [Outcome.andThen, made, stamp, Outcome.quiet, Outcome.after, List.append_nil]

end

variable [∀ k, Pooled (V k)]

/-- What the initialiser does if it gets to run. The block has been obtained then. -/
def building {k : κ} (n : Nat) (init : Estate V → Outcome Deed (Estate V) (Except ι (V k)))
    (s : Estate V) : Outcome Deed (Estate V) (Except ι (V k)) :=
  init ((site n).asked (Stamped (V k)) s)

section

variable [DecidableEq κ]

/-- Wherever the initialiser runs, it does what some program does. What it answers may depend on
anything. -/
def ActsAsProgram (ζ : Type) {α : Type} (init : Estate V → Outcome Deed (Estate V) α) : Prop :=
  ∀ s, ∃ ops : List (Op V ζ), (init s).map (fun _ => ()) = run ops s

/-- An estate that a program comes to, or one of its initialisers or destructors finds. -/
inductive Reached (ζ : Type) : Estate V → Prop
  | founded {s : Estate V} (founded : s.Founded) : Reached ζ s
  | ran {s : Estate V} (reached : Reached ζ s) (ops : List (Op V ζ)) : Reached ζ (run ops s).state
  /-- The initialiser of a value of kind `k` is about to run. -/
  | asked {s : Estate V} (reached : Reached ζ s) (n : Nat) (k : κ) :
      Reached ζ ((site n).asked (Stamped (V k)) s)
  /-- The value of box `l` is about to be destroyed. -/
  | emptied {s : Estate V} (reached : Reached ζ s) (l : Label κ) : Reached ζ (s.putBox l none)

theorem Reached.inOrder {s : Estate V} (types : ∀ k, (Pooled.layout (V k)).OfType)
    (reached : Reached ζ s) : s.InOrder := by
  induction reached with
  | founded founded => exact ⟨_, founded.orderly⟩
  | ran reached ops ih => exact (run_tidy types ops).inOrder ih
  | asked reached n k ih =>
    cases ih.ask n k (types k) with
    | granted _ _ order => exact order
    | refused _ order => exact order
  | emptied reached l ih => exact ih.putBox nofun

end

/-! ## What is live -/

/-- The record is that of a box's block in arena `n`. -/
def Boxed (s : Estate V) (n : Nat) (r : Record) : Prop :=
  ∃ l b, (s.boxes l).map Owned.block = some b ∧ b.arena = n ∧ r = b.recordFor (V l.kind)

/-- The record is that of a block in arena `n` that others hold. -/
def Lent (s : Estate V) (n : Nat) (r : Record) : Prop :=
  r ∈ (s.arenas n).live ∧ s.loose ⟨n, r.offset⟩ = true

/-- What is live, boxes have, or others have, or it waits. -/
theorem InOrder.live_iff {s : Estate V} (order : s.InOrder) (n : Nat) (r : Record) :
    r ∈ (s.arenas n).live ↔ s.Boxed n r ∨ s.Lent n r ∨ s.Waiting ⟨n, r.offset⟩ r := by
  constructor
  · intro live
    by_cases claimed : s.Claims ⟨n, r.offset⟩
    · rcases claimed with held | ⟨l, has⟩
      · exact .inr (.inl ⟨live, held⟩)
      · exact .inl ⟨l, _, has, rfl, order.record_eq live (order.boxed has) rfl⟩
    · exact .inr (.inr ⟨rfl, live, claimed⟩)
  · rintro (⟨l, b, has, rfl, rfl⟩ | ⟨live, -⟩ | waiting)
    · exact order.boxed has
    · exact live
    · exact waiting.live

/-! ## What comes of it -/

/-- The arena reports the block of a value as handed out. -/
def handOut (α : Type) [Pooled α] (block : Block) : Deed :=
  .notice (.allocated (Pooled.tag α) (Pooled.layout α).size block.location)

/-- The arena reports the block of a value as taken back. -/
def takeBack (α : Type) [Pooled α] (block : Block) : Deed :=
  .notice (.released (Pooled.tag α) (Pooled.layout α).size block.location)

section

variable {k : κ} (n : Nat) (s : Estate V)

/-- There was no block, and the initialiser did not run. -/
structure Refused (k : κ) (why : Refusal)
    (o : Outcome Deed (Estate V) (Except (BuildError ι) (Owned (Stamped (V k))))) : Prop where
  answer : o.answer = .error (.pool why)
  /-- The outcome is the same with any initialiser. -/
  unrun : ∀ init : Estate V → Outcome Deed (Estate V) (Except ι (V k)), construct n init s = o
  /-- The arena counts the request, and nothing else changes. -/
  counted : o.state = (site n).put s { s.arenas n with
    stats.failedAllocations := (s.arenas n).stats.failedAllocations + 1 }

/-- The initialiser failed. -/
structure Failed (block : Block) (built : Outcome Deed (Estate V) (Except ι (V k))) (why : ι)
    (o : Outcome Deed (Estate V) (Except (BuildError ι) (Owned (Stamped (V k))))) : Prop where
  answer : o.answer = .error (.init why)
  /-- The block is handed out first and taken back last. Nothing is destroyed but what the
  initialiser destroys. -/
  events : o.events = handOut (V k) block :: (built.events ++ [takeBack (V k) block])
  /-- The block is taken back once, and no value is placed or destroyed in it. -/
  once : lot block o.events = [handOut (V k) block, takeBack (V k) block]
  /-- Boxes and others have what the initialiser has left to them. -/
  owners : o.state.boxes = built.state.boxes ∧ o.state.loose = built.state.loose
  released : (built.state.arenas n).live.Perm
    (block.recordFor (V k) :: (o.state.arenas n).live)
  elsewhere : ∀ m, m ≠ n → o.state.arenas m = built.state.arenas m
  order : o.state.InOrder
  /-- What is live, boxes have, or others, or it waited before. -/
  live : ∀ m r, r ∈ (o.state.arenas m).live ↔
    o.state.Boxed m r ∨ o.state.Lent m r ∨ s.Waiting ⟨m, r.offset⟩ r

/-- The initialiser succeeded. -/
structure Made (block : Block) (built : Outcome Deed (Estate V) (Except ι (V k))) (value : V k)
    (o : Outcome Deed (Estate V) (Except (BuildError ι) (Owned (Stamped (V k))))) : Prop where
  answer : o.answer = .ok ⟨block, ⟨built.state.next, value⟩⟩
  events : o.events = handOut (V k) block :: built.events
  once : lot block o.events = [handOut (V k) block]
  state : o.state = built.state.count
  order : o.state.InOrder
  /-- The block was not live before, and nobody else has it now. -/
  new : (∀ r ∈ (s.arenas n).live, r.offset ≠ block.offset) ∧ ¬ o.state.Claims block
  /-- What is live, boxes have, or others, or it waited before, or it is the block of the value. -/
  live : ∀ m r, r ∈ (o.state.arenas m).live ↔
    o.state.Boxed m r ∨ o.state.Lent m r ∨ s.Waiting ⟨m, r.offset⟩ r ∨
      (m = n ∧ r = block.recordFor (V k))

/-- How a value is made in place by `init`. -/
structure Constructs (init : Estate V → Outcome Deed (Estate V) (Except ι (V k))) : Prop where
  refused : ∀ why, (construct n init s).answer = .error (.pool why) ↔
    ((s.arenas n).allocateFor (Stamped (V k))).answer = .error why
  unrun : ∀ why, ((s.arenas n).allocateFor (Stamped (V k))).answer = .error why →
    Refused n s k why (construct n init s)
  failed : ∀ block why, ((s.arenas n).allocateFor (Stamped (V k))).answer = .ok block →
    (building n init s).answer = .error why →
      Failed n s block (building n init s) why (construct n init s)
  made : ∀ block value, ((s.arenas n).allocateFor (Stamped (V k))).answer = .ok block →
    (building n init s).answer = .ok value →
      Made n s block (building n init s) value (construct n init s)
  /-- With an initialiser that touches no arena, it comes to what moving the value in does. -/
  plain : ∀ value, let built := building n init s
    built.answer = .ok value → built.state.arenas = ((site n).asked (Stamped (V k)) s).arenas →
      let placed := (s.arenas n).place (⟨built.state.next, value⟩ : Stamped (V k))
      (∀ owned, (construct n init s).answer = .ok owned ↔ placed.answer = .ok owned) ∧
        (construct n init s).state.arenas = ((site n).put s placed.state).arenas

end

/-! ## The ways it can go -/

section

variable {k : κ} {n : Nat} {s : Estate V} {block : Block}
  {init : Estate V → Outcome Deed (Estate V) (Except ι (V k))}

theorem construct_of_refused {why : Refusal}
    (got : ((s.arenas n).allocateFor (Stamped (V k))).answer = .error why)
    (init : Estate V → Outcome Deed (Estate V) (Except ι (V k))) :
    construct n init s =
      ⟨.error (.pool why), (site n).asked (Stamped (V k)) s,
        ((s.arenas n).allocateFor (Stamped (V k))).events.map .notice⟩ :=
  (site n).placeWith_of_refused Deed.notice s _ got

/-- With a block, it is what the initialiser makes that decides. -/
theorem construct_of_granted
    (got : ((s.arenas n).allocateFor (Stamped (V k))).answer = .ok block) :
    construct n init s =
      (((building n init s).andThen stamp).andThen fun made s =>
        (site n).settle Deed.notice block s made).after
        (((s.arenas n).allocateFor (Stamped (V k))).events.map .notice) := by
  have asked : (((s.arenas n).allocateFor (Stamped (V k))).mapEvents Deed.notice).answer =
      .ok block := got
  simp only [construct, ArenaIn.placeWith, Outcome.andThen, Outcome.within_answer, site, asked]
  rfl

theorem construct_of_made {value : V k}
    (got : ((s.arenas n).allocateFor (Stamped (V k))).answer = .ok block)
    (made : (building n init s).answer = .ok value) :
    construct n init s =
      let built := building n init s
      ⟨.ok ⟨block, ⟨built.state.next, value⟩⟩, built.state.count,
        ((s.arenas n).allocateFor (Stamped (V k))).events.map .notice ++ built.events⟩ := by
  rw [construct_of_granted got, andThen_stamp_of_made made]
  simp only [Outcome.andThen, ArenaIn.settle, Outcome.quiet, Outcome.after, List.append_nil]

theorem construct_of_failed {why : ι}
    (got : ((s.arenas n).allocateFor (Stamped (V k))).answer = .ok block)
    (made : (building n init s).answer = .error why) :
    construct n init s =
      let built := building n init s
      let back := (built.state.arenas n).surrenderOf (Stamped (V k)) block
      ⟨match back.answer with
        | .ok () => .error (.init why)
        | .error fault => .error (.fault fault),
        (site n).put built.state back.state,
        ((s.arenas n).allocateFor (Stamped (V k))).events.map .notice ++
          (built.events ++ back.events.map .notice)⟩ := by
  rw [construct_of_granted got, andThen_stamp_of_failed made]
  rfl

/-- The initialiser has run, and its block has waited. -/
structure Pending (n : Nat) (k : κ) (s : Estate V) (block : Block)
    (built : Outcome Deed (Estate V) (Except ι (V k))) : Prop where
  own : block.arena = n
  new : ∀ r ∈ (s.arenas n).live, r.offset ≠ block.offset
  told : ((s.arenas n).allocateFor (Stamped (V k))).events.map .notice = [handOut (V k) block]
  order : built.state.InOrder
  waiting : ∀ b r, built.state.Waiting b r ↔
    s.Waiting b r ∨ (b = block ∧ r = block.recordFor (V k))
  untold : lot block built.events = []

theorem InOrder.pending [DecidableEq κ] (types : ∀ k, (Pooled.layout (V k)).OfType)
    (order : s.InOrder) (acts : ActsAsProgram ζ init)
    (got : ((s.arenas n).allocateFor (Stamped (V k))).answer = .ok block) :
    Pending n k s block (building n init s) := by
  cases order.ask n k (types k) with
  | refused not => cases got.symm.trans not
  | granted got' own asked new waiting told =>
    cases got.symm.trans got'
    obtain ⟨ops, same⟩ := acts ((site n).asked (Stamped (V k)) s)
    have left := run_sparing types ops _ asked
    rw [← same] at left
    have waits := (waiting block _).2 (.inr ⟨rfl, rfl⟩)
    exact ⟨own, new, congrArg _ told, left.order, fun b r => (left.same b r).trans (waiting b r),
      left.untold block _ waits (Option.some_ne_none block).symm⟩

theorem lot_handOut (block : Block) : lot block [handOut (V k) block] = [handOut (V k) block] :=
  List.filter_cons_of_pos (beq_self_eq_true block.location)

theorem lot_takeBack (block : Block) : lot block [takeBack (V k) block] = [takeBack (V k) block] :=
  List.filter_cons_of_pos (beq_self_eq_true block.location)

variable {built : Outcome Deed (Estate V) (Except ι (V k))}

/-- The block waits after the initialiser. -/
theorem Pending.waits (pending : Pending n k s block built) :
    built.state.Waiting block (block.recordFor (V k)) :=
  (pending.waiting block _).2 (.inr ⟨rfl, rfl⟩)

/-- The block did not wait before it was handed out. -/
theorem Pending.fresh (pending : Pending n k s block built) (r : Record) : ¬ s.Waiting block r :=
  fun waiting => pending.new r (pending.own ▸ waiting.live) waiting.place

theorem refused_of_refused {why : Refusal}
    (got : ((s.arenas n).allocateFor (Stamped (V k))).answer = .error why) :
    Refused n s k why (construct n init s) := by
  refine ⟨?_, fun other => ?_, ?_⟩
  · rw [construct_of_refused got]
  · rw [construct_of_refused got, construct_of_refused got]
  · rw [construct_of_refused got]
    rcases (s.arenas n).allocate_cases (Pooled.layout (V k)) _ (Pooled.tag (V k)) with
      ⟨_, _, -, -, -, granted, -⟩ | ⟨_, -, same⟩
    · cases got.symm.trans granted
    · exact congrArg ((site n).put s) same

theorem Pending.failed {why : ι} (pending : Pending n k s block (building n init s))
    (got : ((s.arenas n).allocateFor (Stamped (V k))).answer = .ok block)
    (made : (building n init s).answer = .error why) :
    Failed n s block (building n init s) why (construct n init s) := by
  obtain ⟨back, order, fewer, live, told⟩ := pending.order.giveBack pending.waits pending.own
  rw [construct_of_failed got made, pending.told]
  simp only [back, told]
  refine {
    answer := rfl
    events := rfl
    once := ?_
    owners := ⟨rfl, rfl⟩
    released := ?_
    elsewhere := fun m apart => by rw [arenas_put, if_neg apart]
    order := order
    live := fun m r => ?_ }
  · rw [lot_append, lot_append, pending.untold, lot_handOut]
    exact congrArg _ (lot_takeBack block)
  · rw [arenas_put, if_pos rfl]
    exact live
  -- The block that was taken back is the only one that had come to wait.
  · have waited : ∀ b r,
        (building n init s).state.Waiting b r ∧ b ≠ block ↔ s.Waiting b r := fun b r => by
      rw [pending.waiting]
      constructor
      · rintro ⟨waiting | ⟨here, -⟩, apart⟩
        · exact waiting
        · exact absurd here apart
      · exact fun waiting => ⟨.inl waiting, fun here => pending.fresh r (here ▸ waiting)⟩
    rw [order.live_iff, fewer, waited]

theorem Pending.made (pending : Pending n k s block (building n init s))
    {value : V k} (got : ((s.arenas n).allocateFor (Stamped (V k))).answer = .ok block)
    (made : (building n init s).answer = .ok value) :
    Made n s block (building n init s) value (construct n init s) := by
  rw [construct_of_made got made, pending.told]
  have order := pending.order.count
  refine {
    answer := rfl
    events := rfl
    once := ?_
    state := rfl
    order := order
    new := ⟨pending.new, pending.waits.unclaimed⟩
    live := fun m r => ?_ }
  · rw [lot_append, pending.untold, lot_handOut]
    rfl
  · have here : (⟨m, r.offset⟩ = block ∧ r = block.recordFor (V k)) ↔
        m = n ∧ r = block.recordFor (V k) := by
      rw [← pending.own]
      constructor
      · rintro ⟨rfl, same⟩
        exact ⟨rfl, same⟩
      · rintro ⟨rfl, rfl⟩
        exact ⟨rfl, rfl⟩
    rw [order.live_iff, waiting_count, pending.waiting, here]

/-- Where the arenas stay as they were, only the request counts. -/
theorem construct_plain {value : V k}
    (made : (building n init s).answer = .ok value)
    (same : (building n init s).state.arenas =
      ((site n).asked (Stamped (V k)) s).arenas) :
    let placed := (s.arenas n).place
      (⟨(building n init s).state.next, value⟩ : Stamped (V k))
    (∀ owned, (construct n init s).answer = .ok owned ↔ placed.answer = .ok owned) ∧
      (construct n init s).state.arenas = ((site n).put s placed.state).arenas := by
  cases got : ((s.arenas n).allocateFor (Stamped (V k))).answer with
  | error why =>
    rw [construct_of_refused got]
    refine ⟨fun owned => ?_, rfl⟩
    simp only [Arena.place, Outcome.map_answer, got]
    constructor <;> intro answer <;> cases answer
  | ok block =>
    rw [construct_of_made got made]
    refine ⟨fun owned => ?_, same⟩
    simp only [Arena.place, Outcome.map_answer, got]
    constructor <;> intro answer <;> cases answer <;> rfl

/-- **Making a value in place works whatever the initialiser does.** -/
theorem Reached.constructs [DecidableEq κ] (types : ∀ k, (Pooled.layout (V k)).OfType)
    (reached : Reached ζ s) (n : Nat) (acts : ActsAsProgram ζ init) : Constructs n s init := by
  have order := reached.inOrder types
  refine {
    refused := fun why => ⟨fun answer => ?_, fun got => (refused_of_refused got).answer⟩
    unrun := fun why got => refused_of_refused got
    failed := fun block why got made => (order.pending types acts got).failed got made
    made := fun block value got made => (order.pending types acts got).made got made
    plain := fun value made same => construct_plain made same }
  cases got : ((s.arenas n).allocateFor (Stamped (V k))).answer with
  | error other =>
    cases (refused_of_refused got).answer.symm.trans answer
    rfl
  | ok block =>
    have pending := order.pending types acts got
    cases made : (building n init s).answer with
    | error other => cases (pending.failed got made).answer.symm.trans answer
    | ok value => cases (pending.made got made).answer.symm.trans answer

end

/-! ## Samples that are made in place -/

open Scenario

/-- The initialiser of a probe keeps one, and fails. Within it another one is made, whose
initialiser keeps a probe and fails too. -/
theorem samples_constructs :
    let probe : TypedKind := ⟨.probe, 2, rfl⟩
    let inner : List (Op (fun kind : TypedKind => Sample kind.1) Unit) :=
      [.place 1 ⟨probe, 0⟩ ⟨7⟩ []]
    let outer : List (Op (fun kind : TypedKind => Sample kind.1) Unit) :=
      [.placeWith 1 ⟨probe, 1⟩ inner (.error ()) [], .place 1 ⟨probe, 2⟩ ⟨8⟩ []]
    let init : Estate (fun kind : TypedKind => Sample kind.1) →
        Outcome Deed _ (Except Unit (Sample probe.1)) :=
      fun s => (run outer s).map fun _ => .error ()
    (((construct (k := probe) 1 init ofSamples).state.arenas 1).live.map Record.offset = [16, 32] ∧
      lot ⟨1, 0⟩ (construct (k := probe) 1 init ofSamples).events =
        [handOut (Sample probe.1) ⟨1, 0⟩, takeBack (Sample probe.1) ⟨1, 0⟩]) ∧
      Constructs (k := probe) 1 ofSamples init := by
  intro probe inner outer init
  exact ⟨by decide, Reached.constructs (fun kind => kind.2) (.founded ofSamples_founded) 1
    fun s => ⟨outer, rfl⟩⟩

end Estate

end PacketRadio.Pool
