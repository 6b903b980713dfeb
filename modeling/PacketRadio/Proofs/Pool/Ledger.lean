import PacketRadio.Proofs.Pool.Estate

/-!
# The histories of values

A value is placed in a block and destroyed there, or it is handed back and nothing else befalls it.
What is told of each value so far is kept together with where the value is: ahead, in a box, in the
hand of the operation that is moving it, gone, or back with whoever made it. Operations move values
from box to box through their hand, and no hand holds one while an initialiser or a destructor runs.
-/

namespace PacketRadio.Pool

/-! ## Histories -/

/-- The deed is about the value with number `i`. -/
def Deed.concerns (i : Nat) : Deed → Bool
  | notice _ => false
  | placed serial _ | destroyed serial _ | returned serial => i == serial

/-- What befell the value with number `i`, in order. -/
def history (i : Nat) (deeds : List Deed) : List Deed := deeds.filter (Deed.concerns i)

section

variable (i : Nat) (deeds more : List Deed)

theorem history_append : history i (deeds ++ more) = history i deeds ++ history i more :=
  List.filter_append ..

@[simp] theorem history_notices (notices : List Notice) : history i (notices.map .notice) = [] := by
  simp [history, Deed.concerns]

end

/-- Where a value is. -/
inductive Whereabouts (κ : Type)
  | ahead
  | returned
  | boxed (l : Label κ) (block : Block)
  | inHand (block : Block)
  | gone (block : Block)

namespace Whereabouts

variable {κ : Type}

/-- What befell the value with number `i` until it got there. -/
def past (i : Nat) : Whereabouts κ → List Deed
  | ahead => []
  | returned => [.returned i]
  | boxed _ block | inHand block => [.placed i block]
  | gone block => [.placed i block, .destroyed i block]

section

variable {w : Whereabouts κ} {i : Nat} {block : Block}

theorem placed_mem_past : .placed i block ∈ w.past i ↔
    (∃ l, w = boxed l block) ∨ w = inHand block ∨ w = gone block := by
  cases w <;> simp [past, eq_comm]

theorem destroyed_mem_past : .destroyed i block ∈ w.past i ↔ w = gone block := by
  cases w <;> simp [past, eq_comm]

theorem returned_mem_past : .returned i ∈ w.past i ↔ w = returned := by
  cases w <;> simp [past]

end

variable [DecidableEq κ]

/-- The value in hand and the value in box `l` change places. -/
def exchange (l : Label κ) : Whereabouts κ → Whereabouts κ
  | inHand block => boxed l block
  | boxed m block => if m = l then inHand block else boxed m block
  | elsewhere => elsewhere

variable {l m : Label κ} {w : Whereabouts κ} {block : Block} {i : Nat}

@[simp] theorem past_exchange : (w.exchange l).past i = w.past i := by
  cases w with
  | boxed m block =>
    simp only [exchange]
    split <;> rfl
  | _ => rfl

@[simp] theorem exchange_ahead : w.exchange l = ahead ↔ w = ahead := by
  cases w with
  | boxed m block =>
    simp only [exchange]
    split <;> simp
  | _ => simp [exchange]

theorem exchange_inHand : w.exchange l = inHand block ↔ w = boxed l block := by
  cases w with
  | boxed m other =>
    simp only [exchange]
    split <;> rename_i here
    · simp [here]
    · simp [here]
  | _ => simp [exchange]

theorem exchange_boxed_self : w.exchange l = boxed l block ↔ w = inHand block := by
  cases w with
  | boxed m other =>
    simp only [exchange]
    split <;> rename_i here
    · simp
    · simp [here]
  | _ => simp [exchange]

theorem exchange_boxed_of_ne (apart : m ≠ l) : w.exchange l = boxed m block ↔ w = boxed m block := by
  cases w with
  | boxed m' other =>
    simp only [exchange]
    split <;> rename_i here
    · simp [here, apart.symm]
    · simp
  | _ => simp [exchange, apart.symm]

end Whereabouts

/-! ## Accounts -/

/-- The number of the value that a box owns, and its block. -/
def Stamped.held {α : Type} (box : Box (Stamped α)) : Option (Nat × Block) :=
  box.map fun owned => (owned.value.serial, owned.block)

namespace Estate

variable {κ : Type} {V : κ → Type}

/-- Values are where `at_` tells, and `deeds` is how they got there. -/
structure Account (at_ : Nat → Whereabouts κ) (hand : Option (Nat × Block)) (deeds : List Deed)
    (s : Estate V) : Prop where
  past : ∀ i, history i deeds = (at_ i).past i
  ahead : ∀ i, at_ i = .ahead ↔ s.next ≤ i
  boxed : ∀ i l b, at_ i = .boxed l b ↔ Stamped.held (s.boxes l) = some (i, b)
  inHand : ∀ i b, at_ i = .inHand b ↔ hand = some (i, b)

/-- Every value is accounted for; `hand` is the one that the operation under way has in hand. -/
def Accounted (hand : Option (Nat × Block)) (deeds : List Deed) (s : Estate V) : Prop :=
  ∃ at_, Account at_ hand deeds s

namespace Account

variable {at_ : Nat → Whereabouts κ} {hand : Option (Nat × Block)} {deeds : List Deed} {s : Estate V}

/-- What is told of a value befell it on its way to where it is. -/
theorem told (account : Account at_ hand deeds s) {i : Nat} {deed : Deed} (member : deed ∈ deeds)
    (concerns : deed.concerns i = true) : deed ∈ (at_ i).past i := by
  rw [← account.past]
  exact List.mem_filter.2 ⟨member, concerns⟩

/-- A deed moves one value, to the hand or from the hand, but not to a box or from a box. -/
theorem move (account : Account at_ hand deeds s) (i : Nat) (w : Whereabouts κ)
    {deed : Deed} {hand' : Option (Nat × Block)} {t : Estate V}
    (told : ∀ j, deed.concerns j = (j == i)) (past : w.past i = (at_ i).past i ++ [deed])
    (left : ∀ l b, at_ i ≠ .boxed l b) (put : ∀ l b, w ≠ .boxed l b)
    (boxes : t.boxes = s.boxes) (next : ∀ j, t.next ≤ j ↔ s.next ≤ j ∧ j ≠ i) (given : w ≠ .ahead)
    (before : ∀ j b, hand = some (j, b) → j = i)
    (after : ∀ j b, hand' = some (j, b) ↔ j = i ∧ w = .inHand b) :
    Accounted hand' (deeds ++ [deed]) t := by
  refine ⟨Function.update at_ i w, fun j => ?_, fun j => ?_, fun j l b => ?_, fun j b => ?_⟩
  · have told_j := told j
    by_cases same : j = i
    · subst same
      rw [history_append, account.past, Function.update_self, past]
      simp [history, told_j]
    · rw [history_append, account.past, Function.update_of_ne same]
      simp [history, told_j, same]
  · rw [next, ← account.ahead]
    by_cases same : j = i
    · subst same
      simp [given]
    · simp [same]
  · rw [boxes, ← account.boxed]
    by_cases same : j = i
    · subst same
      simp [left, put]
    · rw [Function.update_of_ne same]
  · rw [after]
    by_cases same : j = i
    · subst same
      simp
    · rw [Function.update_of_ne same, account.inHand]
      exact ⟨fun held => absurd (before j b held) same, fun held => absurd held.1 same⟩

end Account

namespace Accounted

variable {hand : Option (Nat × Block)} {deeds : List Deed} {s : Estate V}

/-- Something happens that moves no value. -/
theorem frame (accounted : Accounted hand deeds s) (more : List Deed) {t : Estate V}
    (quiet : ∀ i, history i more = []) (next : t.next = s.next)
    (boxes : ∀ l, Stamped.held (t.boxes l) = Stamped.held (s.boxes l)) :
    Accounted hand (deeds ++ more) t := by
  obtain ⟨at_, account⟩ := accounted
  refine ⟨at_, fun i => ?_, fun i => ?_, fun i l b => ?_, account.inHand⟩
  · rw [history_append, quiet, List.append_nil]
    exact account.past i
  · rw [next]
    exact account.ahead i
  · rw [boxes]
    exact account.boxed i l b

/-- A deed is the first one that is told of a new value. -/
theorem fresh (accounted : Accounted none deeds s) (w : Whereabouts κ) {deed : Deed}
    {hand' : Option (Nat × Block)} (told : ∀ j, deed.concerns j = (j == s.next))
    (past : w.past s.next = [deed]) (put : ∀ l b, w ≠ .boxed l b)
    (after : ∀ j b, hand' = some (j, b) ↔ j = s.next ∧ w = .inHand b) :
    Accounted hand' (deeds ++ [deed]) s.count := by
  obtain ⟨at_, account⟩ := accounted
  have new : at_ s.next = .ahead := (account.ahead _).2 (Nat.le_refl _)
  refine account.move s.next w told ?_ ?_ put rfl (fun j => ?_) ?_ nofun after
  · rw [new]
    exact past
  · rw [new]
    exact nofun
  · change s.next + 1 ≤ j ↔ _
    omega
  · rintro rfl
    cases past

/-- A new value is moved into a block. -/
theorem placed (accounted : Accounted none deeds s) (block : Block) :
    Accounted (some (s.next, block)) (deeds ++ [.placed s.next block]) s.count := by
  refine accounted.fresh (.inHand block) (fun _ => rfl) rfl nofun fun j b => ?_
  simp only [Option.some.injEq, Prod.mk.injEq, Whereabouts.inHand.injEq]
  exact and_congr_left fun _ => eq_comm

/-- A new value is handed back. -/
theorem returned (accounted : Accounted none deeds s) :
    Accounted none (deeds ++ [.returned s.next]) s.count :=
  accounted.fresh .returned (fun _ => rfl) rfl nofun fun _ _ => ⟨nofun, nofun⟩

/-- The value in hand is destroyed where it lies. -/
theorem destroyed {i : Nat} {block : Block} (accounted : Accounted (some (i, block)) deeds s) :
    Accounted none (deeds ++ [.destroyed i block]) s := by
  obtain ⟨at_, account⟩ := accounted
  have here : at_ i = .inHand block := (account.inHand i block).2 rfl
  have known : ¬ s.next ≤ i := by
    rw [← account.ahead, here]
    exact nofun
  refine account.move i (.gone block) (fun _ => rfl) ?_ ?_ nofun rfl (fun j => ?_) nofun
    (fun j b held => ?_) fun j b => ⟨nofun, nofun⟩
  · rw [here]
    rfl
  · rw [here]
    exact nofun
  · refine ⟨fun later => ⟨later, ?_⟩, And.left⟩
    rintro rfl
    exact known later
  · cases held
    rfl

variable [DecidableEq κ]

/-- A box gets what was in hand, and the hand what was in the box. -/
theorem exchange (l : Label κ) (box : Box (Stamped (V l.kind)))
    (accounted : Accounted (Stamped.held box) deeds s) :
    Accounted (Stamped.held (s.boxes l)) deeds (s.putBox l box) := by
  obtain ⟨at_, account⟩ := accounted
  refine ⟨fun i => (at_ i).exchange l, fun i => ?_, fun i => ?_, fun i m b => ?_, fun i b => ?_⟩
  · rw [Whereabouts.past_exchange]
    exact account.past i
  · rw [Whereabouts.exchange_ahead]
    exact account.ahead i
  · by_cases here : m = l
    · subst here
      rw [Whereabouts.exchange_boxed_self, putBox_self]
      exact account.inHand i b
    · rw [Whereabouts.exchange_boxed_of_ne here, putBox_of_ne s here]
      exact account.boxed i m b
  · rw [Whereabouts.exchange_inHand]
    exact account.boxed i l b

end Accounted

/-! ## Programs account for their values -/

/-- What leaves every value accounted for. -/
def Balanced (f : Estate V → Outcome Deed (Estate V) Unit) : Prop :=
  ∀ deeds s, Accounted none deeds s → Accounted none (deeds ++ (f s).events) (f s).state

namespace Accounted

variable {deeds : List Deed} {s : Estate V} {destructor : Estate V → Outcome Deed (Estate V) Unit}

/-- An arena is at work. -/
theorem notices {hand : Option (Nat × Block)} (accounted : Accounted hand deeds s)
    (notices : List Notice) (n : Nat) (a : Arena) :
    Accounted hand (deeds ++ notices.map .notice) ((site n).put s a) :=
  accounted.frame _ (fun i => history_notices i notices) rfl fun _ => rfl

/-- A block goes to others, or comes back from them. -/
theorem lent {hand : Option (Nat × Block)} (accounted : Accounted hand deeds s) (block : Block)
    (held : Bool) : Accounted hand deeds (s.putLoose block held) := by
  rw [← List.append_nil deeds]
  exact accounted.frame [] (fun _ => rfl) rfl fun _ => rfl

variable [∀ k, Pooled (V k)]

theorem asked (accounted : Accounted none deeds s) (n : Nat) (l : Label κ) :
    Accounted none (deeds ++ s.inquiry n l) ((site n).asked (Stamped (V l.kind)) s) :=
  accounted.notices _ n _

/-- The value in hand is destroyed, and then its block goes. -/
theorem destroy {k : κ} {box : Box (Stamped (V k))}
    (accounted : Accounted (Stamped.held box) deeds s) (balanced : Balanced destructor) :
    Accounted none (deeds ++ (destroy box destructor s).events) (destroy box destructor s).state := by
  cases box with
  | none => exact accounted.frame _ (fun _ => rfl) rfl fun _ => rfl
  | some owned =>
    rw [destroy_some]
    have after := (balanced _ _ accounted.destroyed).notices
    simpa only [List.append_assoc] using after _ _ _

variable [DecidableEq κ]

/-- The value in hand is moved into a box, and what the box owned before is destroyed. -/
theorem store (l : Label κ) (box : Box (Stamped (V l.kind)))
    (accounted : Accounted (Stamped.held box) deeds s) (balanced : Balanced destructor) :
    Accounted none (deeds ++ (store l box destructor s).events) (store l box destructor s).state :=
  (accounted.exchange l box).destroy balanced

/-- A value is placed and moved into a box. -/
theorem settle {l : Label κ} (accounted : Accounted none deeds s) (block : Block) (value : V l.kind)
    (balanced : Balanced destructor) :
    let stored := Estate.store l (some ⟨block, ⟨s.next, value⟩⟩) destructor s.count
    Accounted none (deeds ++ ([.placed s.next block] ++ stored.events)) stored.state := by
  have stored := (accounted.placed block).store l (some ⟨block, ⟨s.next, value⟩⟩) balanced
  rwa [List.append_assoc] at stored

end Accounted

section

variable [∀ k, Pooled (V k)] [DecidableEq κ] {ι : Type} {n : Nat} {l : Label κ}
  {initialiser destructor : List (Op V ι)}

theorem balanced_place (value : V l.kind) (balanced : Balanced (run destructor)) :
    Balanced (step (.place n l value destructor)) := by
  intro deeds s accounted
  have asked := accounted.asked n l
  cases got : ((s.arenas n).allocateFor (Stamped (V l.kind))).answer with
  | ok block =>
    rw [step_place_of_granted s got]
    rw [Outcome.after_events, List.append_assoc, ← List.append_assoc deeds]
    exact asked.settle block value balanced
  | error why =>
    rw [step_place_of_refused s got]
    rw [← List.append_assoc]
    exact asked.returned

theorem balanced_placeWith (made : Except ι (V l.kind)) (builds : Balanced (run initialiser))
    (balanced : Balanced (run destructor)) :
    Balanced (step (.placeWith n l initialiser made destructor)) := by
  intro deeds s accounted
  have asked := accounted.asked n l
  cases got : ((s.arenas n).allocateFor (Stamped (V l.kind))).answer with
  | ok block =>
    have built := builds _ _ asked
    cases made with
    | ok value =>
      rw [step_placeWith_of_made s got]
      rw [Outcome.after_events, List.append_assoc, ← List.append_assoc deeds,
        ← List.append_assoc deeds]
      exact built.settle block value balanced
    | error why =>
      rw [step_placeWith_of_failed s got]
      simpa only [List.append_assoc] using built.notices _ n _
  | error why =>
    rw [step_placeWith_of_refused s got]
    exact asked

theorem balanced_take (source : Label κ) (target : Nat) (balanced : Balanced (run destructor)) :
    Balanced (step (.take source target destructor)) := by
  intro deeds s accounted
  have taken : Accounted (Stamped.held (s.boxes source)) deeds (s.putBox source none) :=
    accounted.exchange source none
  exact taken.store ⟨source.kind, target⟩ _ balanced

theorem balanced_reset (balanced : Balanced (run destructor)) :
    Balanced (step (.reset l destructor)) :=
  fun _ _ accounted => accounted.store l none balanced

theorem balanced_modify (f : V l.kind → V l.kind) : Balanced (step (.modify l f : Op V ι)) := by
  intro deeds s accounted
  refine accounted.frame _ (fun _ => rfl) rfl fun m => ?_
  by_cases here : m = l
  · subst here
    change Stamped.held ((s.putBox m _).boxes m) = _
    rw [putBox_self]
    cases s.boxes m <;> rfl
  · exact congrArg Stamped.held (putBox_of_ne s here)

theorem balanced_allocate {layout : Layout} (type : layout.OfType) (size : Nat) (tag : Tag) :
    Balanced (step (.allocate n layout type size tag : Op V ι)) := by
  intro deeds s accounted
  have asked := accounted.notices ((s.arenas n).allocate layout size tag).events n
    ((s.arenas n).allocate layout size tag).state
  cases got : ((s.arenas n).allocate layout size tag).answer with
  | ok block =>
    rw [step_allocate_of_granted s got]
    exact asked.lent block true
  | error why =>
    rw [step_allocate_of_refused s got]
    exact asked

theorem balanced_release (block : Block) (tag : Tag) :
    Balanced (step (.release n block tag : Op V ι)) := by
  intro deeds s accounted
  by_cases loose : s.loose block = true
  · have given := accounted.notices ((s.arenas n).release block tag).events n
      ((s.arenas n).release block tag).state
    cases back : ((s.arenas n).release block tag).answer with
    | ok =>
      rw [step_release_of_taken s loose back]
      exact given.lent block false
    | error why =>
      rw [step_release_of_refused s loose back]
      exact given
  · rw [step, if_neg loose]
    exact accounted.frame _ (fun _ => rfl) rfl fun _ => rfl

mutual

/-- Every operation accounts for its values, whatever its initialiser and destructor do. -/
theorem step_balanced : ∀ op : Op V ι, Balanced (step op)
  | .place _ _ value destructor => balanced_place value (run_balanced destructor)
  | .placeWith _ _ initialiser made destructor =>
    balanced_placeWith made (run_balanced initialiser) (run_balanced destructor)
  | .take source target destructor => balanced_take source target (run_balanced destructor)
  | .reset _ destructor => balanced_reset (run_balanced destructor)
  | .modify _ f => balanced_modify f
  | .allocate _ _ type size tag => balanced_allocate type size tag
  | .release _ block tag => balanced_release block tag

/-- **Every program accounts for its values.** -/
theorem run_balanced : ∀ ops : List (Op V ι), Balanced (run ops)
  | [] => fun _ _ accounted => accounted.frame _ (fun _ => rfl) rfl fun _ => rfl
  | op :: ops => fun deeds s accounted => by
    have := run_balanced ops _ _ (step_balanced op deeds s accounted)
    rwa [List.append_assoc] at this

end

end

end Estate

end PacketRadio.Pool
