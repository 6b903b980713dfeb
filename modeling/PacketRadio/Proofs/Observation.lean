import PacketRadio.Event
import PacketRadio.Outcome

/-!
# Reading outcomes

The parts of an outcome that was read, widened or extended, and the calls to the host among its
events. Reports never count as calls.

A past is read for what has begun in it and not ended since.
-/

namespace PacketRadio

namespace Outcome

variable {ε ζ σ τ α β : Type}

@[simp] theorem quiet_answer (answer : α) (state : σ) :
    (quiet answer state : Outcome ε σ α).answer = answer := rfl

@[simp] theorem quiet_state (answer : α) (state : σ) :
    (quiet answer state : Outcome ε σ α).state = state := rfl

@[simp] theorem quiet_events (answer : α) (state : σ) :
    (quiet answer state : Outcome ε σ α).events = [] := rfl

@[simp] theorem map_answer (f : α → β) (o : Outcome ε σ α) : (o.map f).answer = f o.answer := rfl

@[simp] theorem map_state (f : α → β) (o : Outcome ε σ α) : (o.map f).state = o.state := rfl

@[simp] theorem map_events (f : α → β) (o : Outcome ε σ α) : (o.map f).events = o.events := rfl

@[simp] theorem within_answer (f : σ → τ) (o : Outcome ε σ α) :
    (o.within f).answer = o.answer := rfl

@[simp] theorem within_state (f : σ → τ) (o : Outcome ε σ α) : (o.within f).state = f o.state := rfl

@[simp] theorem within_events (f : σ → τ) (o : Outcome ε σ α) :
    (o.within f).events = o.events := rfl

@[simp] theorem mapEvents_answer (f : ε → ζ) (o : Outcome ε σ α) :
    (o.mapEvents f).answer = o.answer := rfl

@[simp] theorem mapEvents_state (f : ε → ζ) (o : Outcome ε σ α) :
    (o.mapEvents f).state = o.state := rfl

@[simp] theorem mapEvents_events (f : ε → ζ) (o : Outcome ε σ α) :
    (o.mapEvents f).events = o.events.map f := rfl

@[simp] theorem after_answer (events : List ε) (o : Outcome ε σ α) :
    (o.after events).answer = o.answer := rfl

@[simp] theorem after_state (events : List ε) (o : Outcome ε σ α) :
    (o.after events).state = o.state := rfl

@[simp] theorem after_events (events : List ε) (o : Outcome ε σ α) :
    (o.after events).events = events ++ o.events := rfl

@[simp] theorem before_answer (o : Outcome ε σ α) (events : List ε) :
    (o.before events).answer = o.answer := rfl

@[simp] theorem before_state (o : Outcome ε σ α) (events : List ε) :
    (o.before events).state = o.state := rfl

@[simp] theorem before_events (o : Outcome ε σ α) (events : List ε) :
    (o.before events).events = o.events ++ events := rfl

@[simp] theorem before_nil (o : Outcome ε σ α) : o.before [] = o := by
  rw [before, List.append_nil]

end Outcome

/-! ## Calls to the host -/

@[simp] theorem hostCalls_nil : hostCalls [] = [] := rfl

@[simp] theorem hostCalls_append (events more : List Event) :
    hostCalls (events ++ more) = hostCalls events ++ hostCalls more :=
  List.filterMap_append

@[simp] theorem hostCalls_call (call : HostCall) (events : List Event) :
    hostCalls (.call call :: events) = call :: hostCalls events := rfl

@[simp] theorem hostCalls_notice (notice : Notice) (events : List Event) :
    hostCalls (.notice notice :: events) = hostCalls events := rfl

/-- What an arena reports calls nobody. -/
@[simp] theorem hostCalls_pool (notices : List Pool.Notice) :
    hostCalls (notices.map .pool) = [] := by
  induction notices with
  | nil => rfl
  | cons notice notices ih => exact ih

theorem hostCalls_flatMap {α : Type} (f : α → List Event) (xs : List α) :
    hostCalls (xs.flatMap f) = xs.flatMap fun x => hostCalls (f x) := by
  induction xs with
  | nil => rfl
  | cons x xs ih => rw [List.flatMap_cons, hostCalls_append, ih, List.flatMap_cons]

/-- A call that ends something the host is waiting for: a list it has handed over, or a pause. -/
def HostCall.settles : HostCall → Bool
  | .sendComplete .. | .pauseComplete _ => true
  | _ => false

/-- No list is given back and no pause is told to be complete. -/
def Unsettling (events : List Event) : Prop := ∀ call ∈ hostCalls events, call.settles = false

theorem unsettling_of_silent {events : List Event} (silent : hostCalls events = []) :
    Unsettling events := by
  intro call member
  rw [silent] at member
  cases member

theorem Unsettling.append {events more : List Event} (h : Unsettling events)
    (k : Unsettling more) : Unsettling (events ++ more) := by
  intro call member
  rw [hostCalls_append, List.mem_append] at member
  exact member.elim (h call) (k call)

/-- No pause is told to be complete. -/
def Unnotified (events : List Event) : Prop := ∀ h, HostCall.pauseComplete h ∉ hostCalls events

theorem Unsettling.unnotified {events : List Event} (h : Unsettling events) :
    Unnotified events := by
  intro handle member
  have settles := h _ member
  cases settles

theorem unnotified_of_silent {events : List Event} (silent : hostCalls events = []) :
    Unnotified events :=
  (unsettling_of_silent silent).unnotified

theorem Unnotified.append {events more : List Event} (h : Unnotified events)
    (k : Unnotified more) : Unnotified (events ++ more) := by
  intro handle member
  rw [hostCalls_append, List.mem_append] at member
  exact member.elim (h handle) (k handle)

/-! ## What has begun and not ended -/

section Lasting

variable {α : Type}

/-- Something that `begins` has happened, and nothing after it that `ends`. -/
def Lasting (begins ends : α → Prop) (past : List α) : Prop :=
  ∃ before first after, past = before ++ first :: after ∧ begins first ∧ ∀ e ∈ after, ¬ ends e

theorem not_lasting_nil (begins ends : α → Prop) : ¬ Lasting begins ends [] := by
  rintro ⟨before, first, after, split, -⟩
  simp at split

/-- What lasts was begun by the last event, or lasted before and was not ended by it. -/
theorem lasting_concat (begins ends : α → Prop) {past : List α} {last : α} :
    Lasting begins ends (past ++ [last]) ↔
      begins last ∨ Lasting begins ends past ∧ ¬ ends last := by
  constructor
  · rintro ⟨before, first, after, split, begun, kept⟩
    rcases List.eq_nil_or_concat after with rfl | ⟨later, final, rfl⟩
    · obtain ⟨-, same⟩ := List.append_inj' split rfl
      cases same
      exact .inl begun
    · rw [List.concat_eq_append] at split kept
      rw [← List.cons_append, ← List.append_assoc] at split
      obtain ⟨same, equal⟩ := List.append_inj' split rfl
      cases equal
      refine .inr ⟨⟨before, first, later, same, begun, fun e member => ?_⟩, ?_⟩
      · exact kept e (List.mem_append_left _ member)
      · exact kept last (List.mem_append_right _ List.mem_cons_self)
  · rintro (begun | ⟨⟨before, first, after, rfl, begun, kept⟩, goes⟩)
    · exact ⟨past, last, [], rfl, begun, fun e member => by cases member⟩
    · refine ⟨before, first, after ++ [last], by simp, begun, fun e member => ?_⟩
      rcases List.mem_append.1 member with earlier | final
      · exact kept e earlier
      · cases List.mem_singleton.1 final
        exact goes

end Lasting

end PacketRadio
