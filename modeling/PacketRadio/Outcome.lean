/-!
# Outcomes

Every operation of this library is a function to an `Outcome`: its answer, the state it leaves, and
what could be observed while it ran, in order. Nothing else happens.
-/

namespace PacketRadio

/-- What an operation on a `σ` did: its answer, the state it left and the events it caused. -/
structure Outcome (ε σ α : Type) where
  answer : α
  state : σ
  events : List ε

namespace Outcome

variable {ε ζ σ τ α β : Type}

/-- An answer that nothing was done for. -/
def quiet (answer : α) (state : σ) : Outcome ε σ α :=
  ⟨answer, state, []⟩

/-- The same outcome with another reading of its answer. -/
def map (f : α → β) (o : Outcome ε σ α) : Outcome ε σ β :=
  ⟨f o.answer, o.state, o.events⟩

/-- The same outcome seen as one of a larger state. -/
def within (f : σ → τ) (o : Outcome ε σ α) : Outcome ε τ α :=
  ⟨o.answer, f o.state, o.events⟩

/-- The same outcome with its events read in another vocabulary. -/
def mapEvents (f : ε → ζ) (o : Outcome ε σ α) : Outcome ζ σ α :=
  ⟨o.answer, o.state, o.events.map f⟩

/-- The same outcome after `events`. -/
def after (events : List ε) (o : Outcome ε σ α) : Outcome ε σ α :=
  ⟨o.answer, o.state, events ++ o.events⟩

/-- The same outcome followed by `events`. -/
def before (o : Outcome ε σ α) (events : List ε) : Outcome ε σ α :=
  ⟨o.answer, o.state, o.events ++ events⟩

/-- `o`, then what `f` does with its answer in the state it left. -/
def andThen (o : Outcome ε σ α) (f : α → σ → Outcome ε τ β) : Outcome ε τ β :=
  (f o.answer o.state).after o.events

@[simp] theorem andThen_answer (o : Outcome ε σ α) (f : α → σ → Outcome ε τ β) :
    (o.andThen f).answer = (f o.answer o.state).answer := rfl

@[simp] theorem andThen_state (o : Outcome ε σ α) (f : α → σ → Outcome ε τ β) :
    (o.andThen f).state = (f o.answer o.state).state := rfl

@[simp] theorem andThen_events (o : Outcome ε σ α) (f : α → σ → Outcome ε τ β) :
    (o.andThen f).events = o.events ++ (f o.answer o.state).events := rfl

end Outcome

end PacketRadio
