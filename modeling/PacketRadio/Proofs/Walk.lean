/-!
# Walks

A machine takes an input, or refuses it and stays as it is. A walk through a row of inputs takes
those that are taken where they come, and passes over the rest. If an input alone tells the state
that it leads to, nothing is left of a walk but the last input that was taken.
-/

namespace PacketRadio.Walk

variable {σ ι : Type} (step? : σ → ι → Option σ)

/-- The state after `inputs`, if each of them is taken. -/
def follow? (s : σ) (inputs : List ι) : Option σ := inputs.foldlM step? s

/-- The state after `inputs`. One that is refused leaves the state as it is. -/
def through (s : σ) (inputs : List ι) : σ := inputs.foldl (fun s i => (step? s i).getD s) s

/-- Those of `inputs` that are taken where they come. -/
def taken (s : σ) : List ι → List ι
  | [] => []
  | i :: inputs =>
    match step? s i with
    | some t => i :: taken t inputs
    | none => taken s inputs

variable {step?} {s t : σ} {i : ι} {inputs : List ι}

theorem follow?_cons :
    follow? step? s (i :: inputs) = (step? s i).bind fun t => follow? step? t inputs := rfl

theorem follow?_append (s : σ) (inputs more : List ι) :
    follow? step? s (inputs ++ more) =
      (follow? step? s inputs).bind fun t => follow? step? t more := List.foldlM_append

theorem cons_of_refused (refused : step? s i = none) :
    through step? s (i :: inputs) = through step? s inputs ∧
      taken step? s (i :: inputs) = taken step? s inputs := by
  rw [through, List.foldl_cons, taken, refused]
  exact ⟨rfl, rfl⟩

theorem cons_of_taken (next : step? s i = some t) :
    through step? s (i :: inputs) = through step? t inputs ∧
      taken step? s (i :: inputs) = i :: taken step? t inputs := by
  rw [through, List.foldl_cons, taken, next]
  exact ⟨rfl, rfl⟩

/-- What a walk takes can be followed, and leads to where the walk ends. -/
theorem follow?_taken (s : σ) (inputs : List ι) :
    follow? step? s (taken step? s inputs) = some (through step? s inputs) := by
  induction inputs generalizing s with
  | nil => rfl
  | cons i inputs ih =>
    cases next : step? s i with
    | none =>
      rw [(cons_of_refused next).1, (cons_of_refused next).2]
      exact ih s
    | some t =>
      rw [(cons_of_taken next).1, (cons_of_taken next).2, follow?_cons, next]
      exact ih t

theorem taken_append (s : σ) (inputs more : List ι) :
    taken step? s (inputs ++ more) =
      taken step? s inputs ++ taken step? (through step? s inputs) more := by
  induction inputs generalizing s with
  | nil => rfl
  | cons i inputs ih =>
    rw [List.cons_append]
    cases next : step? s i with
    | none =>
      rw [(cons_of_refused next).1, (cons_of_refused next).2, (cons_of_refused next).2]
      exact ih s
    | some t =>
      rw [(cons_of_taken next).1, (cons_of_taken next).2, (cons_of_taken next).2, ih t,
        List.cons_append]

theorem exists_of_mem_taken (among : i ∈ taken step? s inputs) : ∃ r t, step? r i = some t := by
  induction inputs generalizing s with
  | nil => cases among
  | cons first inputs ih =>
    cases next : step? s first with
    | none =>
      rw [(cons_of_refused next).2] at among
      exact ih among
    | some t =>
      rw [(cons_of_taken next).2] at among
      rcases List.mem_cons.1 among with rfl | later
      · exact ⟨s, t, next⟩
      · exact ih later

section Forgetful

variable {target : ι → σ} (leads : ∀ s i t, step? s i = some t → t = target i)

include leads

/-- **The input that was taken last tells the state.** -/
theorem through_eq_target (s : σ) (inputs : List ι) :
    through step? s inputs = ((taken step? s inputs).getLast?.map target).getD s := by
  induction inputs generalizing s with
  | nil => rfl
  | cons i inputs ih =>
    cases next : step? s i with
    | none =>
      rw [(cons_of_refused next).1, (cons_of_refused next).2]
      exact ih s
    | some t =>
      rw [(cons_of_taken next).1, (cons_of_taken next).2, ih t, List.getLast?_cons,
        leads s i t next]
      cases (taken step? (target i) inputs).getLast? <;> rfl

theorem through_of_last {last : ι} (taken : (taken step? s inputs).getLast? = some last) :
    through step? s inputs = target last := by
  rw [through_eq_target leads, taken]
  rfl

theorem through_of_nothing (nothing : (taken step? s inputs).getLast? = none) :
    through step? s inputs = s := by
  rw [through_eq_target leads, nothing]
  rfl

end Forgetful

end PacketRadio.Walk
