import PacketRadio.Scenario.Sample

/-!
# Recipes

How a boxed sample is made: given, made in its block by an initialiser that may fail, or made by an
initialiser that first makes another boxed sample in the same arena.
-/

namespace PacketRadio.Scenario

open Pool

/-- How to make a boxed sample. An initialiser fails with `failure`, unless that is empty. -/
inductive Recipe
  | given (kind : SampleKind) (value : UInt32)
  | made (kind : SampleKind) (value : UInt32) (failure : String)
  | nested (kind : SampleKind) (value : UInt32) (failure : String) (inner : Recipe)

/-- How the making ended. -/
inductive Ending
  | done
  /-- There was no block, so the given sample was handed back. -/
  | returned (value : UInt32)
  | failed (why : BuildError String)
  deriving DecidableEq

/-- How the making ended, and the inner one if there was one, outermost first. -/
structure Making where
  box : SampleBox
  endings : List Ending

namespace Recipe

/-- What an initialiser answers. -/
def initialised (kind : SampleKind) (value : UInt32) (failure : String) :
    Except String (Sample kind) :=
  if failure = "" then .ok (Sample.ofValue kind value) else .error failure

/-- The box and the ending of an initialised sample. -/
def read (kind : SampleKind) :
    Except (BuildError String) (Owned (Sample kind)) → SampleBox × Ending
  | .ok owned => (⟨kind, some owned⟩, .done)
  | .error why => (.empty kind, .failed why)

/-- Follows a recipe. A sample that is handed back is destroyed at once; an inner box is emptied
after the outer one is settled. -/
def follow : Recipe → Arena → Outcome Observation Arena Making
  | given kind value, arena =>
    let placed := (arena.place (Sample.ofValue kind value)).mapEvents Observation.pool
    match placed.answer with
    | .ok owned => placed.map fun _ => ⟨⟨kind, some owned⟩, [.done]⟩
    | .error sample =>
      (placed.map fun _ => ⟨.empty kind, [.returned sample.value]⟩).before sample.destroy
  | made kind value failure, arena =>
    (ArenaIn.self.placeWith Observation.pool arena fun arena =>
      .quiet (initialised kind value failure) arena).map fun built =>
        let (box, ending) := read kind built
        ⟨box, [ending]⟩
  | nested kind value failure inner, arena =>
    let built :=
      (ArenaIn.first (Option Making)).placeWith Observation.pool (arena, none) fun state =>
        let made := follow inner state.1
        ⟨initialised kind value failure, (made.state, some made.answer), made.events⟩
    let (box, ending) := read kind built.answer
    match built.state.2 with
    | none => (built.map fun _ => ⟨box, [ending]⟩).within Prod.fst
    | some within =>
      ((within.box.discard built.state.1).map fun _ => ⟨box, ending :: within.endings⟩).after
        built.events

end Recipe

end PacketRadio.Scenario
