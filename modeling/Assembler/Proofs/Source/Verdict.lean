import Assembler.Proofs.Source.Scan

/-! The verdict on a sequence of steps, and how it is put together from the verdicts on its
parts. -/
namespace Assembler

def Step.tolerance (tolerant : Bool) (step : Step) : Bool :=
  match step.outcome with
  | .ok effect => effect.tolerance tolerant
  | .error _ => tolerant

theorem Step.effect?_eq_some_iff {step : Step} {effect : Effect} :
    step.effect? = some effect ↔ step.outcome = .ok effect := by
  unfold Step.effect?
  split <;> simp_all

theorem Step.error?_eq_some_iff {step : Step} {error : SourceError} :
    step.error? = some error ↔ step.outcome = .error error.fault ∧ step.line = error.line := by
  obtain ⟨line, fault⟩ := error
  unfold Step.error?
  split
  · simp_all
  · rename_i cause failed
    rw [failed, Option.some.injEq, SourceError.mk.injEq, Except.error.injEq, and_comm]

def SourceError.renumber (f : Nat → Nat) (error : SourceError) : SourceError :=
  ⟨f error.line, error.fault⟩

def SourceError.shift (distance : Nat) (error : SourceError) : SourceError :=
  ⟨error.line + distance, error.fault⟩

def Step.renumber (f : Nat → Nat) (step : Step) : Step :=
  ⟨f step.line, step.statement, step.outcome⟩

def Step.shift (distance : Nat) (step : Step) : Step :=
  ⟨step.line + distance, step.statement, step.outcome⟩

theorem Step.error?_renumber (f : Nat → Nat) (step : Step) :
    (step.renumber f).error? = step.error?.map (SourceError.renumber f) := by
  cases outcome : step.outcome <;>
    simp [Step.error?, Step.renumber, SourceError.renumber, outcome]

namespace Source

theorem compile_eq_ok_iff {settings : Settings} {lines : List Text} {compiled : Compiled} :
    compile settings lines = .ok compiled ↔
      fatal? settings.tolerant (trace settings lines) = none
        ∧ compiled = ⟨program ((trace settings lines).filterMap Step.effect?),
          (trace settings lines).filterMap Step.error?⟩ := by
  simp only [compile, outcome]
  cases fatal? settings.tolerant (trace settings lines) with
  | none => simp [eq_comm]
  | some error => simp

theorem compile_eq_error_iff {settings : Settings} {lines : List Text} {error : SourceError} :
    compile settings lines = .error error ↔
      fatal? settings.tolerant (trace settings lines) = some error := by
  simp only [compile, outcome]
  cases fatal? settings.tolerant (trace settings lines) <;> simp

theorem exists_compile_iff {settings : Settings} {lines : List Text} :
    (∃ compiled, compile settings lines = .ok compiled) ↔
      fatal? settings.tolerant (trace settings lines) = none := by
  simp only [compile_eq_ok_iff, exists_and_left, exists_eq, and_true]

def stepOf (settings : Settings) (numbered : NumberedStatement) : Step :=
  ⟨numbered.line, numbered.statement, numbered.statement.meaning settings.joinColons⟩

theorem trace_eq (settings : Settings) (lines : List Text) :
    trace settings lines =
      (statementsFrom settings none 0 lines
        ++ unclosed (blockFrom settings none 0 lines)).map (stepOf settings) := by
  rw [← statements_eq]
  rfl

theorem trace_of_closed {settings : Settings} {lines : List Text}
    (closed : blockFrom settings none 0 lines = none) :
    trace settings lines = (statementsFrom settings none 0 lines).map (stepOf settings) := by
  rw [trace_eq, closed, unclosed, List.append_nil]

theorem unclosed_renumber (f : Nat → Nat) (block : Option Nat) :
    unclosed (block.map f) = (unclosed block).map (NumberedStatement.renumber f) := by
  cases block <;> rfl

/-- Behind lines that leave no block open, a source means what it means by itself. -/
theorem trace_append {settings : Settings} {front : List Text}
    (closed : blockFrom settings none 0 front = none) (back : List Text) :
    trace settings (front ++ back) =
      trace settings front ++ (trace settings back).map (Step.shift front.length) := by
  have statements := statementsFrom_shift settings front.length none 0 back
  have block := blockFrom_shift settings front.length none 0 back
  rw [Option.map_none] at statements block
  rw [trace_eq, trace_eq, trace_eq, statementsFrom_append, blockFrom_append, closed, statements,
    block, unclosed_renumber]
  simp only [unclosed, List.append_nil, List.map_append, List.map_map, List.append_assoc]
  rfl

/-- A block is open at the end of a source exactly if one of its statements says so. -/
theorem blockFrom_eq_none_iff {settings : Settings} {lines : List Text} :
    blockFrom settings none 0 lines = none ↔
      ∀ step ∈ trace settings lines, step.statement ≠ .unclosed := by
  constructor
  · intro closed step member
    rw [trace_of_closed closed] at member
    obtain ⟨numbered, found, rfl⟩ := List.mem_map.mp member
    exact statementsFrom_ne_unclosed numbered found
  · intro every
    rw [trace_eq] at every
    cases opened : blockFrom settings none 0 lines with
    | none => rfl
    | some line =>
      have said := every (stepOf settings ⟨line, .unclosed⟩) (by simp [opened, unclosed])
      exact absurd rfl said

theorem fatal?_append (tolerant : Bool) (front back : List Step) :
    fatal? tolerant (front ++ back) =
      (fatal? tolerant front).or (fatal? (front.foldl Step.tolerance tolerant) back) := by
  induction front generalizing tolerant with
  | nil => rfl
  | cons step front ih =>
    cases outcome : step.outcome with
    | ok effect => simp only [List.cons_append, fatal?, outcome, ih, List.foldl_cons,
      Step.tolerance]
    | error fault =>
      simp only [List.cons_append, fatal?, outcome, ih, List.foldl_cons, Step.tolerance]
      cases tolerant <;> rfl

theorem fatal?_cons (tolerant : Bool) (step : Step) (rest : List Step) :
    fatal? tolerant (step :: rest) =
      match step.error? with
      | none => fatal? (step.tolerance tolerant) rest
      | some error => if tolerant then fatal? tolerant rest else some error := by
  cases outcome : step.outcome <;> simp only [fatal?, Step.error?, Step.tolerance, outcome]

theorem fatal?_cons_eq_none_iff {tolerant : Bool} {step : Step} {rest : List Step} :
    fatal? tolerant (step :: rest) = none ↔
      (step.error? = none ∨ tolerant = true) ∧ fatal? (step.tolerance tolerant) rest = none := by
  cases outcome : step.outcome with
  | ok effect => simp [fatal?, Step.error?, Step.tolerance, outcome]
  | error fault => cases tolerant <;> simp [fatal?, Step.error?, Step.tolerance, outcome]

/-- Steps that are changed in their errors only, and all in the same way. -/
theorem fatal?_map {f : Step → Step} {g : SourceError → SourceError}
    (errors : ∀ step, (f step).error? = step.error?.map g)
    (modes : ∀ tolerant step, (f step).tolerance tolerant = step.tolerance tolerant)
    (tolerant : Bool) (steps : List Step) :
    fatal? tolerant (steps.map f) = (fatal? tolerant steps).map g := by
  induction steps generalizing tolerant with
  | nil => rfl
  | cons step rest ih =>
    rw [List.map_cons, fatal?_cons, fatal?_cons, errors, modes]
    cases step.error? with
    | none => exact ih _
    | some error =>
      cases tolerant with
      | true => exact ih true
      | false => rfl

theorem fatal?_renumber (f : Nat → Nat) (tolerant : Bool) (steps : List Step) :
    fatal? tolerant (steps.map (Step.renumber f)) =
      (fatal? tolerant steps).map (SourceError.renumber f) :=
  fatal?_map (Step.error?_renumber f) (fun _ _ => rfl) tolerant steps

theorem fatal?_shift (distance : Nat) (tolerant : Bool) (steps : List Step) :
    fatal? tolerant (steps.map (Step.shift distance)) =
      (fatal? tolerant steps).map (SourceError.shift distance) :=
  fatal?_renumber (· + distance) tolerant steps

theorem fatal?_of_accepted {steps : List Step} (accepted : ∀ step ∈ steps, step.error? = none)
    (tolerant : Bool) : fatal? tolerant steps = none := by
  induction steps generalizing tolerant with
  | nil => rfl
  | cons step rest ih =>
    obtain ⟨first, later⟩ := List.forall_mem_cons.mp accepted
    cases outcome : step.outcome with
    | ok effect =>
      simp only [fatal?, outcome]
      exact ih later _
    | error fault => simp [Step.error?, outcome] at first

/-- A compilation that ends early passes some steps, and ends at an error in the strict mode. -/
theorem split_of_stops {tolerant : Bool} {steps : List Step} {error : SourceError}
    (stops : fatal? tolerant steps = some error) :
    ∃ first step last, steps = first ++ step :: last ∧ fatal? tolerant first = none
      ∧ step.error? = some error ∧ first.foldl Step.tolerance tolerant = false := by
  induction steps generalizing tolerant with
  | nil => cases stops
  | cons step steps ih =>
    -- A step that is passed over goes to the front.
    have onwards (passes : ∀ rest,
        fatal? tolerant (step :: rest) = fatal? (step.tolerance tolerant) rest) :
        ∃ first next last, step :: steps = first ++ next :: last ∧ fatal? tolerant first = none
          ∧ next.error? = some error ∧ first.foldl Step.tolerance tolerant = false := by
      rw [passes] at stops
      obtain ⟨first, next, last, rfl, passed, failed, strict⟩ := ih stops
      exact ⟨step :: first, next, last, rfl, (passes first).trans passed, failed, strict⟩
    cases outcome : step.outcome with
    | ok effect => exact onwards fun rest => by rw [fatal?, Step.tolerance, outcome]
    | error fault =>
      cases tolerant with
      | true => exact onwards fun rest => by rw [fatal?, Step.tolerance, outcome]; rfl
      | false =>
        rw [fatal?, outcome] at stops
        cases stops
        exact ⟨[], step, steps, rfl, rfl, Step.error?_eq_some_iff.mpr ⟨outcome, rfl⟩, rfl⟩

theorem foldl_tolerance (tolerant : Bool) (steps : List Step) :
    steps.foldl Step.tolerance tolerant =
      (steps.filterMap Step.effect?).foldl Effect.tolerance tolerant := by
  induction steps generalizing tolerant with
  | nil => rfl
  | cons step steps ih =>
    cases outcome : step.outcome with
    | ok effect => simp [Step.tolerance, Step.effect?, outcome, ih]
    | error fault => simp [Step.tolerance, Step.effect?, outcome, ih]

end Source
end Assembler
