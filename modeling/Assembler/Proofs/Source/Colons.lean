import Assembler.Proofs.Instruction
import Assembler.Proofs.Resource
import Assembler.Proofs.Source.Effects

/-! The colons of string resources. Whether they are dropped is settled inside of each entry, so a
source takes the same steps both ways: the same statements are accepted, in the same modes, and only
the blobs of strings and the literals of refused strings differ. -/
namespace Assembler

namespace Statement

theorem joined_of_encode {opcode : Opcode} {literals : List Text} {fault : Fault}
    (refused : Instruction.encode opcode literals = .error fault) : fault.joined = fault := by
  unfold Instruction.encode at refused
  split at refused
  · split at refused
    · rename_i bad read
      cases refused
      obtain ⟨pair, -, rfl⟩ := Instruction.encodeOperands_eq_error read
      rfl
    · cases refused
  · cases refused
    rfl

/-- No fault of an instruction is about a string. -/
theorem joined_of_readInstruction {text : Text} {fault : Fault}
    (refused : readInstruction text = .error fault) : fault.joined = fault := by
  unfold readInstruction at refused
  dsimp only at refused
  split at refused
  · cases refused
    rfl
  · exact joined_of_encode refused

/-- What a statement does in a source whose strings lose their colons. -/
def joinedEffect (statement : Statement) : Effect → Effect
  | .store blob =>
    match statement with
    | entry text => .store (Resource.joined text blob)
    | _ => .store blob
  | effect => effect

def joinedOutcome (statement : Statement) : Except Fault Effect → Except Fault Effect
  | .ok effect => .ok (statement.joinedEffect effect)
  | .error fault => .error fault.joined

/-- A directive stores nothing, and no fault of one is about a string. -/
theorem readDirective_frame (statement : Statement) (body : Text) :
    statement.joinedOutcome (readDirective body) = readDirective body
      ∧ (readDirective body).toOption.bind Effect.resource? = none := by
  rcases readDirective_cases body with ⟨effect, read, directed⟩ | ⟨key, read⟩
  · rw [read]
    cases effect with
    | assign | tolerate => exact ⟨rfl, rfl⟩
    | _ => cases directed
  · rw [read]
    exact ⟨rfl, rfl⟩

theorem meaning_joined (statement : Statement) :
    statement.meaning true = statement.joinedOutcome (statement.meaning false) := by
  cases statement with
  | directive body => exact (readDirective_frame (directive body) body).1.symm
  | instruction text =>
    simp only [meaning]
    cases read : readInstruction text with
    | ok instruction => rfl
    | error fault => exact congrArg Except.error (joined_of_readInstruction read).symm
  | entry text =>
    simp only [meaning]
    rw [Resource.parse_joined]
    cases Resource.parse false text <;> rfl
  | opener | closer | unclosed => rfl

def entryText? : Statement → Option Text
  | entry text => some text
  | _ => none

theorem resource?_meaning (joinColons : Bool) (statement : Statement) :
    (statement.meaning joinColons).toOption.bind Effect.resource? =
      statement.entryText?.bind fun text => (Resource.parse joinColons text).toOption := by
  cases statement with
  | directive body => exact (readDirective_frame (directive body) body).2
  | instruction text =>
    simp only [meaning]
    cases readInstruction text <;> rfl
  | entry text =>
    simp only [meaning]
    cases parsed : Resource.parse joinColons text <;> simp [entryText?, parsed] <;> rfl
  | opener | closer | unclosed => rfl

end Statement

def SourceError.joined (error : SourceError) : SourceError :=
  ⟨error.line, error.fault.joined⟩

/-- A step in a source whose strings lose their colons. -/
def Step.joined (step : Step) : Step :=
  ⟨step.line, step.statement, step.statement.joinedOutcome step.outcome⟩

theorem Step.effect?_joined (step : Step) :
    step.joined.effect? = step.effect?.map step.statement.joinedEffect := by
  cases outcome : step.outcome <;>
    simp only [Step.effect?, Step.joined, outcome, Statement.joinedOutcome] <;> rfl

theorem Step.error?_joined (step : Step) :
    step.joined.error? = step.error?.map SourceError.joined := by
  cases outcome : step.outcome <;>
    simp only [Step.error?, Step.joined, outcome, Statement.joinedOutcome] <;> rfl

/-- In a joined effect only the blob can differ. -/
theorem joinedEffect_frame (statement : Statement) (effect : Effect) :
    (∀ tolerant, (statement.joinedEffect effect).tolerance tolerant = effect.tolerance tolerant)
      ∧ (∀ field text, (statement.joinedEffect effect).assigned field text =
        effect.assigned field text)
      ∧ (statement.joinedEffect effect).instruction? = effect.instruction? := by
  cases effect with
  | store blob => cases statement <;> exact ⟨fun _ => rfl, fun _ _ => rfl, rfl⟩
  | _ => exact ⟨fun _ => rfl, fun _ _ => rfl, rfl⟩

theorem Step.tolerance_joined (tolerant : Bool) (step : Step) :
    step.joined.tolerance tolerant = step.tolerance tolerant := by
  cases outcome : step.outcome with
  | error fault => simp only [Step.tolerance, Step.joined, outcome, Statement.joinedOutcome]
  | ok effect =>
    simp only [Step.tolerance, Step.joined, outcome, Statement.joinedOutcome]
    exact (joinedEffect_frame step.statement effect).1 tolerant

namespace Source

theorem statements_joinColons (settings : Settings) (joinColons : Bool) (lines : List Text) :
    statements { settings with joinColons } lines = statements settings lines := rfl

theorem trace_joined (settings : Settings) (lines : List Text) :
    trace { settings with joinColons := true } lines =
      (trace { settings with joinColons := false } lines).map Step.joined := by
  simp only [trace, statements_joinColons, List.map_map]
  apply List.map_congr_left
  intro numbered _
  exact congrArg (Step.mk _ _) (Statement.meaning_joined numbered.statement)

def entryTexts (settings : Settings) (lines : List Text) : List Text :=
  (statements settings lines).filterMap (·.statement.entryText?)

/-- The entries that a source stores, one for each resource. -/
def storedEntries (settings : Settings) (lines : List Text) : List Text :=
  (entryTexts settings lines).filter fun text => (Resource.parse settings.joinColons text).isOk

theorem resource?_stepOf (settings : Settings) (numbered : NumberedStatement) :
    (stepOf settings numbered).effect?.bind Effect.resource? =
      numbered.statement.entryText?.bind fun text =>
        (Resource.parse settings.joinColons text).toOption := by
  rw [← Statement.resource?_meaning]
  simp only [Step.effect?, stepOf]
  cases numbered.statement.meaning settings.joinColons <;> rfl

theorem resources_effects (settings : Settings) (lines : List Text) :
    (program (effects settings lines)).resources =
      (entryTexts settings lines).filterMap fun text =>
        (Resource.parse settings.joinColons text).toOption := by
  have whole : trace settings lines = (statements settings lines).map (stepOf settings) := rfl
  simp only [program, effects, entryTexts, whole, List.filterMap_filterMap, List.filterMap_map,
    Function.comp_def, resource?_stepOf]

theorem blobs_joined (texts : List Text) :
    (texts.filter fun text => (Resource.parse false text).isOk).map (Resource.parse false) =
        (texts.filterMap fun text => (Resource.parse false text).toOption).map .ok
      ∧ (texts.filterMap fun text => (Resource.parse true text).toOption) =
        List.zipWith Resource.joined (texts.filter fun text => (Resource.parse false text).isOk)
          (texts.filterMap fun text => (Resource.parse false text).toOption) := by
  induction texts with
  | nil => exact ⟨rfl, rfl⟩
  | cons text texts ih =>
    obtain ⟨kept, joined⟩ := ih
    have both := Resource.parse_joined text
    cases parsed : Resource.parse false text with
    | ok blob =>
      rw [parsed] at both
      have accepted : (Resource.parse false text).isOk = true := by rw [parsed]; rfl
      have first : (Resource.parse false text).toOption = some blob := by rw [parsed]; rfl
      have second : (Resource.parse true text).toOption = some (Resource.joined text blob) := by
        rw [both]
        rfl
      simp only [List.filter_cons, List.filterMap_cons, accepted, first, second, if_true,
        List.map_cons, List.zipWith_cons_cons, kept, joined]
      exact ⟨by rw [parsed], trivial⟩
    | error fault =>
      rw [parsed] at both
      have refused : (Resource.parse false text).isOk = false := by rw [parsed]; rfl
      have first : (Resource.parse false text).toOption = none := by rw [parsed]; rfl
      have second : (Resource.parse true text).toOption = none := by
        rw [both]
        rfl
      simp only [List.filter_cons, List.filterMap_cons, refused, first, second, Bool.false_eq_true,
        if_false]
      exact ⟨kept, joined⟩

theorem resources_joined (settings : Settings) (lines : List Text) :
    let plain := { settings with joinColons := false }
    (program (effects plain lines)).resources.map .ok =
        (storedEntries plain lines).map (Resource.parse false)
      ∧ (program (effects { settings with joinColons := true } lines)).resources =
        List.zipWith Resource.joined (storedEntries plain lines)
          (program (effects plain lines)).resources := by
  intro plain
  obtain ⟨parsed, joined⟩ := blobs_joined (entryTexts plain lines)
  rw [resources_effects, resources_effects]
  exact ⟨parsed.symm, joined⟩

/-- Steps that lose the colons of their strings leave the same program but for the resources. -/
theorem program_joined (steps : List Step) :
    program ((steps.map Step.joined).filterMap Step.effect?) =
      { program (steps.filterMap Step.effect?) with
        resources := (program ((steps.map Step.joined).filterMap Step.effect?)).resources } := by
  have texts (field : Field) (start : Text) :
      ((steps.map Step.joined).filterMap Step.effect?).foldl (Effect.assigned field) start =
        (steps.filterMap Step.effect?).foldl (Effect.assigned field) start := by
    induction steps generalizing start with
    | nil => rfl
    | cons step steps ih =>
      rw [List.map_cons, List.filterMap_cons, List.filterMap_cons, Step.effect?_joined]
      cases step.effect? with
      | none => exact ih start
      | some effect =>
        simp only [Option.map_some, List.foldl_cons,
          (joinedEffect_frame step.statement effect).2.1]
        exact ih _
  have emitted (step : Step) :
      step.joined.effect?.bind Effect.instruction? = step.effect?.bind Effect.instruction? := by
    rw [Step.effect?_joined]
    cases step.effect? with
    | none => rfl
    | some effect => exact (joinedEffect_frame step.statement effect).2.2
  have instructions : ((steps.map Step.joined).filterMap Step.effect?).filterMap
      Effect.instruction? = (steps.filterMap Step.effect?).filterMap Effect.instruction? := by
    simp only [List.filterMap_filterMap, List.filterMap_map, Function.comp_def, emitted]
  simp only [program, texts, instructions]

/-- Dropping the colons of strings does not decide whether a source compiles. If it does, the texts,
the instructions and the lines of the errors are the same, and so are the resources, but that the
bytes of colons are missing from those of string entries. The one fault that is worded otherwise is
that of a string that is refused. -/
theorem compile_joinColons (settings : Settings) (lines : List Text) :
    let plain := { settings with joinColons := false }
    let joining := { settings with joinColons := true }
    ((∃ compiled, compile plain lines = .ok compiled) ↔
      ∃ compiled, compile joining lines = .ok compiled)
    ∧ (∀ kept joined, compile plain lines = .ok kept → compile joining lines = .ok joined →
      let stored := storedEntries plain lines
      kept.program.resources.map .ok = stored.map (Resource.parse false)
      ∧ joined.program = { kept.program with
        resources := List.zipWith Resource.joined stored kept.program.resources }
      ∧ joined.program.resources.length = kept.program.resources.length
      ∧ joined.skipped = kept.skipped.map SourceError.joined)
    ∧ ∀ error other, compile plain lines = .error error → compile joining lines = .error other →
      other = error.joined := by
  intro plain joining
  have steps : trace joining lines = (trace plain lines).map Step.joined :=
    trace_joined settings lines
  have verdict : fatal? settings.tolerant (trace joining lines) =
      (fatal? settings.tolerant (trace plain lines)).map SourceError.joined := by
    rw [steps, fatal?_map Step.error?_joined Step.tolerance_joined]
  refine ⟨?_, ?_, ?_⟩
  · rw [exists_compile_iff, exists_compile_iff, verdict, Option.map_eq_none_iff]
  · intro kept joined compiles compiles' stored
    obtain ⟨parsed, resources⟩ := resources_joined settings lines
    have others := program_joined (trace plain lines)
    rw [← steps] at others
    have errors : joined.skipped = kept.skipped.map SourceError.joined := by
      rw [skipped_of_compile compiles, skipped_of_compile compiles', Source.errors, steps]
      simp only [Source.errors, List.filterMap_map, List.map_filterMap, Function.comp_def,
        Step.error?_joined]
    rw [program_of_compile compiles, program_of_compile compiles']
    refine ⟨parsed, ?_, ?_, errors⟩
    · rw [← resources]
      exact others
    · have counted := congrArg List.length parsed
      rw [List.length_map, List.length_map] at counted
      rw [resources, List.length_zipWith, ← counted, Nat.min_self]
  · intro error other stops stops'
    rw [compile_eq_error_iff] at stops stops'
    have moved : some error.joined = some other := by
      rw [← stops', ← Option.map_some, ← stops]
      exact verdict.symm
    exact (Option.some.inj moved).symm

/-- A string, a number, a string of a character that is not ASCII, a byte and a string of colons
alone; and a source that is refused for its string. -/
theorem compile_joinColons_entries :
    let lines := ["RESOURCES", "STR:a:b", "INT:1:2", "String:\u00e9:", "BYTE:0000 0001", "str :::",
      "END"].map String.toList
    let refused := ["RESOURCES", "STR::\u00e9"].map String.toList
    let bad (literal : String) : Fault := .badLiteral ⟨literal.toList, .asciiString⟩
    let number : SourceError := ⟨2, .badLiteral ⟨"1:2".toList, .scalar .int32⟩⟩
    let kept : Compiled :=
      ⟨{ resources := [[0x61, 0x3A, 0x62], [1], [0x3A, 0x3A]] }, [number, ⟨3, bad "\u00e9:"⟩]⟩
    compile { tolerant := true } lines = .ok kept
      ∧ compile { tolerant := true, joinColons := true } lines =
        .ok ⟨{ resources := [[0x61, 0x62], [1], []] }, [number, ⟨3, bad "\u00e9"⟩]⟩
      ∧ compile {} refused = .error ⟨1, bad ":\u00e9"⟩
      ∧ ∃ error, compile { joinColons := true } refused = .error error
        ∧ error = ⟨1, bad "\u00e9"⟩ := by
  intro lines refused bad number kept
  have compiles : compile { tolerant := true } lines = .ok kept :=
    compile_eq_ok_iff.mpr (by decide +kernel +zetaReduce)
  have stops : compile {} refused = .error ⟨1, bad ":\u00e9"⟩ :=
    compile_eq_error_iff.mpr (by decide +kernel +zetaReduce)
  have stored : storedEntries { tolerant := true } lines =
      ["STR:a:b", "BYTE:0000 0001", "str :::"].map String.toList := by
    decide +kernel +zetaReduce
  obtain ⟨accepted, same, -⟩ := compile_joinColons { tolerant := true } lines
  obtain ⟨⟨program, skipped⟩, joins⟩ := accepted.mp ⟨kept, compiles⟩
  obtain ⟨-, fewer, -, errors⟩ := same kept _ compiles joins
  have resources : program = { resources := [[0x61, 0x62], [1], []] } := by
    refine fewer.trans ?_
    rw [show storedEntries _ lines = _ from stored]
    decide +kernel +zetaReduce
  have literals : skipped = [number, ⟨3, bad "\u00e9"⟩] := by
    refine errors.trans ?_
    decide +zetaReduce
  rw [resources, literals] at joins
  refine ⟨compiles, joins, stops, ?_⟩
  obtain ⟨either, -, moved⟩ := compile_joinColons {} refused
  cases result : compile { joinColons := true } refused with
  | ok compiled =>
    obtain ⟨other, passes⟩ := either.mpr ⟨compiled, result⟩
    cases stops.symm.trans passes
  | error error => exact ⟨error, rfl, moved _ _ stops result⟩

end Source
end Assembler
