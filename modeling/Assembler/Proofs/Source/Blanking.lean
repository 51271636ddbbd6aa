import Assembler.Proofs.Source.Effects
import Assembler.Proofs.Source.Tolerance

/-! Faulty lines as blank lines. A statement that fails opens and closes no block and sets no mode,
so the other lines are read as if its line were blank: the steps that are left are the accepted
ones. -/
namespace Assembler.Source
open Statement

/-- A source with the lines of the given numbers left blank. -/
def blankAt (numbers : List Nat) (lines : List Text) : List Text :=
  lines.mapIdx fun i line => if i ∈ numbers then [] else line

def blankFrom (numbers : List Nat) : Nat → List Text → List Text
  | _, [] => []
  | next, line :: rest => (if next ∈ numbers then [] else line) :: blankFrom numbers (next + 1) rest

theorem mapIdx_eq_blankFrom (numbers : List Nat) (next : Nat) (lines : List Text) :
    (lines.mapIdx fun i line => if next + i ∈ numbers then [] else line) =
      blankFrom numbers next lines := by
  induction lines generalizing next with
  | nil => rfl
  | cons line rest ih =>
    rw [List.mapIdx_cons, blankFrom, ← ih (next + 1)]
    simp only [Nat.add_zero, Nat.add_assoc, Nat.add_comm 1]

theorem blankAt_eq (numbers : List Nat) (lines : List Text) :
    blankAt numbers lines = blankFrom numbers 0 lines := by
  rw [← mapIdx_eq_blankFrom]
  simp only [blankAt, Nat.zero_add]

theorem blockAfter_of_fault {joinColons : Bool} {statement : Statement} {fault : Fault}
    (meaning : statement.meaning joinColons = .error fault) (number : Nat) (block : Option Nat) :
    blockAfter number block (some statement) = block := by
  cases statement with
  | opener | closer => cases meaning
  | _ => rfl

/-- A line that is left blank exactly if its statement fails keeps a statement that is accepted, and
leads to the same block. -/
theorem on?_blank {settings : Settings} {numbers : List Nat} {block : Option Nat} {next : Nat}
    {line : Text} (failing : ∀ statement, on? settings block.isSome line = some statement →
      (next ∈ numbers ↔ (stepOf settings ⟨next, statement⟩).error?.isSome)) :
    on? settings block.isSome (if next ∈ numbers then [] else line) =
        (on? settings block.isSome line).filter
          (fun statement => (stepOf settings ⟨next, statement⟩).error?.isNone)
      ∧ blockAfter next block (on? settings block.isSome (if next ∈ numbers then [] else line)) =
        blockAfter next block (on? settings block.isSome line) := by
  cases found : on? settings block.isSome line with
  | none =>
    have silent : on? settings block.isSome (if next ∈ numbers then [] else line) = none := by
      split
      · exact on?_nil _ _
      · exact found
    rw [silent]
    exact ⟨rfl, rfl⟩
  | some statement =>
    have here := failing statement found
    cases meaning : statement.meaning settings.joinColons with
    | error fault =>
      have failed : (stepOf settings ⟨next, statement⟩).error? = some ⟨next, fault⟩ :=
        Step.error?_eq_some_iff.mpr ⟨meaning, rfl⟩
      have blank : next ∈ numbers := here.mpr (by rw [failed]; rfl)
      rw [if_pos blank, on?_nil, blockAfter_of_fault meaning]
      exact ⟨by simp only [Option.filter, failed]; rfl, rfl⟩
    | ok effect =>
      have accepted : (stepOf settings ⟨next, statement⟩).error? = none := by
        simp only [Step.error?, stepOf, meaning]
      have kept : next ∉ numbers := by
        rw [here, accepted]
        exact Bool.false_ne_true
      rw [if_neg kept, found]
      exact ⟨by simp only [Option.filter, accepted]; rfl, rfl⟩

/-- Blanking the lines of the statements that fail leaves the other statements, and the blocks
too. -/
theorem statementsFrom_blankFrom {settings : Settings} {numbers : List Nat} {block : Option Nat}
    {next : Nat} {lines : List Text}
    (failing : ∀ numbered ∈ statementsFrom settings block next lines,
      numbered.line ∈ numbers ↔ (stepOf settings numbered).error?.isSome) :
    statementsFrom settings block next (blankFrom numbers next lines) =
        (statementsFrom settings block next lines).filter
          (fun numbered => (stepOf settings numbered).error?.isNone)
      ∧ blockFrom settings block next (blankFrom numbers next lines) =
        blockFrom settings block next lines := by
  induction lines generalizing block next with
  | nil => exact ⟨rfl, rfl⟩
  | cons line rest ih =>
    have first (statement : Statement) (found : on? settings block.isSome line = some statement) :
        next ∈ numbers ↔ (stepOf settings ⟨next, statement⟩).error?.isSome :=
      failing ⟨next, statement⟩ (by simp [statementsFrom, found])
    obtain ⟨here, after⟩ := on?_blank first
    obtain ⟨statements, blocks⟩ := ih fun numbered member =>
      failing numbered (List.mem_append_right _ member)
    simp only [blankFrom, statementsFrom, blockFrom]
    rw [after, statements, blocks, here, List.filter_append]
    refine ⟨congrArg (· ++ _) ?_, rfl⟩
    cases on? settings block.isSome line with
    | none => rfl
    | some statement =>
      simp only [Option.filter, Option.map_some, Option.toList_some, List.filter_cons,
        List.filter_nil]
      split <;> rfl

theorem line_mem_errors_iff {settings : Settings} {lines : List Text}
    (closed : blockFrom settings none 0 lines = none) {numbered : NumberedStatement}
    (member : numbered ∈ statementsFrom settings none 0 lines) :
    numbered.line ∈ (errors settings lines).map SourceError.line ↔
      (stepOf settings numbered).error?.isSome := by
  rw [errors, trace_of_closed closed, Option.isSome_iff_exists]
  constructor
  · intro listed
    obtain ⟨error, taken, same⟩ := List.mem_map.mp listed
    obtain ⟨step, among, failed⟩ := List.mem_filterMap.mp taken
    obtain ⟨other, said, rfl⟩ := List.mem_map.mp among
    have line : other.line = error.line := (Step.error?_eq_some_iff.mp failed).2
    obtain rfl := eq_of_line_eq said member (line.trans same)
    exact ⟨error, failed⟩
  · rintro ⟨error, failed⟩
    have line : numbered.line = error.line := (Step.error?_eq_some_iff.mp failed).2
    refine List.mem_map.mpr ⟨error, ?_, line.symm⟩
    exact List.mem_filterMap.mpr ⟨_, List.mem_map_of_mem member, failed⟩

/-- With the faulty lines left blank, the accepted steps are left, at the lines where they were. -/
theorem trace_blankAt {settings : Settings} {lines : List Text}
    (closed : blockFrom settings none 0 lines = none) :
    trace settings (blankAt ((errors settings lines).map SourceError.line) lines) =
      (trace settings lines).filter (·.error?.isNone) := by
  obtain ⟨statements, blocks⟩ := statementsFrom_blankFrom fun numbered member =>
    line_mem_errors_iff closed member
  rw [← blankAt_eq] at statements blocks
  rw [trace_of_closed (blocks.trans closed), trace_of_closed closed, statements, List.filter_map]
  rfl

theorem effect?_filter_accepted (steps : List Step) :
    (steps.filter (·.error?.isNone)).filterMap Step.effect? = steps.filterMap Step.effect? := by
  have idle (step : Step) :
      (if step.error?.isNone then step.effect? else none) = step.effect? := by
    cases failed : step.error? with
    | none => rfl
    | some error =>
      have outcome := (Step.error?_eq_some_iff.mp failed).1
      simp only [Step.effect?, outcome]
      rfl
  rw [List.filterMap_filter]
  simp only [idle]

/-- A tolerated line might as well have been blank: without these lines the source compiles to the
same program in both modes, with nothing left to tolerate. In particular the steps that remain,
those that set the mode and those that open and close blocks among them, are the same as before. -/
theorem compile_blankAt_skipped {settings : Settings} {lines : List Text} {compiled : Compiled}
    (compiles : compile settings lines = .ok compiled)
    (ended : ∀ error ∈ compiled.skipped, error.fault ≠ .unclosedBlock) (tolerant : Bool) :
    let remaining := blankAt (compiled.skipped.map SourceError.line) lines
    compile { settings with tolerant } remaining = .ok ⟨compiled.program, []⟩
      ∧ trace settings remaining = (trace settings lines).filter (·.error?.isNone) := by
  intro remaining
  have steps : trace settings remaining = (trace settings lines).filter (·.error?.isNone) := by
    have blanked := trace_blankAt (closed_of_skipped compiles ended)
    rwa [← skipped_of_compile compiles] at blanked
  have accepted : ∀ step ∈ trace settings remaining, step.error? = none := by
    intro step member
    rw [steps] at member
    exact Option.isNone_iff_eq_none.mp (List.mem_filter.mp member).2
  refine ⟨?_, steps⟩
  rw [compile_eq_ok_iff, trace_tolerant]
  refine ⟨fatal?_of_accepted accepted _, ?_⟩
  rw [List.filterMap_eq_nil_iff.mpr accepted, steps, effect?_filter_accepted,
    program_of_compile compiles]
  rfl

/-- A directive, an entry and an operand that are wrong, before a directive that ends the
tolerance. -/
theorem compile_blankAt_skipped_three :
    let lines := ["#what", "RESOURCES", "INT:x", "STR:a", "END", "syscall x",
      "#ENABLE_COMPILER_ERRORS", "syscall 7"].map String.toList
    let remaining := ["", "RESOURCES", "", "STR:a", "END", "", "#ENABLE_COMPILER_ERRORS",
      "syscall 7"].map String.toList
    let program : Program :=
      { resources := [[0x61]]
        instructions := [⟨⟨⟨0, by decide +kernel⟩⟩, [7, 0], by decide +kernel⟩] }
    let skipped : List SourceError :=
      [⟨0, .unknownDirective "what".toList⟩, ⟨2, .badLiteral ⟨"x".toList, .scalar .int32⟩⟩,
        ⟨5, .badLiteral ⟨"x".toList, .scalar .uint16⟩⟩]
    compile { tolerant := true } lines = .ok ⟨program, skipped⟩
      ∧ (∀ error ∈ skipped, error.fault ≠ .unclosedBlock)
      ∧ compile { tolerant := true } remaining = .ok ⟨program, []⟩
      ∧ compile {} remaining = .ok ⟨program, []⟩ := by
  intro lines remaining program skipped
  have compiles : compile { tolerant := true } lines = .ok ⟨program, skipped⟩ :=
    compile_eq_ok_iff.mpr ⟨by decide +kernel +zetaReduce, by decide +kernel +zetaReduce⟩
  have ended : ∀ error ∈ skipped, error.fault ≠ .unclosedBlock := by decide +zetaReduce
  have blanked : blankAt (skipped.map SourceError.line) lines = remaining := by
    decide +kernel +zetaReduce
  have either := compile_blankAt_skipped compiles ended
  rw [blanked] at either
  exact ⟨compiles, ended, (either true).1, (either false).1⟩

end Assembler.Source
