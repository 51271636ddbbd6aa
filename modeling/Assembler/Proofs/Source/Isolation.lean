import Assembler.Proofs.Source.Block
import Assembler.Proofs.Source.Concatenation

/-! A resource block apart from the rest of its source. The lines inside of it are entries whatever
they look like, so they store resources and raise errors of their own: the directives, the
instructions and the other blocks of the source are those that it has without them. -/
namespace Assembler

namespace Source
open Statement

/-- A block in a source. It is opened on the line behind `front`, it is the block in progress when
its last line comes, and that line ends it. -/
structure Encloses (settings : Settings) (front : List Text) (opener : Text) (body : List Text)
    (closer : Text) : Prop where
  opened : blockFrom settings none 0 (front ++ opener :: body) = some front.length
  closed : blockFrom settings none 0 (front ++ opener :: (body ++ [closer])) = none

def blobs (settings : Settings) (entries : List (Text × Nat)) : List Bytes :=
  entries.filterMap fun (text, _) => (Resource.parse settings.joinColons text).toOption

def entryErrors (settings : Settings) (entries : List (Text × Nat)) : List SourceError :=
  entries.filterMap fun (text, number) =>
    match Resource.parse settings.joinColons text with
    | .ok _ => none
    | .error fault => some ⟨number, fault⟩

def blockSteps (settings : Settings) (start : Nat) (body : List Text) : List Step :=
  stepOf settings ⟨start, .opener⟩ ::
    (((entries settings (start + 1) body).map entryStatement).map (stepOf settings)
      ++ [stepOf settings ⟨start + 1 + body.length, .closer⟩])

theorem scan_closer {settings : Settings} {closer : Text}
    (closes : inside? settings closer = some .closer) (opener next : Nat) :
    statementsFrom settings (some opener) next [closer] = [⟨next, .closer⟩]
      ∧ blockFrom settings (some opener) next [closer] = none := by
  have found : on? settings (some opener).isSome closer = some .closer := closes
  simp only [statementsFrom, blockFrom, found]
  exact ⟨rfl, rfl⟩

theorem closer_of_closed {settings : Settings} {opener next : Nat} {line : Text}
    (closed : blockFrom settings (some opener) next [line] = none) :
    inside? settings line = some .closer := by
  have found : on? settings (some opener).isSome line = inside? settings line := rfl
  rw [blockFrom, blockFrom, found] at closed
  rcases inside?_cases settings line with said | said | ⟨text, said⟩
  · rw [said] at closed
    cases closed
  · exact said
  · rw [said] at closed
    cases closed

/-- An entry stores its blob or raises its error. -/
theorem entryStep_eq (settings : Settings) (entry : Text × Nat) :
    (stepOf settings (entryStatement entry)).effect? =
        (Resource.parse settings.joinColons entry.1).toOption.map .store
      ∧ (stepOf settings (entryStatement entry)).error? =
        match Resource.parse settings.joinColons entry.1 with
        | .ok _ => none
        | .error fault => some ⟨entry.2, fault⟩ := by
  simp only [Step.effect?, Step.error?, stepOf, entryStatement, meaning]
  cases Resource.parse settings.joinColons entry.1 <;> exact ⟨rfl, rfl⟩

theorem effects_blockSteps (settings : Settings) (start : Nat) (body : List Text) :
    (blockSteps settings start body).filterMap Step.effect? =
      .openBlock :: ((blobs settings (entries settings (start + 1) body)).map .store
        ++ [.closeBlock]) := by
  have stores : (((entries settings (start + 1) body).map entryStatement).map
      (stepOf settings)).filterMap Step.effect? =
        (blobs settings (entries settings (start + 1) body)).map .store := by
    simp only [blobs, List.map_map, List.filterMap_map, List.map_filterMap, Function.comp_def,
      (entryStep_eq settings _).1]
  rw [blockSteps, List.filterMap_cons, List.filterMap_append, stores]
  rfl

theorem errors_blockSteps (settings : Settings) (start : Nat) (body : List Text) :
    (blockSteps settings start body).filterMap Step.error? =
      entryErrors settings (entries settings (start + 1) body) := by
  have own : (((entries settings (start + 1) body).map entryStatement).map
      (stepOf settings)).filterMap Step.error? =
        entryErrors settings (entries settings (start + 1) body) := by
    simp only [entryErrors, List.map_map, List.filterMap_map, Function.comp_def,
      (entryStep_eq settings _).2]
  rw [blockSteps, List.filterMap_cons, List.filterMap_append, own]
  exact List.append_nil _

theorem foldl_tolerance_blockSteps (settings : Settings) (start : Nat) (body : List Text)
    (tolerant : Bool) :
    (blockSteps settings start body).foldl Step.tolerance tolerant = tolerant := by
  rw [blockSteps, List.foldl_cons, List.foldl_append, foldl_tolerance_entries]
  rfl

/-- What stores resources changes nothing else in a program. -/
theorem program_store (front back : List Effect) (stored : List Bytes) :
    program (front ++ (stored.map .store ++ back)) =
      { program (front ++ back) with
        resources := front.filterMap Effect.resource?
          ++ (stored ++ back.filterMap Effect.resource?) } := by
  have texts (field : Field) (start : Text) :
      (stored.map Effect.store).foldl (Effect.assigned field) start = start := by
    apply foldl_of_forall
    intro effect member
    obtain ⟨blob, -, rfl⟩ := List.mem_map.mp member
    exact fun _ => rfl
  have resources : (stored.map Effect.store).filterMap Effect.resource? = stored := by
    rw [List.filterMap_map]
    exact List.filterMap_some
  have instructions : (stored.map Effect.store).filterMap Effect.instruction? = [] := by
    rw [List.filterMap_eq_nil_iff]
    intro effect member
    obtain ⟨blob, -, rfl⟩ := List.mem_map.mp member
    rfl
  simp only [program, List.foldl_append, List.filterMap_append, texts, resources, instructions,
    List.nil_append]

theorem program_block (first last : List Effect) (stored : List Bytes) :
    program (first ++ (.openBlock :: (stored.map .store ++ [.closeBlock]) ++ last)) =
      { program (first ++ last) with
        resources := first.filterMap Effect.resource?
          ++ (stored ++ last.filterMap Effect.resource?) } := by
  have opening : ∀ effect ∈ [Effect.openBlock], effect.Quiet := by simp [Effect.Quiet]
  have closing : ∀ effect ∈ [Effect.closeBlock], effect.Quiet := by simp [Effect.Quiet]
  rw [List.cons_append, ← List.singleton_append, program_quiet opening, List.append_assoc,
    program_store, program_quiet closing]
  rfl

theorem block_append (front body back : List Text) (opener closer : Text) :
    front ++ opener :: (body ++ closer :: back) =
      (front ++ opener :: (body ++ [closer])) ++ back := by
  simp only [List.append_assoc, List.cons_append, List.nil_append]

section Enclosed

variable {settings : Settings} {front body : List Text} {opener closer : Text}

theorem Encloses.lines (encloses : Encloses settings front opener body closer) :
    blockFrom settings none 0 front = none ∧ outside? settings opener = some .opener
      ∧ (∀ line ∈ body, inside? settings line ≠ some .closer)
      ∧ inside? settings closer = some .closer := by
  obtain ⟨before, opens, keeps⟩ := opener_of_blockFrom encloses.opened
  refine ⟨before, opens, keeps, ?_⟩
  have closed := encloses.closed
  rw [← List.cons_append, ← List.append_assoc, blockFrom_append, encloses.opened] at closed
  exact closer_of_closed closed

/-- The block that is left when the lines inside of one are taken out. -/
theorem Encloses.bare (encloses : Encloses settings front opener body closer) :
    Encloses settings front opener [] closer := by
  obtain ⟨before, opens, -, closes⟩ := encloses.lines
  refine ⟨?_, ?_⟩
  · rw [blockFrom_append, before, (scan_opener opens _ _).2, Nat.zero_add]
    rfl
  · rw [blockFrom_append, before, (scan_opener opens _ _).2]
    exact (scan_closer closes _ _).2

/-- Up to the end of the block, a source takes the steps in front of it and those of the block. -/
theorem Encloses.trace_eq (encloses : Encloses settings front opener body closer) :
    trace settings (front ++ opener :: (body ++ [closer])) =
      trace settings front ++ blockSteps settings front.length body := by
  obtain ⟨before, opens, keeps, closes⟩ := encloses.lines
  obtain ⟨inner, stays⟩ := scan_entries keeps front.length (front.length + 1)
  rw [trace_of_closed encloses.closed, trace_of_closed before, statementsFrom_append, before,
    Nat.zero_add, (scan_opener opens _ _).1, statementsFrom_append, inner, stays,
    (scan_closer closes _ _).1, List.map_append, List.map_cons, List.map_append]
  rfl

theorem Encloses.effects_eq (encloses : Encloses settings front opener body closer)
    (back : List Text) :
    effects settings (front ++ opener :: (body ++ closer :: back)) =
      effects settings front
        ++ (.openBlock :: ((blobs settings (entries settings (front.length + 1) body)).map .store
          ++ [.closeBlock]) ++ effects settings back) := by
  rw [block_append, effects_append encloses.closed, ← effects_blockSteps, ← List.append_assoc]
  simp only [effects, encloses.trace_eq, List.filterMap_append]

theorem Encloses.errors_eq (encloses : Encloses settings front opener body closer)
    (back : List Text) :
    errors settings (front ++ opener :: (body ++ closer :: back)) =
      errors settings front ++ (entryErrors settings (entries settings (front.length + 1) body)
        ++ (errors settings back).map (SourceError.shift (front.length + 2 + body.length))) := by
  have length :
      (front ++ opener :: (body ++ [closer])).length = front.length + 2 + body.length := by
    simp only [List.length_append, List.length_cons, List.length_nil]
    omega
  rw [block_append, errors_append encloses.closed, length, ← errors_blockSteps, ← List.append_assoc]
  simp only [errors, encloses.trace_eq, List.filterMap_append]

/-- A source with a block passes if its three parts do, each in the mode that the first one ends
in. -/
theorem Encloses.passes_iff (encloses : Encloses settings front opener body closer)
    (back : List Text) :
    fatal? settings.tolerant (trace settings (front ++ opener :: (body ++ closer :: back))) = none ↔
      fatal? settings.tolerant (trace settings front) = none
        ∧ fatal? (toleranceAfter settings front) (blockSteps settings front.length body) = none
        ∧ fatal? (toleranceAfter settings front) (trace settings back) = none := by
  rw [block_append, trace_append encloses.closed, encloses.trace_eq, fatal?_append, fatal?_append,
    List.foldl_append, foldl_tolerance_blockSteps, foldl_tolerance_trace, fatal?_shift,
    Option.or_eq_none_iff, Option.or_eq_none_iff, Option.map_eq_none_iff, and_assoc]

/-- A block stands apart from its source. If the source compiles, it does so without the lines
inside of the block too, and these lines account for the whole difference: their entries store their
resources behind those of the lines in front, and raise their errors at their own lines. -/
theorem compile_block {back : List Text} {whole : Compiled}
    (encloses : Encloses settings front opener body closer)
    (compiles : compile settings (front ++ opener :: (body ++ closer :: back)) = .ok whole) :
    ∃ (bare first : Compiled) (resources : List Bytes) (skipped : List SourceError),
      compile settings (front ++ opener :: closer :: back) = .ok bare
      ∧ compile settings front = .ok first
      ∧ bare.program.resources = first.program.resources ++ resources
      ∧ bare.skipped = first.skipped ++ skipped
      ∧ (∀ error ∈ first.skipped, error.line < front.length)
      ∧ (∀ error ∈ skipped, front.length + 2 ≤ error.line)
      ∧ let inside := entries settings (front.length + 1) body
        whole.program = { bare.program with
          resources := first.program.resources ++ (blobs settings inside ++ resources) }
        ∧ whole.skipped = first.skipped
          ++ (entryErrors settings inside ++ skipped.map (SourceError.shift body.length)) := by
  obtain ⟨passes, -, behind⟩ := (encloses.passes_iff back).mp (compile_eq_ok_iff.mp compiles).1
  have without := (encloses.bare.passes_iff back).mpr ⟨passes, rfl, behind⟩
  have bareErrors : errors settings (front ++ opener :: closer :: back) =
      errors settings front ++ (errors settings back).map (SourceError.shift (front.length + 2)) :=
    encloses.bare.errors_eq back
  have bareProgram : program (effects settings (front ++ opener :: closer :: back)) =
      { program (effects settings front ++ effects settings back) with
        resources := (effects settings front).filterMap Effect.resource?
          ++ (effects settings back).filterMap Effect.resource? } :=
    (congrArg program (encloses.bare.effects_eq back)).trans (program_block _ _ [])
  refine ⟨⟨program (effects settings (front ++ opener :: closer :: back)),
      errors settings (front ++ opener :: closer :: back)⟩,
    ⟨program (effects settings front), errors settings front⟩,
    (effects settings back).filterMap Effect.resource?,
    (errors settings back).map (SourceError.shift (front.length + 2)),
    compile_eq_ok_iff.mpr ⟨without, rfl⟩, compile_eq_ok_iff.mpr ⟨passes, rfl⟩,
    congrArg Program.resources bareProgram, bareErrors,
    fun _ raised => line_lt_of_mem_errors raised, ?_, ?_, ?_⟩
  · intro error raised
    obtain ⟨earlier, -, rfl⟩ := List.mem_map.mp raised
    exact Nat.le_add_left _ _
  · rw [program_of_compile compiles, encloses.effects_eq, program_block, bareProgram]
    rfl
  · have further : SourceError.shift body.length ∘ SourceError.shift (front.length + 2) =
        SourceError.shift (front.length + 2 + body.length) := by
      funext error
      simp only [Function.comp_apply, SourceError.shift, Nat.add_assoc]
    rw [skipped_of_compile compiles, encloses.errors_eq, List.map_map, further]

end Enclosed

/-- Everything in a block is an entry: a directive, a comment behind a value, the word that opens
blocks, and what only starts like its last line. The directive does not end the tolerance, and the
lines behind the block are read as before. -/
theorem compile_block_entries :
    let front := ["#IGNORE_COMPILER_ERRORS", "#what", "RESOURCES", "STR:p", "END"].map String.toList
    let opener := "\tresources".toList
    let body := ["#ENABLE_COMPILER_ERRORS", " STR:a // b", "// c", "RESOURCES", "END // d"].map
      String.toList
    let closer := " end ".toList
    let back := ["#title: t", "RESOURCES", "STR:q", "#who"].map String.toList
    let what : SourceError := ⟨1, .unknownDirective "what".toList⟩
    let inside : List SourceError := [⟨6, .noSeparator "#ENABLE_COMPILER_ERRORS".toList⟩,
      ⟨9, .noSeparator "RESOURCES".toList⟩, ⟨10, .noSeparator "END // d".toList⟩]
    let whole : Compiled :=
      ⟨{ title := ['t'], resources := [[0x70], [0x61, 0x20, 0x2F, 0x2F, 0x20, 0x62], [0x71]] },
        what :: inside ++ [⟨15, .noSeparator "#who".toList⟩, ⟨13, .unclosedBlock⟩]⟩
    Encloses {} front opener body closer
      ∧ compile {} (front ++ opener :: (body ++ closer :: back)) = .ok whole
      ∧ ∃ bare resources skipped, compile {} (front ++ opener :: closer :: back) = .ok bare
        ∧ bare.program.resources = [0x70] :: resources ∧ bare.skipped = what :: skipped
        ∧ whole.program = { bare.program with
          resources := [0x70] :: [0x61, 0x20, 0x2F, 0x2F, 0x20, 0x62] :: resources }
        ∧ whole.skipped = what :: (inside ++ skipped.map (SourceError.shift 5)) := by
  intro front opener body closer back what inside whole
  have encloses : Encloses {} front opener body closer :=
    ⟨by decide +kernel +zetaReduce, by decide +kernel +zetaReduce⟩
  have compiles : compile {} (front ++ opener :: (body ++ closer :: back)) = .ok whole :=
    compile_eq_ok_iff.mpr (by decide +kernel +zetaReduce)
  have before : compile {} front = .ok ⟨{ resources := [[0x70]] }, [what]⟩ :=
    compile_eq_ok_iff.mpr (by decide +kernel +zetaReduce)
  have stores : blobs {} (entries {} (front.length + 1) body) =
      [[0x61, 0x20, 0x2F, 0x2F, 0x20, 0x62]] := by decide +kernel +zetaReduce
  have raises : entryErrors {} (entries {} (front.length + 1) body) = inside := by
    decide +kernel +zetaReduce
  obtain ⟨bare, first, resources, skipped, without, passes, stored, listed, -, -, same, errors⟩ :=
    compile_block encloses compiles
  cases passes.symm.trans before
  rw [stores] at same
  rw [raises] at errors
  exact ⟨encloses, compiles, bare, resources, skipped, without, stored, listed, same, errors⟩

end Source
end Assembler
