import Assembler.Proofs.Source.Block
import Assembler.Proofs.Source.Grammar
import Mathlib.Data.List.Induction
import Mathlib.Data.List.TakeWhile

/-! The account of a source. A line that counts ends in one place: it is an instruction, a resource,
a directive that is carried out, one of the two ends of a block, or an error that was skipped. The
errors come in the order of their lines, but for that of a block that is never closed, which is
known at the end only and listed at the line of the opener. -/
namespace Assembler

namespace Statement

/-- Whether a line counts. Outside of blocks something has to be left of it without its comment, and
inside it may be neither blank nor a comment. -/
def isSignificant (settings : Settings) (inside : Bool) (line : Text) : Bool :=
  if inside then ! line.all Text.isBlank && ! isComment settings.commentMark (Text.trimStart line)
  else (clean? settings.commentMark line).isSome

def isAcceptedDirective (settings : Settings) (inside : Bool) (line : Text) : Bool :=
  ! inside &&
    match outside? settings line with
    | some (.directive body) => (readDirective body).isOk
    | _ => false

def isOpener (settings : Settings) (inside : Bool) (line : Text) : Bool :=
  ! inside && outside? settings line = some .opener

def isCloser (settings : Settings) (inside : Bool) (line : Text) : Bool :=
  inside && inside? settings line = some .closer

theorem isSignificant_eq (settings : Settings) (inside : Bool) (line : Text) :
    isSignificant settings inside line = (on? settings inside line).isSome := by
  cases inside with
  | false => exact Option.isSome_map.symm
  | true =>
    have blank : line.all Text.isBlank = (Text.trimStart line).isEmpty := by
      rw [Bool.eq_iff_iff, List.all_eq_true, List.isEmpty_iff]
      exact List.dropWhile_eq_nil_iff.symm
    simp only [isSignificant, on?, inside?, blank, if_true, ← Bool.not_or]
    cases (Text.trimStart line).isEmpty || isComment settings.commentMark (Text.trimStart line) with
    | true => rfl
    | false =>
      rw [if_neg Bool.false_ne_true]
      split <;> rfl

theorem isAcceptedDirective_eq (settings : Settings) (inside : Bool) (line : Text) :
    isAcceptedDirective settings inside line =
      match on? settings inside line with
      | some (.directive body) => (readDirective body).isOk
      | _ => false := by
  cases inside with
  | false => rfl
  | true =>
    have said : on? settings true line = inside? settings line := rfl
    rw [said]
    rcases Source.inside?_cases settings line with here | here | ⟨text, here⟩ <;> rw [here] <;> rfl

theorem isOpener_eq (settings : Settings) (inside : Bool) (line : Text) :
    isOpener settings inside line = decide (on? settings inside line = some .opener) := by
  cases inside with
  | false => rfl
  | true =>
    have said : on? settings true line = inside? settings line := rfl
    rw [said]
    rcases Source.inside?_cases settings line with here | here | ⟨text, here⟩ <;> rw [here] <;> rfl

theorem isCloser_eq (settings : Settings) (inside : Bool) (line : Text) :
    isCloser settings inside line = decide (on? settings inside line = some .closer) := by
  cases inside with
  | true => rfl
  | false =>
    have said : on? settings false line = outside? settings line := rfl
    rw [said]
    rcases Source.outside?_cases settings line with here | ⟨body, here⟩ | here | ⟨text, here⟩ <;>
      rw [here] <;> rfl

theorem parse_ne_unclosedBlock (joinColons : Bool) (entry : Text) :
    Resource.parse joinColons entry ≠ .error .unclosedBlock := by
  intro failed
  unfold Resource.parse at failed
  split at failed
  · cases failed
  · split at failed
    · cases failed
    · rename_i kind _
      dsimp only at failed
      generalize kind.encode _ = encoded at failed
      cases encoded <;> cases failed

/-- Only the end of a source can be wrong by leaving a block open. -/
theorem meaning_ne_unclosedBlock {statement : Statement} (other : statement ≠ .unclosed)
    (joinColons : Bool) : statement.meaning joinColons ≠ .error .unclosedBlock := by
  intro failed
  cases statement with
  | directive body =>
    rcases readDirective_cases body with ⟨effect, read, -⟩ | ⟨key, read⟩ <;>
      simp [meaning, read] at failed
  | opener | closer => cases failed
  | instruction text =>
    rw [meaning] at failed
    cases read : readInstruction text <;> rw [read] at failed <;> cases failed
    exact readInstruction_ne_unclosedBlock text read
  | entry text =>
    rw [meaning] at failed
    cases read : Resource.parse joinColons text <;> rw [read] at failed <;> cases failed
    exact parse_ne_unclosedBlock joinColons text read
  | unclosed => exact other rfl

end Statement

namespace Source
open Statement

/-- How many lines of a source are of some sort, told by the line and by whether a block is open
there. -/
def countLines (settings : Settings) (sort : Bool → Text → Bool) (lines : List Text) : Nat :=
  lines.zipIdx.countP fun (line, number) =>
    sort (blockFrom settings none 0 (lines.take number)).isSome line

theorem countLines_concat (settings : Settings) (sort : Bool → Text → Bool) (front : List Text)
    (line : Text) :
    countLines settings sort (front ++ [line]) =
      countLines settings sort front
        + (sort (blockFrom settings none 0 front).isSome line).toNat := by
  have earlier : front.zipIdx.countP (fun (line', number) =>
        sort (blockFrom settings none 0 ((front ++ [line]).take number)).isSome line') =
      countLines settings sort front := by
    apply List.countP_congr
    rintro ⟨other, number⟩ member
    have before := List.mem_zipIdx' member
    simp only [List.take_append_of_le_length (Nat.le_of_lt before.1)]
  rw [countLines, List.zipIdx_append, List.countP_append, earlier]
  cases here : sort (blockFrom settings none 0 front).isSome line <;> simp [here]

def yield (steps : List Step) : Nat :=
  ((steps.filterMap Step.effect?).filterMap Effect.instruction?).length
    + ((steps.filterMap Step.effect?).filterMap Effect.resource?).length
    + (steps.filterMap Step.error?).length

theorem yield_append (front back : List Step) :
    yield (front ++ back) = yield front + yield back := by
  simp only [yield, List.filterMap_append, List.length_append]
  omega

theorem yield_of_ok {step : Step} {effect : Effect} (accepted : step.outcome = .ok effect) :
    yield [step] = effect.instruction?.toList.length + effect.resource?.toList.length := by
  have done : step.effect? = some effect := Step.effect?_eq_some_iff.mpr accepted
  have passed : step.error? = none := by simp only [Step.error?, accepted]
  simp only [yield, List.filterMap_cons, List.filterMap_nil, done, passed]
  cases effect <;> rfl

theorem yield_of_error {step : Step} {fault : Fault} (refused : step.outcome = .error fault) :
    yield [step] = 1 := by
  have idle : step.effect? = none := by simp only [Step.effect?, refused]
  have failed : step.error? = some ⟨step.line, fault⟩ := Step.error?_eq_some_iff.mpr ⟨refused, rfl⟩
  simp only [yield, List.filterMap_cons, List.filterMap_nil, idle, failed]
  rfl

/-- A statement gives one of these, or its line is a directive that is carried out or one end of a
block. -/
theorem yield_stepOf {settings : Settings} {inside : Bool} {line : Text} {statement : Statement}
    (said : on? settings inside line = some statement) (number : Nat) :
    yield [stepOf settings ⟨number, statement⟩]
      + (isAcceptedDirective settings inside line).toNat + (isOpener settings inside line).toNat
      + (isCloser settings inside line).toNat = 1 := by
  rw [isAcceptedDirective_eq, isOpener_eq, isCloser_eq, said]
  cases statement with
  | directive body =>
    rcases readDirective_cases body with ⟨effect, read, directed⟩ | ⟨key, read⟩
    · rw [yield_of_ok read]
      dsimp only
      rw [read]
      cases effect <;> cases directed <;> rfl
    · rw [yield_of_error read]
      dsimp only
      rw [read]
      rfl
  | opener | closer | unclosed => rfl
  | instruction text =>
    have outcome : (stepOf settings ⟨number, .instruction text⟩).outcome =
        (readInstruction text).map .emit := by simp only [stepOf, meaning]
    cases read : readInstruction text <;> rw [read] at outcome
    · rw [yield_of_error outcome]
      rfl
    · rw [yield_of_ok outcome]
      rfl
  | entry text =>
    have outcome : (stepOf settings ⟨number, .entry text⟩).outcome =
        (Resource.parse settings.joinColons text).map .store := by simp only [stepOf, meaning]
    cases read : Resource.parse settings.joinColons text <;> rw [read] at outcome
    · rw [yield_of_error outcome]
      rfl
    · rw [yield_of_ok outcome]
      rfl

/-- The steps at the lines, without the one for a block that is open at the end. -/
def lineSteps (settings : Settings) (lines : List Text) : List Step :=
  (statementsFrom settings none 0 lines).map (stepOf settings)

theorem lineSteps_concat (settings : Settings) (front : List Text) (line : Text) :
    lineSteps settings (front ++ [line]) =
      lineSteps settings front
        ++ ((on? settings (blockFrom settings none 0 front).isSome line).map
          fun statement => stepOf settings ⟨front.length, statement⟩).toList := by
  rw [lineSteps, statementsFrom_append, List.map_append, Nat.zero_add]
  simp only [statementsFrom, List.append_nil]
  cases on? settings (blockFrom settings none 0 front).isSome line <;> rfl

theorem yield_lineSteps (settings : Settings) (lines : List Text) :
    yield (lineSteps settings lines) + countLines settings (isAcceptedDirective settings) lines
      + countLines settings (isOpener settings) lines
      + countLines settings (isCloser settings) lines =
        countLines settings (isSignificant settings) lines := by
  induction lines using List.reverseRecOn with
  | nil => rfl
  | append_singleton front line ih =>
    simp only [lineSteps_concat, yield_append, countLines_concat, isSignificant_eq]
    cases said : on? settings (blockFrom settings none 0 front).isSome line with
    | none =>
      -- A line that says nothing is of none of these sorts.
      simp only [isAcceptedDirective_eq, isOpener_eq, isCloser_eq, said]
      exact ih
    | some statement =>
      have here := yield_stepOf said front.length
      simp only [Option.map_some, Option.toList_some, Option.isSome_some, Bool.toNat_true]
      omega

/-- The line with a given number opens a block that no line closes. -/
def OpenSince (settings : Settings) (lines : List Text) (number : Nat) : Prop :=
  ∃ front line body, lines = front ++ line :: body ∧ front.length = number
    ∧ blockFrom settings none 0 front = none ∧ outside? settings line = some .opener
    ∧ ∀ later ∈ body, inside? settings later ≠ some .closer

theorem openSince_iff {settings : Settings} {lines : List Text} {number : Nat} :
    OpenSince settings lines number ↔ blockFrom settings none 0 lines = some number := by
  constructor
  · rintro ⟨front, line, body, rfl, rfl, closed, opens, keeps⟩
    rw [blockFrom_append, closed, Nat.zero_add, (scan_opener opens _ body).2]
    exact (scan_entries keeps _ _).2
  · intro opened
    obtain ⟨front, line, body, rfl, rfl⟩ := exists_opener opened
    exact ⟨front, line, body, rfl, rfl, opener_of_blockFrom opened⟩

theorem effects_eq_lineSteps (settings : Settings) (lines : List Text) :
    effects settings lines = (lineSteps settings lines).filterMap Step.effect? := by
  rw [effects, trace_eq, List.map_append, List.filterMap_append]
  cases blockFrom settings none 0 lines with
  | none => exact List.append_nil _
  | some opener => exact List.append_nil _

theorem errors_eq_lineSteps (settings : Settings) (lines : List Text) :
    errors settings lines =
      (lineSteps settings lines).filterMap Step.error?
        ++ (blockFrom settings none 0 lines).toList.map fun opener => ⟨opener, .unclosedBlock⟩ := by
  rw [errors, trace_eq, List.map_append, List.filterMap_append]
  cases blockFrom settings none 0 lines <;> rfl

theorem of_mem_lineErrors {settings : Settings} {lines : List Text} {error : SourceError}
    (raised : error ∈ (lineSteps settings lines).filterMap Step.error?) :
    ∃ numbered ∈ statementsFrom settings none 0 lines, numbered.line = error.line
      ∧ numbered.statement.meaning settings.joinColons = .error error.fault := by
  obtain ⟨step, taken, failed⟩ := List.mem_filterMap.mp raised
  obtain ⟨numbered, said, rfl⟩ := List.mem_map.mp taken
  obtain ⟨outcome, line⟩ := Step.error?_eq_some_iff.mp failed
  exact ⟨numbered, said, line, outcome⟩

theorem lineErrors_ne_unclosedBlock {settings : Settings} {lines : List Text} {error : SourceError}
    (raised : error ∈ (lineSteps settings lines).filterMap Step.error?) :
    error.fault ≠ .unclosedBlock := by
  obtain ⟨numbered, said, -, failed⟩ := of_mem_lineErrors raised
  intro same
  rw [same] at failed
  exact meaning_ne_unclosedBlock (statementsFrom_ne_unclosed numbered said) _ failed

theorem pairwise_lineErrors (settings : Settings) (lines : List Text) :
    ((lineSteps settings lines).filterMap Step.error?).Pairwise fun first second =>
      first.line < second.line := by
  rw [lineSteps, List.filterMap_map]
  refine List.Pairwise.filterMap _ ?_ (pairwise_statementsFrom settings none 0 lines)
  intro first second before error failed error' failed'
  rw [← (Step.error?_eq_some_iff.mp failed).2, ← (Step.error?_eq_some_iff.mp failed').2]
  exact before

/-- The line that opens a block is accepted, whether or not the block is closed. -/
theorem opener_not_mem_lineErrors {settings : Settings} {lines : List Text} {number : Nat}
    (opened : OpenSince settings lines number) :
    ∀ error ∈ (lineSteps settings lines).filterMap Step.error?, error.line ≠ number := by
  intro error raised same
  obtain ⟨numbered, said, line, failed⟩ := of_mem_lineErrors raised
  obtain ⟨front, start, body, rfl, rfl, closed, opens, -⟩ := opened
  have opener :
      ⟨front.length, .opener⟩ ∈ statementsFrom settings none 0 (front ++ start :: body) := by
    rw [statementsFrom_append, closed, Nat.zero_add, (scan_opener opens _ body).1]
    simp
  obtain rfl := eq_of_line_eq said opener (line.trans same)
  cases failed

theorem nodup_errors (settings : Settings) (lines : List Text) :
    ((errors settings lines).map SourceError.line).Nodup := by
  have distinct : (((lineSteps settings lines).filterMap Step.error?).map SourceError.line).Nodup :=
    List.pairwise_map.mpr ((pairwise_lineErrors settings lines).imp Nat.ne_of_lt)
  rw [errors_eq_lineSteps]
  cases opened : blockFrom settings none 0 lines with
  | none => simpa using distinct
  | some number =>
    have other := opener_not_mem_lineErrors (openSince_iff.mpr opened)
    rw [List.map_append, List.nodup_append]
    refine ⟨distinct, by simp, ?_⟩
    rintro _ early _ late
    obtain ⟨error, raised, rfl⟩ := List.mem_map.mp early
    obtain rfl := List.mem_singleton.mp late
    exact other error raised

theorem countP_errors (settings : Settings) (lines : List Text) :
    (errors settings lines).countP (fun error => error.fault ≠ .unclosedBlock) =
      ((lineSteps settings lines).filterMap Step.error?).length := by
  have regular : ((lineSteps settings lines).filterMap Step.error?).countP
      (fun error => error.fault ≠ .unclosedBlock) = _ :=
    List.countP_eq_length.mpr fun error raised =>
      decide_eq_true (lineErrors_ne_unclosedBlock raised)
  rw [errors_eq_lineSteps, List.countP_append, regular]
  cases blockFrom settings none 0 lines <;> rfl

theorem mem_errors_of_stops {settings : Settings} {lines : List Text} {error : SourceError}
    (stops : compile settings lines = .error error) : error ∈ errors settings lines := by
  obtain ⟨first, step, last, split, -, failed, -⟩ := split_of_stops (compile_eq_error_iff.mp stops)
  exact List.mem_filterMap.mpr ⟨step, by simp [split], failed⟩

/-- Every significant line of a source that compiles is accounted for, and every error is at a line
of its own. They come in the order of the lines, but that of a block that is left open comes last,
at the line of the opener. The error that ends a compilation is at a line of the source too. -/
theorem lines_accounted (settings : Settings) (lines : List Text) :
    (∀ compiled, compile settings lines = .ok compiled →
      (∀ error ∈ compiled.skipped, error.line < lines.length)
      ∧ (compiled.skipped.map SourceError.line).Nodup
      ∧ (∃ regular last, compiled.skipped = regular ++ last
        ∧ (regular.Pairwise fun first second => first.line < second.line)
        ∧ (∀ error ∈ regular, error.fault ≠ .unclosedBlock)
        ∧ (last = [] ∧ (∀ number, ¬ OpenSince settings lines number)
          ∨ ∃ number, last = [⟨number, .unclosedBlock⟩] ∧ OpenSince settings lines number))
      ∧ compiled.program.instructions.length + compiled.program.resources.length
          + compiled.skipped.countP (fun error => error.fault ≠ .unclosedBlock)
          + countLines settings (isAcceptedDirective settings) lines
          + countLines settings (isOpener settings) lines
          + countLines settings (isCloser settings) lines =
        countLines settings (isSignificant settings) lines)
    ∧ ∀ error, compile settings lines = .error error → error.line < lines.length := by
  refine ⟨?_, fun error stops => line_lt_of_mem_errors (mem_errors_of_stops stops)⟩
  intro compiled compiles
  rw [skipped_of_compile compiles, program_of_compile compiles]
  refine ⟨fun error => line_lt_of_mem_errors, nodup_errors settings lines, ?_, ?_⟩
  · refine ⟨_, _, errors_eq_lineSteps settings lines, pairwise_lineErrors settings lines,
      fun error => lineErrors_ne_unclosedBlock, ?_⟩
    simp only [openSince_iff]
    cases blockFrom settings none 0 lines <;> simp
  · rw [countP_errors, effects_eq_lineSteps]
    exact yield_lineSteps settings lines

/-- Two blocks, of which the second is left open. Its error is listed behind that of a later
line. -/
theorem lines_accounted_blocks :
    let lines := ["#IGNORE_COMPILER_ERRORS", "#what", "resources", " //", "str:c", "end",
      "addvar 1", "RESOURCES", "who"].map String.toList
    let compiled : Compiled :=
      ⟨{ resources := [[0x63]]
         instructions := [⟨⟨⟨3, by decide +kernel⟩⟩, [1, 0, 0, 0], by decide +kernel⟩] },
        [⟨1, .unknownDirective "what".toList⟩, ⟨8, .noSeparator "who".toList⟩, ⟨7, .unclosedBlock⟩]⟩
    compile {} lines = .ok compiled
      ∧ (compiled.skipped.map SourceError.line).Nodup
      ∧ countLines {} (isAcceptedDirective {}) lines = 1 ∧ countLines {} (isOpener {}) lines = 2
      ∧ countLines {} (isCloser {}) lines = 1
      ∧ 1 + 1 + 2 + 1 + 2 + 1 = countLines {} (isSignificant {}) lines
      ∧ compile {} (lines.drop 1) = .error ⟨0, .unknownDirective "what".toList⟩
      ∧ 0 < (lines.drop 1).length := by
  intro lines compiled
  have compiles : compile {} lines = .ok compiled :=
    compile_eq_ok_iff.mpr ⟨by decide +kernel +zetaReduce, by decide +kernel +zetaReduce⟩
  have stops : compile {} (lines.drop 1) = .error ⟨0, .unknownDirective "what".toList⟩ :=
    compile_eq_error_iff.mpr (by decide +kernel +zetaReduce)
  have directives : countLines {} (isAcceptedDirective {}) lines = 1 := by
    decide +kernel +zetaReduce
  have openers : countLines {} (isOpener {}) lines = 2 := by decide +kernel +zetaReduce
  have closers : countLines {} (isCloser {}) lines = 1 := by decide +kernel +zetaReduce
  obtain ⟨-, distinct, -, sum⟩ := (lines_accounted {} lines).1 compiled compiles
  rw [directives, openers, closers] at sum
  exact ⟨compiles, distinct, directives, openers, closers, sum, stops,
    (lines_accounted {} (lines.drop 1)).2 _ stops⟩

end Source
end Assembler
