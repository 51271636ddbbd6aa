import Assembler.Proofs.Source.Block
import Assembler.Proofs.Source.Concatenation
import Assembler.Proofs.Source.Spacing

/-! Which errors are tolerated. The mode at a line is the one that the last directive before it has
set, or the one of the settings if there is none, and every error is met in the mode at its line. A
block that is never closed is no exception: the error is raised at the end of the source and listed
at the line of the opener, but no line of a block sets the mode, so it is the same at both
places. -/
namespace Assembler

namespace Statement

/-- The words of the directives that set the mode, in upper case. -/
def modeWords : Bool → List Text
  | true => ["IGNORE_COMPILER_ERRORS".toList, "IGNORECOMPILERERRORS".toList]
  | false => ["ENABLE_COMPILER_ERRORS".toList, "ENABLECOMPILERERRORS".toList]

/-- A line that looks like a directive for the mode: what is left of it without leading blanks and
comment starts with the directive mark, and the word in front of the first colon is one for that
mode. -/
def SetsMode (settings : Settings) (line : Text) (on : Bool) : Prop :=
  ∃ body, settings.directiveMark ≠ []
    ∧ clean? settings.commentMark line = some (settings.directiveMark ++ body)
    ∧ Text.upper (Text.trim (body.takeWhile (· ≠ ':'))) ∈ modeWords on

theorem directiveEffect?_eq_tolerate_iff {key : Text} (value : Text) {on : Bool} :
    directiveEffect? key value = some (.tolerate on) ↔ key ∈ modeWords on := by
  constructor
  · intro known
    unfold directiveEffect? at known
    repeat' split at known
    all_goals cases known
    all_goals simpa [modeWords]
  · intro word
    cases on <;> simp only [modeWords, List.mem_cons, List.not_mem_nil, or_false] at word <;>
      rcases word with rfl | rfl <;> rfl

theorem readDirective_eq_tolerate_iff {body : Text} {on : Bool} :
    readDirective body = .ok (.tolerate on) ↔
      Text.upper (Text.trim (body.takeWhile (· ≠ ':'))) ∈ modeWords on := by
  have key : ((Text.cutAt? (· == ':') body).getD (body, [])).1 = body.takeWhile (· ≠ ':') := by
    rw [Text.cutAt?_left]
    congr
    funext c
    exact decide_not.symm
  rw [← key, ← directiveEffect?_eq_tolerate_iff
    (Text.trimStart ((Text.cutAt? (· == ':') body).getD (body, [])).2)]
  simp only [readDirective]
  split <;> simp_all

theorem setsMode_iff {settings : Settings} {line : Text} {on : Bool} :
    SetsMode settings line on ↔
      ∃ body, outside? settings line = some (.directive body)
        ∧ readDirective body = .ok (.tolerate on) := by
  simp only [SetsMode, outside?_eq_directive_iff, readDirective_eq_tolerate_iff, and_assoc]

theorem clean?_isPrefix {commentMark line text : Text}
    (cleaned : clean? commentMark line = some text) : text <+: Text.trimStart line := by
  simp only [clean?, Option.ite_none_left_eq_some, Option.some.injEq] at cleaned
  obtain ⟨-, rfl⟩ := cleaned
  split
  · exact List.prefix_refl _
  · exact Text.before_isPrefix _ _

/-- The words for a mode are told from the word that closes a block by one of their letters. -/
theorem not_closesBlock_of_setsMode {settings : Settings} {line : Text} {on : Bool}
    (sets : SetsMode settings line on) : closesBlock (Text.trimStart line) = false := by
  obtain ⟨body, -, cleaned, word⟩ := sets
  have letter : 'O' ∈ Text.upper (Text.trim (body.takeWhile (· ≠ ':'))) := by
    cases on <;> simp only [modeWords, List.mem_cons, List.not_mem_nil, or_false] at word <;>
      rcases word with same | same <;> rw [same] <;> decide
  obtain ⟨c, member, upper⟩ := List.mem_map.mp letter
  have solid : Text.isBlank c = false := Text.not_blank_of_toUpper (by rw [upper]; decide)
  have inBody : c ∈ body := (List.takeWhile_prefix _).subset (Text.mem_of_mem_trim member)
  have inLine : c ∈ Text.trimStart line :=
    (clean?_isPrefix cleaned).subset (List.mem_append_right _ inBody)
  apply decide_eq_false
  intro closes
  have kept : c.toUpper ∈ Text.upper (Text.trim (Text.trimStart line)) :=
    List.mem_map_of_mem (Text.mem_trim inLine solid)
  rw [closes, upper] at kept
  exact absurd kept (by decide)

end Statement

namespace Source
open Statement

/-- Inside of a block a line that looks like a directive for the mode is an entry. -/
theorem inside?_of_setsMode {settings : Settings} {line : Text} {on : Bool}
    (sets : SetsMode settings line on) :
    inside? settings line = some (.entry (Text.trimStart line)) := by
  obtain ⟨body, marked, cleaned, -⟩ := id sets
  have said : outside? settings line = some (.directive body) :=
    outside?_eq_directive_iff.mpr ⟨marked, cleaned⟩
  have written : (Text.trimStart line).isEmpty = false := by
    apply List.isEmpty_eq_false_iff.mpr
    intro nothing
    have start := clean?_isPrefix cleaned
    rw [nothing, List.prefix_nil, List.append_eq_nil_iff] at start
    exact marked start.1
  have noComment : isComment settings.commentMark (Text.trimStart line) = false := by
    apply Bool.eq_false_iff.mpr
    intro comment
    simp only [isComment, Bool.and_eq_true, Bool.not_eq_true', List.isEmpty_eq_false_iff,
      List.isPrefixOf_iff_prefix] at comment
    have silent : outside? settings line = none := on?_of_comment comment.1 comment.2 false
    rw [said] at silent
    cases silent
  simp only [inside?, written, noComment, not_closesBlock_of_setsMode sets]
  rfl

/-- The line with a given number is carried out as a directive for the mode. Inside of a block no
line is. -/
def SetsModeAt (settings : Settings) (lines : List Text) (number : Nat) (on : Bool) : Prop :=
  blockFrom settings none 0 (lines.take number) = none
    ∧ ∃ line, lines[number]? = some line ∧ SetsMode settings line on

/-- The mode at a line: the one that the last directive before it has set, or the one of the
settings if there is no such directive. -/
def ModeAt (settings : Settings) (lines : List Text) (number : Nat) (on : Bool) : Prop :=
  (∃ last < number, SetsModeAt settings lines last on
      ∧ ∀ later, last < later → later < number → ∀ other, ¬ SetsModeAt settings lines later other)
    ∨ settings.tolerant = on
      ∧ ∀ earlier < number, ∀ other, ¬ SetsModeAt settings lines earlier other

theorem toleranceAfter_eq (settings : Settings) (lines : List Text) :
    toleranceAfter settings lines =
      ((statementsFrom settings none 0 lines).map (stepOf settings)).foldl Step.tolerance
        settings.tolerant := by
  rw [← foldl_tolerance_trace, trace_eq, List.map_append, List.foldl_append]
  cases blockFrom settings none 0 lines <;> rfl

theorem toleranceAfter_snoc (settings : Settings) (front : List Text) (line : Text) :
    toleranceAfter settings (front ++ [line]) =
      match on? settings (blockFrom settings none 0 front).isSome line with
      | none => toleranceAfter settings front
      | some statement =>
        (stepOf settings ⟨front.length, statement⟩).tolerance (toleranceAfter settings front) := by
  rw [toleranceAfter_eq, toleranceAfter_eq, statementsFrom_append, List.map_append,
    List.foldl_append, statementsFrom, Nat.zero_add]
  cases on? settings (blockFrom settings none 0 front).isSome line <;> rfl

theorem toleranceAfter_of_set {settings : Settings} {lines : List Text} {number : Nat} {on : Bool}
    (set : SetsModeAt settings lines number on) :
    toleranceAfter settings (lines.take (number + 1)) = on := by
  obtain ⟨outside, line, here, sets⟩ := set
  obtain ⟨body, said, read⟩ := setsMode_iff.mp sets
  have found : on? settings (none : Option Nat).isSome line = some (.directive body) := said
  rw [List.take_add_one, here, Option.toList_some, toleranceAfter_snoc, outside, found]
  simp only [Step.tolerance, stepOf, meaning, read]
  rfl

theorem toleranceAfter_of_not_set {settings : Settings} {lines : List Text} {number : Nat}
    (unset : ∀ on, ¬ SetsModeAt settings lines number on) :
    toleranceAfter settings (lines.take (number + 1)) =
      toleranceAfter settings (lines.take number) := by
  rw [List.take_add_one]
  cases here : lines[number]? with
  | none => rw [Option.toList_none, List.append_nil]
  | some line =>
    rw [Option.toList_some, toleranceAfter_snoc]
    cases found : on? settings (blockFrom settings none 0 (lines.take number)).isSome line with
    | none => rfl
    | some statement =>
      dsimp only [Step.tolerance, stepOf]
      cases meaning : statement.meaning settings.joinColons with
      | error fault => rfl
      | ok effect =>
        cases effect with
        | tolerate on =>
          obtain ⟨body, rfl, read⟩ := directive_of_meaning meaning trivial
          cases block : blockFrom settings none 0 (lines.take number) with
          | none =>
            rw [block] at found
            exact absurd ⟨block, line, here, setsMode_iff.mpr ⟨body, found, read⟩⟩ (unset on)
          | some opener =>
            rw [block] at found
            exact absurd found (inside?_ne_directive settings line body)
        | _ => rfl

theorem toleranceAfter_of_none_between {settings : Settings} {lines : List Text} {first last : Nat}
    (ordered : first ≤ last)
    (unset : ∀ number, first ≤ number → number < last →
      ∀ on, ¬ SetsModeAt settings lines number on) :
    toleranceAfter settings (lines.take last) = toleranceAfter settings (lines.take first) := by
  induction ordered with
  | refl => rfl
  | @step last ordered ih =>
    have here := unset last ordered (Nat.lt_succ_self last)
    rw [Nat.succ_eq_add_one, toleranceAfter_of_not_set here]
    exact ih fun number behind before => unset number behind (Nat.lt_succ_of_lt before)

theorem modeAt_toleranceAfter (settings : Settings) (lines : List Text) (number : Nat) :
    ModeAt settings lines number (toleranceAfter settings (lines.take number)) := by
  induction number with
  | zero => exact Or.inr ⟨rfl, fun _ before => by cases before⟩
  | succ number ih =>
    by_cases set : ∃ on, SetsModeAt settings lines number on
    · obtain ⟨on, set⟩ := set
      rw [toleranceAfter_of_set set]
      exact Or.inl ⟨number, Nat.lt_succ_self number, set, fun later behind before => by omega⟩
    · have unset : ∀ on, ¬ SetsModeAt settings lines number on := fun on here => set ⟨on, here⟩
      rw [toleranceAfter_of_not_set unset]
      rcases ih with ⟨last, before, sets, between⟩ | ⟨same, unchanged⟩
      · refine Or.inl ⟨last, Nat.lt_succ_of_lt before, sets, ?_⟩
        intro later behind bound
        rcases Nat.lt_succ_iff_lt_or_eq.mp bound with smaller | rfl
        · exact between later behind smaller
        · exact unset
      · refine Or.inr ⟨same, ?_⟩
        intro earlier bound
        rcases Nat.lt_succ_iff_lt_or_eq.mp bound with smaller | rfl
        · exact unchanged earlier smaller
        · exact unset

/-- The mode at a line is the one that the lines before it leave. -/
theorem toleranceAfter_take_iff {settings : Settings} {lines : List Text} {number : Nat}
    {on : Bool} :
    toleranceAfter settings (lines.take number) = on ↔ ModeAt settings lines number on := by
  constructor
  · rintro rfl
    exact modeAt_toleranceAfter settings lines number
  · rintro (⟨last, before, sets, between⟩ | ⟨rfl, unchanged⟩)
    · rw [toleranceAfter_of_none_between before between, toleranceAfter_of_set sets]
    · exact toleranceAfter_of_none_between (Nat.zero_le number) fun earlier _ => unchanged earlier

/-- A statement of a source comes behind the statements on the lines in front of its own. -/
theorem split_statementsFrom {settings : Settings} {block : Option Nat} {next : Nat}
    {lines : List Text} {first last : List NumberedStatement} {numbered : NumberedStatement}
    (whole : statementsFrom settings block next lines = first ++ numbered :: last) :
    ∃ front back, lines = front ++ back ∧ numbered.line = next + front.length
      ∧ statementsFrom settings block next front = first := by
  induction lines generalizing block next first with
  | nil => simp [statementsFrom] at whole
  | cons line lines ih =>
    rw [statementsFrom] at whole
    cases found : on? settings block.isSome line with
    | none =>
      rw [found] at whole
      obtain ⟨front, back, rfl, number, same⟩ := ih whole
      refine ⟨line :: front, back, rfl, ?_, ?_⟩
      · rw [number, List.length_cons]
        omega
      · rw [statementsFrom, found]
        exact same
    | some statement =>
      rw [found] at whole
      cases first with
      | nil =>
        cases whole
        exact ⟨[], line :: lines, rfl, rfl, rfl⟩
      | cons head first =>
        simp only [Option.map_some, Option.toList_some, List.cons_append, List.nil_append,
          List.cons.injEq] at whole
        obtain ⟨rfl, later⟩ := whole
        obtain ⟨front, back, rfl, number, same⟩ := ih later
        refine ⟨line :: front, back, rfl, ?_, ?_⟩
        · rw [number, List.length_cons]
          omega
        · rw [statementsFrom, found]
          exact congrArg (_ :: ·) same

/-- A block that is never closed ends in the mode in which it was opened. -/
theorem toleranceAfter_open {settings : Settings} {front body : List Text} {line : Text}
    (opened : blockFrom settings none 0 (front ++ line :: body) = some front.length) :
    toleranceAfter settings (front ++ line :: body) = toleranceAfter settings front := by
  obtain ⟨outside, opens, keeps⟩ := opener_of_blockFrom opened
  rw [toleranceAfter_eq, toleranceAfter_eq, statementsFrom_append, outside,
    (scan_opener opens _ _).1, (scan_entries keeps _ _).1, List.map_append, List.foldl_append,
    List.map_cons, List.foldl_cons, foldl_tolerance_entries]
  rfl

theorem tolerance_at_step {settings : Settings} {lines : List Text} {first last : List Step}
    {step : Step} (taken : trace settings lines = first ++ step :: last) :
    first.foldl Step.tolerance settings.tolerant =
      toleranceAfter settings (lines.take step.line) := by
  rw [trace_eq, List.map_eq_append_iff] at taken
  obtain ⟨before, rest, whole, rfl, remaining⟩ := taken
  obtain ⟨numbered, behind, rfl, rfl, rfl⟩ := List.map_eq_cons_iff.mp remaining
  -- Either the statement stands on a line, or it is the last one, for a block that is open at the end.
  have place : (∃ later, statementsFrom settings none 0 lines = before ++ numbered :: later)
      ∨ before = statementsFrom settings none 0 lines
        ∧ blockFrom settings none 0 lines = some numbered.line := by
    cases opened : blockFrom settings none 0 lines with
    | none =>
      rw [opened, unclosed, List.append_nil] at whole
      exact Or.inl ⟨behind, whole⟩
    | some opener =>
      rw [opened, unclosed] at whole
      rcases List.eq_nil_or_concat behind with rfl | ⟨later, final, rfl⟩
      · obtain ⟨same, only⟩ := List.append_inj' whole rfl
        cases only
        exact Or.inr ⟨same.symm, rfl⟩
      · rw [List.concat_eq_append, ← List.cons_append, ← List.append_assoc] at whole
        exact Or.inl ⟨later, (List.append_inj' whole rfl).1⟩
  rcases place with ⟨later, whole⟩ | ⟨rfl, opened⟩
  · obtain ⟨front, back, rfl, number, rfl⟩ := split_statementsFrom whole
    have line : (stepOf settings numbered).line = front.length := by
      rw [← Nat.zero_add front.length]
      exact number
    rw [line, List.take_left, toleranceAfter_eq]
  · obtain ⟨front, line, body, rfl, length⟩ := exists_opener opened
    have number : (stepOf settings numbered).line = front.length := length.symm
    rw [← length] at opened
    rw [← toleranceAfter_eq, toleranceAfter_open opened, number, List.take_left]

theorem tolerant_of_passes {tolerant : Bool} {first last : List Step} {step : Step}
    {error : SourceError} (passes : fatal? tolerant (first ++ step :: last) = none)
    (failed : step.error? = some error) : first.foldl Step.tolerance tolerant = true := by
  obtain ⟨outcome, -⟩ := Step.error?_eq_some_iff.mp failed
  rw [fatal?_append, Option.or_eq_none_iff, fatal?, outcome] at passes
  cases mode : first.foldl Step.tolerance tolerant with
  | true => rfl
  | false =>
    rw [mode] at passes
    cases passes.2

theorem strict_of_stops {tolerant : Bool} {steps : List Step} {error : SourceError}
    (stops : fatal? tolerant steps = some error) :
    ∃ first step last, steps = first ++ step :: last ∧ step.error? = some error
      ∧ first.foldl Step.tolerance tolerant = false := by
  obtain ⟨first, step, last, whole, -, failed, strict⟩ := split_of_stops stops
  exact ⟨first, step, last, whole, failed, strict⟩

/-- Whether an error is tolerated is up to the directives in front of it. The mode at a line is the
one that the last of them has set, or the one of the settings; the errors that are passed over are
met in the tolerant mode, and the one that ends a compilation in the strict one. A line of a block
that looks like such a directive is an entry and leaves the mode alone. So a source that is read in
the tolerant mode throughout compiles, whatever is wrong with it. -/
theorem tolerance_by_directives (settings : Settings) (lines : List Text) :
    (∀ number on, toleranceAfter settings (lines.take number) = on ↔
      ModeAt settings lines number on)
    ∧ (∀ compiled, compile settings lines = .ok compiled →
      ∀ error ∈ compiled.skipped, ModeAt settings lines error.line true)
    ∧ (∀ error, compile settings lines = .error error → ModeAt settings lines error.line false)
    ∧ (∀ number line on, lines[number]? = some line → SetsMode settings line on →
      blockFrom settings none 0 (lines.take number) ≠ none →
      ⟨number, .entry (Text.trimStart line)⟩ ∈ statements settings lines
        ∧ toleranceAfter settings (lines.take (number + 1)) =
          toleranceAfter settings (lines.take number))
    ∧ (settings.tolerant = true → (∀ number, ¬ SetsModeAt settings lines number false) →
      ∃ compiled, compile settings lines = .ok compiled) := by
  have stops (error : SourceError) (refused : compile settings lines = .error error) :
      ModeAt settings lines error.line false := by
    obtain ⟨first, step, last, taken, failed, strict⟩ :=
      strict_of_stops (compile_eq_error_iff.mp refused)
    rw [tolerance_at_step taken, (Step.error?_eq_some_iff.mp failed).2] at strict
    exact toleranceAfter_take_iff.mp strict
  refine ⟨fun _ _ => toleranceAfter_take_iff, ?_, stops, ?_, ?_⟩
  · intro compiled compiles error listed
    rw [skipped_of_compile compiles] at listed
    obtain ⟨step, member, failed⟩ := List.mem_filterMap.mp listed
    obtain ⟨first, last, taken⟩ := List.append_of_mem member
    have passes := (compile_eq_ok_iff.mp compiles).1
    rw [taken] at passes
    have tolerant := tolerant_of_passes passes failed
    rw [tolerance_at_step taken, (Step.error?_eq_some_iff.mp failed).2] at tolerant
    exact toleranceAfter_take_iff.mp tolerant
  · intro number line on here sets inside
    refine ⟨mem_statements here ?_, toleranceAfter_of_not_set fun other set => inside set.1⟩
    rw [Option.isSome_iff_ne_none.mpr inside]
    exact inside?_of_setsMode sets
  · intro tolerant never
    cases result : compile settings lines with
    | ok compiled => exact ⟨compiled, rfl⟩
    | error error =>
      rcases stops error result with ⟨last, -, set, -⟩ | ⟨strict, -⟩
      · exact absurd set (never last)
      · rw [tolerant] at strict
        cases strict

/-- Two sources that begin in the tolerant mode. In the first a directive brings it back, in any
case and with a value, and a block keeps it to the end; in the second a line of a block would, but
is an entry. -/
theorem tolerance_by_directives_toggled :
    let front := ["#what", "#ENABLE_COMPILER_ERRORS"].map String.toList
    let tolerated := front
      ++ [" # IgnoreCompilerErrors : x", "RESOURCES", "#ENABLE_COMPILER_ERRORS"].map String.toList
    let refused := front ++ ["RESOURCES", "#IGNORECOMPILERERRORS"].map String.toList
    let skipped : List SourceError := [⟨0, .unknownDirective "what".toList⟩,
      ⟨4, .noSeparator "#ENABLE_COMPILER_ERRORS".toList⟩, ⟨3, .unclosedBlock⟩]
    compile { tolerant := true } tolerated = .ok ⟨{}, skipped⟩
      ∧ (∀ error ∈ skipped, ModeAt { tolerant := true } tolerated error.line true)
      ∧ compile { tolerant := true } refused =
        .error ⟨3, .noSeparator "#IGNORECOMPILERERRORS".toList⟩
      ∧ ModeAt { tolerant := true } refused 3 false := by
  intro front tolerated refused skipped
  have compiles : compile { tolerant := true } tolerated = .ok ⟨{}, skipped⟩ :=
    compile_eq_ok_iff.mpr (by decide +kernel +zetaReduce)
  have stops : compile { tolerant := true } refused =
      .error ⟨3, .noSeparator "#IGNORECOMPILERERRORS".toList⟩ :=
    compile_eq_error_iff.mpr (by decide +kernel +zetaReduce)
  obtain ⟨-, passedOver, -⟩ := tolerance_by_directives { tolerant := true } tolerated
  obtain ⟨-, -, ended, -⟩ := tolerance_by_directives { tolerant := true } refused
  exact ⟨compiles, passedOver _ compiles, stops, ended _ stops⟩

end Source
end Assembler
