import Assembler.Proofs.Source.Effects
import Assembler.Proofs.Text.Words

/-! The spacing of a source. Lines that say nothing, inside of a block or outside, can be put in
anywhere: the source takes the same steps, and those behind such a line have the next number. Blanks
at the start of a line are not looked at. -/
namespace Assembler

namespace Text

theorem trimStart_trimStart (line : Text) : trimStart (trimStart line) = trimStart line :=
  trimStart_of_head fun _ => not_blank_of_head_trimStart

end Text

namespace Source
open Statement

/-- A line of blanks, or one whose first characters other than blanks are the comment mark. -/
def Idle (settings : Settings) (line : Text) : Prop :=
  (∀ c ∈ line, Text.isBlank c = true)
    ∨ settings.commentMark ≠ [] ∧ settings.commentMark <+: Text.trimStart line

theorem on?_trimStart (settings : Settings) (inside : Bool) (line : Text) :
    on? settings inside (Text.trimStart line) = on? settings inside line := by
  cases inside with
  | false => simp only [on?, Bool.false_eq_true, if_false, outside?, clean?,
    Text.trimStart_trimStart]
  | true => simp only [on?, if_true, inside?, Text.trimStart_trimStart]

/-- A comment is found by a search in the line outside of blocks, and by its start inside of
them. -/
theorem on?_of_comment {settings : Settings} {line : Text} (marked : settings.commentMark ≠ [])
    (comment : settings.commentMark <+: Text.trimStart line) (inside : Bool) :
    on? settings inside line = none := by
  have some : settings.commentMark.isEmpty = false := List.isEmpty_eq_false_iff.mpr marked
  cases inside with
  | false =>
    obtain ⟨rest, same⟩ := comment
    have nothing : Text.before settings.commentMark (Text.trimStart line) = [] := by
      rw [← same]
      exact Text.before_append marked rest
    have clean : clean? settings.commentMark line = none := by
      simp [clean?, some, nothing]
    simp only [on?, outside?, clean]
    rfl
  | true =>
    have starts : isComment settings.commentMark (Text.trimStart line) = true := by
      rw [isComment, some, List.isPrefixOf_iff_prefix.mpr comment]
      rfl
    simp [on?, inside?, starts]

theorem Idle.on?_eq_none {settings : Settings} {line : Text} (idle : Idle settings line)
    (inside : Bool) : on? settings inside line = none := by
  rcases idle with blank | ⟨marked, comment⟩
  · rw [← on?_trimStart, Text.trimStart_of_blank blank]
    exact on?_nil settings inside
  · exact on?_of_comment marked comment inside

/-- The number that a line gets when another line is put in at `place`. -/
def makeRoom (place number : Nat) : Nat :=
  if number < place then number else number + 1

theorem makeRoom_of_lt {place number : Nat} (before : number < place) :
    makeRoom place number = number :=
  if_pos before

theorem makeRoom_of_le {place number : Nat} (behind : place ≤ number) :
    makeRoom place number = number + 1 :=
  if_neg (Nat.not_lt.mpr behind)

theorem makeRoom_succ {place number : Nat} (behind : place ≤ number) :
    makeRoom place (number + 1) = makeRoom place number + 1 := by
  rw [makeRoom_of_le behind, makeRoom_of_le (Nat.le_succ_of_le behind)]

theorem statementsFrom_silent_cons {settings : Settings} {line : Text}
    (silent : ∀ inside, on? settings inside line = none) (block : Option Nat) (next : Nat)
    (lines : List Text) :
    statementsFrom settings block next (line :: lines) =
      statementsFrom settings block (next + 1) lines := by
  simp [statementsFrom, silent, blockAfter]

theorem blockFrom_silent_cons {settings : Settings} {line : Text}
    (silent : ∀ inside, on? settings inside line = none) (block : Option Nat) (next : Nat)
    (lines : List Text) :
    blockFrom settings block next (line :: lines) = blockFrom settings block (next + 1) lines := by
  simp [blockFrom, silent, blockAfter]

/-- A line that says nothing moves the lines behind it, and only them. A block that is open there
keeps its number, as it was opened before. -/
theorem trace_insert {settings : Settings} {line : Text}
    (silent : ∀ inside, on? settings inside line = none) (front back : List Text) :
    trace settings (front ++ line :: back) =
      (trace settings (front ++ back)).map (Step.renumber (makeRoom front.length)) := by
  have counts : ∀ n, front.length ≤ n →
      makeRoom front.length (n + 1) = makeRoom front.length n + 1 := fun _ => makeRoom_succ
  have block : (blockFrom settings none 0 front).map (makeRoom front.length) =
      blockFrom settings none 0 front := by
    cases opened : blockFrom settings none 0 front with
    | none => rfl
    | some opener =>
      have bound := blockFrom_lt (by simp) opener opened
      rw [Nat.zero_add] at bound
      exact congrArg some (makeRoom_of_lt bound)
  have before : (statementsFrom settings none 0 front).map
      (NumberedStatement.renumber (makeRoom front.length)) =
        statementsFrom settings none 0 front := by
    refine (List.map_congr_left fun numbered member => ?_).trans (List.map_id _)
    have bound := line_lt_of_mem_statementsFrom member
    rw [Nat.zero_add] at bound
    rw [NumberedStatement.renumber, makeRoom_of_lt bound, id_eq]
  have behind := statementsFrom_renumber counts settings (blockFrom settings none 0 front) back
  have after := blockFrom_renumber counts settings (blockFrom settings none 0 front) back
  rw [block, makeRoom_of_le (Nat.le_refl _)] at behind after
  have statements : statementsFrom settings none 0 (front ++ line :: back)
        ++ unclosed (blockFrom settings none 0 (front ++ line :: back)) =
      (statementsFrom settings none 0 (front ++ back)
        ++ unclosed (blockFrom settings none 0 (front ++ back))).map
          (NumberedStatement.renumber (makeRoom front.length)) := by
    rw [statementsFrom_append, statementsFrom_append, blockFrom_append, blockFrom_append,
      statementsFrom_silent_cons silent, blockFrom_silent_cons silent, Nat.zero_add, behind, after,
      unclosed_renumber, List.map_append, List.map_append, before]
  rw [trace_eq, trace_eq, statements, List.map_map, List.map_map]
  rfl

/-- What compiling gives, with the errors at lines of other numbers. -/
def renumber (f : Nat → Nat) : Except SourceError Compiled → Except SourceError Compiled
  | .ok compiled => .ok ⟨compiled.program, compiled.skipped.map (SourceError.renumber f)⟩
  | .error error => .error (error.renumber f)

theorem outcome_renumber (f : Nat → Nat) (tolerant : Bool) (steps : List Step) :
    outcome tolerant (steps.map (Step.renumber f)) = renumber f (outcome tolerant steps) := by
  have effects : (steps.map (Step.renumber f)).filterMap Step.effect? =
      steps.filterMap Step.effect? := by
    rw [List.filterMap_map]
    rfl
  have errors : (steps.map (Step.renumber f)).filterMap Step.error? =
      (steps.filterMap Step.error?).map (SourceError.renumber f) := by
    simp only [List.filterMap_map, List.map_filterMap, Function.comp_def, Step.error?_renumber]
  simp only [outcome, fatal?_renumber, effects, errors]
  cases fatal? tolerant steps <;> rfl

/-- Lines with a margin in front, each with one of its own. -/
def indent (margins : Nat → Text) (lines : List Text) : List Text :=
  lines.mapIdx fun i line => margins i ++ line

theorem map_trimStart_indent {margins : Nat → Text}
    (blank : ∀ i, ∀ c ∈ margins i, Text.isBlank c = true) (lines : List Text) :
    (indent margins lines).map Text.trimStart = lines.map Text.trimStart := by
  apply List.ext_getElem?
  intro i
  simp only [indent, List.getElem?_map, List.getElem?_mapIdx, Option.map_map, Function.comp_def,
    Text.trimStart_append_of_blank (blank i)]

theorem scan_trimStart (settings : Settings) (block : Option Nat) (next : Nat) (lines : List Text) :
    statementsFrom settings block next (lines.map Text.trimStart) =
        statementsFrom settings block next lines
      ∧ blockFrom settings block next (lines.map Text.trimStart) =
        blockFrom settings block next lines := by
  induction lines generalizing block next with
  | nil => exact ⟨rfl, rfl⟩
  | cons line rest ih =>
    obtain ⟨statements, blocks⟩ := ih (blockAfter next block (on? settings block.isSome line))
      (next + 1)
    simp only [List.map_cons, statementsFrom, blockFrom, on?_trimStart, statements, blocks,
      and_self]

theorem trace_trimStart (settings : Settings) (lines : List Text) :
    trace settings (lines.map Text.trimStart) = trace settings lines := by
  obtain ⟨statements, blocks⟩ := scan_trimStart settings none 0 lines
  rw [trace_eq, trace_eq, statements, blocks]

/-- The spacing of a source is inert. A line of blanks or a comment can be put in at any place, be
it in the middle of a block: the result is the same, with the errors from that place on one line
further down. Blanks in front of lines change nothing at all. -/
theorem compile_spacing (settings : Settings) :
    (∀ (front back : List Text) (line : Text), Idle settings line →
      compile settings (front ++ line :: back) =
        renumber (makeRoom front.length) (compile settings (front ++ back)))
    ∧ ∀ (lines : List Text) (margins : Nat → Text), (∀ i, ∀ c ∈ margins i, Text.isBlank c = true) →
      compile settings (indent margins lines) = compile settings lines := by
  refine ⟨?_, ?_⟩
  · intro front back line idle
    rw [compile, compile, trace_insert idle.on?_eq_none, outcome_renumber]
  · intro lines margins blank
    have same : trace settings (indent margins lines) = trace settings lines := by
      rw [← trace_trimStart, map_trimStart_indent blank, trace_trimStart]
    rw [compile, compile, same]

/-- A comment inside of a block that is never closed: the entry behind it moves, the block does
not. -/
theorem compile_spacing_block :
    let front := ["RESOURCES", "STR:a"].map String.toList
    let back := ["what"].map String.toList
    let line := "  // END".toList
    let program : Program := { resources := [[0x61]] }
    let skipped (number : Nat) : List SourceError :=
      [⟨number, .noSeparator "what".toList⟩, ⟨0, .unclosedBlock⟩]
    Idle { tolerant := true } line
      ∧ compile { tolerant := true } (front ++ back) = .ok ⟨program, skipped 2⟩
      ∧ compile { tolerant := true } (front ++ line :: back) = .ok ⟨program, skipped 3⟩
      ∧ compile { tolerant := true } (indent (fun _ => ['\t', ' ']) (front ++ back)) =
        .ok ⟨program, skipped 2⟩ := by
  intro front back line program skipped
  have idle : Idle { tolerant := true } line := Or.inr ⟨by decide, by decide +zetaReduce⟩
  have compiles : compile { tolerant := true } (front ++ back) = .ok ⟨program, skipped 2⟩ :=
    compile_eq_ok_iff.mpr ⟨by decide +kernel +zetaReduce, by decide +kernel +zetaReduce⟩
  have inserted := (compile_spacing { tolerant := true }).1 front back line idle
  have indented := (compile_spacing { tolerant := true }).2 (front ++ back)
    (fun _ => ['\t', ' ']) (fun _ => List.all_eq_true.mp (by decide))
  rw [compiles] at inserted indented
  exact ⟨idle, compiles, inserted, indented⟩

end Source
end Assembler
