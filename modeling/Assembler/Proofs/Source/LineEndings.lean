import Assembler.Proofs.Source.Verdict
import Assembler.Proofs.Text.Lines

/-! Line endings. The lines of a source may end with a line feed or with a carriage return and a
line feed, and the last one with nothing at all: the text compiles as the list of its lines does.
The lines of the text need not be that list, as an empty last line without an ending leaves no trace
and an ending behind no lines makes an empty one; but an empty line says nothing, inside of a block
or outside. -/
namespace Assembler

namespace Text

inductive Ending where
  | feed | returnFeed
  deriving DecidableEq

def Ending.text : Ending → Text
  | feed => ['\n']
  | returnFeed => ['\r', '\n']

/-- Rows as one text, with an ending between every two of them, and behind the last one if
`ended`. -/
def join (ending : Ending) (ended : Bool) (rows : List Text) : Text :=
  ending.text.intercalate rows ++ if ended then ending.text else []

/-- A row that no line ending falls into. -/
def OneLine (row : Text) : Prop :=
  '\n' ∉ row ∧ '\r' ∉ row

instance (row : Text) : Decidable (OneLine row) :=
  inferInstanceAs (Decidable (_ ∧ _))

theorem dropReturn_return (row : Text) : dropReturn (row ++ ['\r']) = row := by
  simp [dropReturn]

theorem lines_row_append (ending : Ending) {row : Text} (plain : OneLine row) (back : Text) :
    lines (row ++ (ending.text ++ back)) = row :: lines back := by
  cases ending with
  | feed =>
    have whole : row ++ (Ending.feed.text ++ back) = Listing.line row ++ back := by
      rw [Listing.line, Ending.text, List.append_assoc]
    rw [whole, lines_line_append, rowLines_of_not_mem plain.1, dropReturn_of_not_mem plain.2]
    rfl
  | returnFeed =>
    have whole :
        row ++ (Ending.returnFeed.text ++ back) = Listing.line (row ++ ['\r']) ++ back := by
      simp [Listing.line, Ending.text]
    have feedless : '\n' ∉ row ++ ['\r'] := by
      simp [plain.1]
    rw [whole, lines_line_append, rowLines_of_not_mem feedless, dropReturn_return]
    rfl

theorem lines_rows_append (ending : Ending) {rows : List Text} (plain : ∀ row ∈ rows, OneLine row)
    (back : Text) : lines (rows.flatMap (· ++ ending.text) ++ back) = rows ++ lines back := by
  induction rows with
  | nil => rfl
  | cons row rows ih =>
    obtain ⟨first, later⟩ := List.forall_mem_cons.mp plain
    rw [List.flatMap_cons, List.append_assoc, List.append_assoc, lines_row_append ending first,
      ih later, List.cons_append]

theorem lines_of_oneLine {row : Text} (plain : OneLine row) (nonempty : row ≠ []) :
    lines row = [row] := by
  rw [lines, List.splitOn_eq_singleton plain.1]
  cases row with
  | nil => exact absurd rfl nonempty
  | cons c rest => rfl

theorem intercalate_concat (ending : Text) (rows : List Text) (last : Text) :
    ending.intercalate (rows ++ [last]) = rows.flatMap (· ++ ending) ++ last := by
  induction rows with
  | nil => simp [List.intercalate]
  | cons row rows ih =>
    cases rows with
    | nil => simp [List.intercalate]
    | cons next rows =>
      simp only [List.intercalate, List.cons_append, List.intersperse_cons_cons, List.flatten_cons,
        List.flatMap_cons, List.append_assoc] at ih ⊢
      rw [ih]

end Text

namespace Source
open Statement

/-- An empty line at the end takes no step, and a block that is open there stays open. -/
theorem trace_concat_nil (settings : Settings) (lines : List Text) :
    trace settings (lines ++ [[]]) = trace settings lines := by
  rw [trace_eq, trace_eq, statementsFrom_append, blockFrom_append]
  simp only [statementsFrom, blockFrom, on?_nil, blockAfter, Option.map_none, Option.toList_none,
    List.append_nil]

theorem trace_lines_join (settings : Settings) (ending : Text.Ending) (ended : Bool)
    {rows : List Text} (plain : ∀ row ∈ rows, Text.OneLine row) :
    trace settings (Text.lines (Text.join ending ended rows)) = trace settings rows := by
  rcases List.eq_nil_or_concat rows with rfl | ⟨front, last, rfl⟩
  · cases ended with
    | false => rfl
    | true =>
      have empty : Text.lines (Text.join ending true []) = [] ++ [[]] := by cases ending <;> rfl
      rw [empty, trace_concat_nil]
  · rw [List.concat_eq_append] at plain ⊢
    obtain ⟨inFront, atEnd⟩ := List.forall_mem_append.mp plain
    have lastPlain := atEnd last (List.mem_singleton_self last)
    rw [Text.join, Text.intercalate_concat, List.append_assoc,
      Text.lines_rows_append ending inFront]
    cases ended with
    | true =>
      have whole := Text.lines_row_append ending lastPlain []
      rw [List.append_nil] at whole
      rw [if_pos rfl, whole]
      rfl
    | false =>
      rw [if_neg (by decide), List.append_nil]
      cases last with
      | nil =>
        rw [trace_concat_nil]
        exact congrArg (trace settings) (List.append_nil front)
      | cons c rest => rw [Text.lines_of_oneLine lastPlain (List.cons_ne_nil c rest)]

/-- How the lines of a source end makes no difference: line feeds, with carriage returns before them
or not, behind every line or between the lines only. The result of compiling is that of the lines by
themselves, errors at the same numbers included, and so is the log. -/
theorem compileText_join (settings : Settings) (ending : Text.Ending) (ended : Bool)
    {rows : List Text} (plain : ∀ row ∈ rows, Text.OneLine row) :
    compileText settings (Text.join ending ended rows) = compile settings rows
      ∧ logText settings (Text.join ending ended rows) = log settings rows := by
  have same := trace_lines_join settings ending ended plain
  exact ⟨by rw [compileText, compile, compile, same], by rw [logText, log, log, same]⟩

/-- A block that is never closed, with an empty line at the end: of the four texts that the lines
make, one has lost that line. -/
theorem compileText_join_open_block :
    let rows := ["#TITLE: a", "RESOURCES", "STR: b", ""].map String.toList
    let settings : Settings := { tolerant := true }
    let result : Except SourceError Compiled :=
      .ok ⟨{ title := ['a'], resources := [[0x20, 0x62]] }, [⟨1, .unclosedBlock⟩]⟩
    (∀ row ∈ rows, Text.OneLine row)
      ∧ compile settings rows = result
      ∧ compileText settings "#TITLE: a\r\nRESOURCES\r\nSTR: b\r\n".toList = result
      ∧ compileText settings "#TITLE: a\nRESOURCES\nSTR: b\n\n".toList = result := by
  intro rows settings result
  have plain : ∀ row ∈ rows, Text.OneLine row := by decide +zetaReduce
  have compiles : compile settings rows = result :=
    compile_eq_ok_iff.mpr (by decide +kernel +zetaReduce)
  have returns := (compileText_join settings .returnFeed false plain).1
  have feeds := (compileText_join settings .feed true plain).1
  rw [compiles] at returns feeds
  exact ⟨plain, compiles, returns, feeds⟩

end Source
end Assembler
