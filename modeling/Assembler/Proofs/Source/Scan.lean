import Assembler.Source.Compile

/-! The scan of a source, from front to back. What a line says depends on the lines before it only
through the block in progress, so the statements of a source are those of its parts, and lines that
stand further down give the same statements with larger line numbers. -/
namespace Assembler

namespace Statement

def on? (settings : Settings) (inside : Bool) (line : Text) : Option Statement :=
  if inside then inside? settings line else outside? settings line

theorem on?_nil (settings : Settings) (inside : Bool) : on? settings inside [] = none := by
  cases inside with
  | true => rfl
  | false =>
    have clean : clean? settings.commentMark [] = none := by
      simp only [clean?]
      split <;> rfl
    simp only [on?, outside?, clean]
    rfl

theorem directiveBody?_eq_some_iff {directiveMark text body : Text} :
    directiveBody? directiveMark text = some body ↔
      directiveMark ≠ [] ∧ text = directiveMark ++ body := by
  unfold directiveBody?
  rw [Option.ite_none_right_eq_some, Option.some.injEq, Bool.and_eq_true, Bool.not_eq_true',
    List.isEmpty_eq_false_iff, List.isPrefixOf_iff_prefix, and_assoc]
  constructor
  · rintro ⟨marked, ⟨rest, rfl⟩, same⟩
    rw [List.drop_left] at same
    exact ⟨marked, by rw [same]⟩
  · rintro ⟨marked, rfl⟩
    exact ⟨marked, List.prefix_append _ _, List.drop_left⟩

theorem outside?_eq_directive_iff {settings : Settings} {line body : Text} :
    outside? settings line = some (.directive body) ↔
      settings.directiveMark ≠ []
        ∧ clean? settings.commentMark line = some (settings.directiveMark ++ body) := by
  unfold outside?
  cases cleaned : clean? settings.commentMark line with
  | none => simp
  | some text =>
    rw [Option.map_some, Option.some.injEq, Option.some.injEq, ← directiveBody?_eq_some_iff]
    cases marked : directiveBody? settings.directiveMark text with
    | some found => simp
    | none => dsimp only; split <;> simp

/-- The block in progress after the line with a given number. -/
def blockAfter (number : Nat) (block : Option Nat) : Option Statement → Option Nat
  | some opener => some number
  | some closer => none
  | _ => block

end Statement

def NumberedStatement.renumber (f : Nat → Nat) (numbered : NumberedStatement) : NumberedStatement :=
  ⟨f numbered.line, numbered.statement⟩

def NumberedStatement.shift (distance : Nat) (numbered : NumberedStatement) : NumberedStatement :=
  ⟨numbered.line + distance, numbered.statement⟩

namespace Source
open Statement

/-- The statements on lines whose first number is `next`, with a block in progress or not. -/
def statementsFrom (settings : Settings) : Option Nat → Nat → List Text → List NumberedStatement
  | _, _, [] => []
  | block, next, line :: rest =>
    let found := on? settings block.isSome line
    (found.map (NumberedStatement.mk next)).toList
      ++ statementsFrom settings (blockAfter next block found) (next + 1) rest

def blockFrom (settings : Settings) : Option Nat → Nat → List Text → Option Nat
  | block, _, [] => block
  | block, next, line :: rest =>
    blockFrom settings (blockAfter next block (on? settings block.isSome line)) (next + 1) rest

/-- The statement for a block that is open at the end. -/
def unclosed : Option Nat → List NumberedStatement
  | none => []
  | some line => [⟨line, .unclosed⟩]

theorem read_eq (settings : Settings) (scan : Scan) (line : Text) :
    scan.read settings line =
      { next := scan.next + 1
        block := blockAfter scan.next scan.block (on? settings scan.block.isSome line)
        found := ((on? settings scan.block.isSome line).map (NumberedStatement.mk scan.next)).toList
          ++ scan.found } := by
  have same : scan.statement? settings line = on? settings scan.block.isSome line := rfl
  rw [Scan.read, same]
  cases on? settings scan.block.isSome line with
  | none => rfl
  | some statement => cases statement <;> rfl

theorem foldl_read (settings : Settings) (lines : List Text) (scan : Scan) :
    lines.foldl (Scan.read settings) scan =
      { next := scan.next + lines.length
        block := blockFrom settings scan.block scan.next lines
        found := (statementsFrom settings scan.block scan.next lines).reverse ++ scan.found } := by
  induction lines generalizing scan with
  | nil => rfl
  | cons line rest ih =>
    rw [List.foldl_cons, ih, read_eq]
    simp only [List.length_cons, blockFrom, statementsFrom, List.reverse_append, List.append_assoc,
      Nat.add_assoc, Nat.add_comm 1]
    cases on? settings scan.block.isSome line <;> rfl

theorem statements_eq (settings : Settings) (lines : List Text) :
    statements settings lines =
      statementsFrom settings none 0 lines ++ unclosed (blockFrom settings none 0 lines) := by
  rw [statements, foldl_read, Scan.finish]
  cases blockFrom settings none 0 lines <;> simp [unclosed]

theorem statementsFrom_append (settings : Settings) (block : Option Nat) (next : Nat)
    (front back : List Text) :
    statementsFrom settings block next (front ++ back) =
      statementsFrom settings block next front
        ++ statementsFrom settings (blockFrom settings block next front) (next + front.length)
          back := by
  induction front generalizing block next with
  | nil => rfl
  | cons line front ih =>
    simp only [List.cons_append, statementsFrom, blockFrom, ih, List.length_cons, List.append_assoc,
      Nat.add_assoc, Nat.add_comm 1]

theorem blockFrom_append (settings : Settings) (block : Option Nat) (next : Nat)
    (front back : List Text) :
    blockFrom settings block next (front ++ back) =
      blockFrom settings (blockFrom settings block next front) (next + front.length) back := by
  induction front generalizing block next with
  | nil => rfl
  | cons line front ih =>
    simp only [List.cons_append, blockFrom, ih, List.length_cons, Nat.add_assoc, Nat.add_comm 1]

theorem blockAfter_eq (number : Nat) (block : Option Nat) (found : Option Statement) :
    blockAfter number block found = block ∨ blockAfter number block found = some number
      ∨ blockAfter number block found = none := by
  cases found with
  | none => exact Or.inl rfl
  | some statement =>
    cases statement with
    | opener => exact Or.inr (Or.inl rfl)
    | closer => exact Or.inr (Or.inr rfl)
    | _ => exact Or.inl rfl

theorem blockAfter_renumber (f : Nat → Nat) (number : Nat) (block : Option Nat)
    (found : Option Statement) :
    blockAfter (f number) (block.map f) found = (blockAfter number block found).map f := by
  cases found with
  | none => rfl
  | some statement => cases statement <;> rfl

/-- Lines that are counted in another way give the same statements under the other numbers. -/
theorem statementsFrom_renumber {f : Nat → Nat} {next : Nat}
    (counts : ∀ n, next ≤ n → f (n + 1) = f n + 1) (settings : Settings) (block : Option Nat)
    (lines : List Text) :
    statementsFrom settings (block.map f) (f next) lines =
      (statementsFrom settings block next lines).map (NumberedStatement.renumber f) := by
  induction lines generalizing block next with
  | nil => rfl
  | cons line rest ih =>
    have later := ih (fun n (bound : next + 1 ≤ n) => counts n (by omega))
      (blockAfter next block (on? settings block.isSome line))
    rw [counts next (Nat.le_refl next)] at later
    simp only [statementsFrom, Option.isSome_map, blockAfter_renumber, List.map_append, later]
    cases on? settings block.isSome line <;> rfl

theorem blockFrom_renumber {f : Nat → Nat} {next : Nat}
    (counts : ∀ n, next ≤ n → f (n + 1) = f n + 1) (settings : Settings) (block : Option Nat)
    (lines : List Text) :
    blockFrom settings (block.map f) (f next) lines =
      (blockFrom settings block next lines).map f := by
  induction lines generalizing block next with
  | nil => rfl
  | cons line rest ih =>
    have later := ih (fun n (bound : next + 1 ≤ n) => counts n (by omega))
      (blockAfter next block (on? settings block.isSome line))
    rw [counts next (Nat.le_refl next)] at later
    simp only [blockFrom, Option.isSome_map, blockAfter_renumber, later]

theorem statementsFrom_shift (settings : Settings) (k : Nat) (block : Option Nat) (next : Nat)
    (lines : List Text) :
    statementsFrom settings (block.map (· + k)) (next + k) lines =
      (statementsFrom settings block next lines).map (NumberedStatement.shift k) :=
  statementsFrom_renumber (fun n _ => Nat.add_right_comm n 1 k) settings block lines

theorem blockFrom_shift (settings : Settings) (k : Nat) (block : Option Nat) (next : Nat)
    (lines : List Text) :
    blockFrom settings (block.map (· + k)) (next + k) lines =
      (blockFrom settings block next lines).map (· + k) :=
  blockFrom_renumber (fun n _ => Nat.add_right_comm n 1 k) settings block lines

/-- Inside of a block a line says nothing, or it is the closer or an entry. -/
theorem inside?_cases (settings : Settings) (line : Text) :
    Statement.inside? settings line = none ∨ Statement.inside? settings line = some .closer
      ∨ ∃ text, Statement.inside? settings line = some (.entry text) := by
  unfold Statement.inside?
  dsimp only
  split
  · exact Or.inl rfl
  · split
    · exact Or.inr (Or.inl rfl)
    · exact Or.inr (Or.inr ⟨_, rfl⟩)

theorem inside?_ne_unclosed (settings : Settings) (line : Text) :
    Statement.inside? settings line ≠ some .unclosed := by
  rcases inside?_cases settings line with said | said | ⟨text, said⟩ <;> simp [said]

theorem inside?_ne_directive (settings : Settings) (line body : Text) :
    Statement.inside? settings line ≠ some (.directive body) := by
  rcases inside?_cases settings line with said | said | ⟨text, said⟩ <;> simp [said]

/-- Outside of blocks a line says nothing, or it is a directive, an opener or an instruction. -/
theorem outside?_cases (settings : Settings) (line : Text) :
    Statement.outside? settings line = none
      ∨ (∃ body, Statement.outside? settings line = some (.directive body))
      ∨ Statement.outside? settings line = some .opener
      ∨ ∃ text, Statement.outside? settings line = some (.instruction text) := by
  unfold Statement.outside?
  cases Statement.clean? settings.commentMark line with
  | none => exact Or.inl rfl
  | some text =>
    rw [Option.map_some]
    split
    · exact Or.inr (Or.inl ⟨_, rfl⟩)
    · split
      · exact Or.inr (Or.inr (Or.inl rfl))
      · exact Or.inr (Or.inr (Or.inr ⟨_, rfl⟩))

theorem outside?_ne_unclosed (settings : Settings) (line : Text) :
    Statement.outside? settings line ≠ some .unclosed := by
  rcases outside?_cases settings line with said | ⟨body, said⟩ | said | ⟨text, said⟩ <;> simp [said]

theorem on?_of_mem_statementsFrom {settings : Settings} {block : Option Nat} {next : Nat}
    {lines : List Text} {numbered : NumberedStatement}
    (member : numbered ∈ statementsFrom settings block next lines) :
    ∃ line inside, line ∈ lines ∧ on? settings inside line = some numbered.statement := by
  induction lines generalizing block next with
  | nil => cases member
  | cons line lines ih =>
    rcases List.mem_append.mp member with first | later
    · obtain ⟨statement, found, rfl⟩ := Option.map_eq_some_iff.mp (Option.mem_toList.mp first)
      exact ⟨line, block.isSome, List.mem_cons_self, found⟩
    · obtain ⟨source, inside, among, found⟩ := ih later
      exact ⟨source, inside, List.mem_cons_of_mem _ among, found⟩

theorem le_line_of_mem_statementsFrom {settings : Settings} {block : Option Nat} {next : Nat}
    {lines : List Text} {numbered : NumberedStatement}
    (member : numbered ∈ statementsFrom settings block next lines) : next ≤ numbered.line := by
  induction lines generalizing block next with
  | nil => cases member
  | cons line lines ih =>
    rcases List.mem_append.mp member with first | later
    · obtain ⟨statement, -, rfl⟩ := Option.map_eq_some_iff.mp (Option.mem_toList.mp first)
      exact Nat.le_refl next
    · have bound := ih later
      omega

theorem line_lt_of_mem_statementsFrom {settings : Settings} {block : Option Nat} {next : Nat}
    {lines : List Text} {numbered : NumberedStatement}
    (member : numbered ∈ statementsFrom settings block next lines) :
    numbered.line < next + lines.length := by
  induction lines generalizing block next with
  | nil => cases member
  | cons line lines ih =>
    rw [List.length_cons]
    rcases List.mem_append.mp member with first | later
    · obtain ⟨statement, -, rfl⟩ := Option.map_eq_some_iff.mp (Option.mem_toList.mp first)
      dsimp only
      omega
    · have bound := ih later
      omega

/-- The block in progress was opened before, or on one of the lines. -/
theorem blockFrom_lt {settings : Settings} {block : Option Nat} {next : Nat} {lines : List Text}
    (earlier : ∀ opener ∈ block, opener < next) :
    ∀ opener ∈ blockFrom settings block next lines, opener < next + lines.length := by
  induction lines generalizing block next with
  | nil => exact earlier
  | cons line lines ih =>
    have after : ∀ opener ∈ blockAfter next block (on? settings block.isSome line),
        opener < next + 1 := by
      intro opener opened
      rcases blockAfter_eq next block (on? settings block.isSome line) with kept | new | closed
      · rw [kept] at opened
        exact Nat.lt_succ_of_lt (earlier opener opened)
      · rw [new] at opened
        cases opened
        exact Nat.lt_succ_self next
      · rw [closed] at opened
        cases opened
    intro opener opened
    have bound := ih after opener opened
    rw [List.length_cons]
    omega

theorem opener_lt_length {settings : Settings} {lines : List Text} {opener : Nat}
    (opened : blockFrom settings none 0 lines = some opener) : opener < lines.length := by
  have bound := blockFrom_lt (by simp) opener opened
  rwa [Nat.zero_add] at bound

theorem eq_of_line_eq {settings : Settings} {block : Option Nat} {next : Nat} {lines : List Text}
    {first second : NumberedStatement} (member : first ∈ statementsFrom settings block next lines)
    (member' : second ∈ statementsFrom settings block next lines)
    (same : first.line = second.line) : first = second := by
  induction lines generalizing block next with
  | nil => cases member
  | cons line lines ih =>
    simp only [statementsFrom, List.mem_append, Option.mem_toList] at member member'
    rcases member with here | later <;> rcases member' with here' | later'
    · exact Option.mem_unique here here'
    · obtain ⟨statement, -, rfl⟩ := Option.map_eq_some_iff.mp here
      have bound := le_line_of_mem_statementsFrom later'
      dsimp only at same
      omega
    · obtain ⟨statement, -, rfl⟩ := Option.map_eq_some_iff.mp here'
      have bound := le_line_of_mem_statementsFrom later
      dsimp only at same
      omega
    · exact ih later later'

theorem pairwise_statementsFrom (settings : Settings) (block : Option Nat) (next : Nat)
    (lines : List Text) :
    (statementsFrom settings block next lines).Pairwise
      fun first second => first.line < second.line := by
  induction lines generalizing block next with
  | nil => exact List.Pairwise.nil
  | cons line lines ih =>
    rw [statementsFrom]
    cases on? settings block.isSome line with
    | none => exact ih _ _
    | some statement =>
      exact List.Pairwise.cons (fun _ later => le_line_of_mem_statementsFrom later) (ih _ _)

/-- A statement stands on the line of its number, and is what that line says by the block in
progress. -/
theorem getElem?_of_mem_statementsFrom {settings : Settings} {block : Option Nat} {next : Nat}
    {lines : List Text} {numbered : NumberedStatement}
    (member : numbered ∈ statementsFrom settings block next lines) :
    ∃ i line, numbered.line = next + i ∧ lines[i]? = some line
      ∧ on? settings (blockFrom settings block next (lines.take i)).isSome line =
        some numbered.statement := by
  induction lines generalizing block next with
  | nil => cases member
  | cons line lines ih =>
    rcases List.mem_append.mp member with first | later
    · obtain ⟨statement, found, rfl⟩ := Option.map_eq_some_iff.mp (Option.mem_toList.mp first)
      exact ⟨0, line, rfl, rfl, found⟩
    · obtain ⟨i, source, number, here, found⟩ := ih later
      exact ⟨i + 1, source, by omega, here, found⟩

theorem statementsFrom_ne_unclosed {settings : Settings} {block : Option Nat} {next : Nat}
    {lines : List Text} :
    ∀ numbered ∈ statementsFrom settings block next lines, numbered.statement ≠ .unclosed := by
  intro numbered member same
  obtain ⟨line, inside, -, found⟩ := on?_of_mem_statementsFrom member
  rw [same] at found
  cases inside with
  | false => exact outside?_ne_unclosed settings line found
  | true => exact inside?_ne_unclosed settings line found

theorem on?_of_mem_statements {settings : Settings} {lines : List Text}
    {numbered : NumberedStatement} (member : numbered ∈ statements settings lines)
    (closed : numbered.statement ≠ .unclosed) :
    ∃ line inside, line ∈ lines ∧ on? settings inside line = some numbered.statement := by
  rw [statements_eq] at member
  rcases List.mem_append.mp member with found | last
  · exact on?_of_mem_statementsFrom found
  · cases opened : blockFrom settings none 0 lines with
    | none =>
      rw [opened] at last
      cases last
    | some line =>
      rw [opened] at last
      exact absurd (List.mem_singleton.mp last ▸ rfl) closed

end Source
end Assembler
