import Assembler.Proofs.Source.Effects
import Assembler.Proofs.Text.Words

/-! The block in progress. It goes by the number of the line that opened it, so a block that is in
progress behind some lines has been open since that line: what follows the opener are entries, blank
lines and comments, and nothing that closes it. -/
namespace Assembler

theorem Text.all_isBlank_trimStart (line : Text) :
    (Text.trimStart line).all Text.isBlank = (Text.trimStart line).isEmpty := by
  cases start : Text.trimStart line with
  | nil => rfl
  | cons c rest =>
    have solid : Text.isBlank c = false := Text.not_blank_of_head_trimStart (by rw [start]; rfl)
    simp [solid]

namespace Source
open Statement

/-- The entries on the lines of a block, with their numbers: the lines without their leading blanks,
but for those that are blank and those that are comments. -/
def entries (settings : Settings) (start : Nat) (body : List Text) : List (Text × Nat) :=
  ((body.map Text.trimStart).zipIdx start).filter fun (text, _) =>
    ! text.all Text.isBlank && ! isComment settings.commentMark text

def entryStatement (entry : Text × Nat) : NumberedStatement :=
  ⟨entry.2, .entry entry.1⟩

theorem inside?_of_not_closer {settings : Settings} {line : Text}
    (keeps : inside? settings line ≠ some .closer) :
    inside? settings line =
      if ! (Text.trimStart line).all Text.isBlank
          && ! isComment settings.commentMark (Text.trimStart line) then
        some (.entry (Text.trimStart line))
      else none := by
  unfold inside? at keeps ⊢
  dsimp only at keeps ⊢
  rw [Text.all_isBlank_trimStart, ← Bool.not_or]
  split
  · rename_i idle
    simp [idle]
  · rename_i busy
    rw [if_neg busy] at keeps
    split at keeps
    · exact absurd rfl keeps
    · rename_i other
      simp [busy, other]

theorem scan_opener {settings : Settings} {opener : Text}
    (opens : outside? settings opener = some .opener) (next : Nat) (rest : List Text) :
    statementsFrom settings none next (opener :: rest) =
        ⟨next, .opener⟩ :: statementsFrom settings (some next) (next + 1) rest
      ∧ blockFrom settings none next (opener :: rest) =
        blockFrom settings (some next) (next + 1) rest := by
  have found : on? settings (none : Option Nat).isSome opener = some .opener := opens
  simp only [statementsFrom, blockFrom, found]
  exact ⟨rfl, rfl⟩

/-- As long as nothing closes it a block stays open, and the statements on its lines are its
entries. -/
theorem scan_entries {settings : Settings} {body : List Text}
    (keeps : ∀ line ∈ body, inside? settings line ≠ some .closer) (opener next : Nat) :
    statementsFrom settings (some opener) next body =
        (entries settings next body).map entryStatement
      ∧ blockFrom settings (some opener) next body = some opener := by
  induction body generalizing next with
  | nil => exact ⟨rfl, rfl⟩
  | cons line body ih =>
    obtain ⟨here, later⟩ := List.forall_mem_cons.mp keeps
    obtain ⟨statements, block⟩ := ih later (next + 1)
    have said : on? settings (some opener).isSome line = _ := inside?_of_not_closer here
    rw [statementsFrom, blockFrom, said]
    simp only [entries, List.map_cons, List.zipIdx_cons, List.filter_cons] at statements ⊢
    split
    · exact ⟨congrArg (_ :: ·) statements, block⟩
    · exact ⟨statements, block⟩

theorem foldl_tolerance_entries (settings : Settings) (start : Nat) (body : List Text)
    (tolerant : Bool) :
    (((entries settings start body).map entryStatement).map (stepOf settings)).foldl Step.tolerance
      tolerant = tolerant := by
  apply foldl_of_forall
  intro step taken tolerant
  rw [List.map_map] at taken
  obtain ⟨entry, -, rfl⟩ := List.mem_map.mp taken
  simp only [Function.comp_apply, Step.tolerance, stepOf, entryStatement, meaning]
  cases Resource.parse settings.joinColons entry.1 <;> rfl

/-- A block from before some lines that is in progress behind them was so all along. -/
theorem open_of_blockFrom {settings : Settings} {block : Option Nat} {next opener : Nat}
    {lines : List Text} (opened : blockFrom settings block next lines = some opener)
    (earlier : opener < next) :
    block = some opener ∧ ∀ line ∈ lines, inside? settings line ≠ some .closer := by
  induction lines generalizing block next with
  | nil => exact ⟨opened, fun _ member => by cases member⟩
  | cons line lines ih =>
    obtain ⟨after, later⟩ := ih opened (Nat.lt_succ_of_lt earlier)
    have here : block = some opener ∧ on? settings block.isSome line ≠ some .closer := by
      cases found : on? settings block.isSome line with
      | none =>
        rw [found] at after
        exact ⟨after, by simp⟩
      | some statement =>
        rw [found] at after
        cases statement with
        | opener =>
          cases after
          exact absurd earlier (Nat.lt_irrefl _)
        | closer => cases after
        | _ => exact ⟨after, by simp⟩
    obtain ⟨rfl, keeps⟩ := here
    exact ⟨rfl, List.forall_mem_cons.mpr ⟨keeps, later⟩⟩

/-- The block in progress was opened outside of all blocks on the line of its number, and no line
since then has closed it. -/
theorem opener_of_blockFrom {settings : Settings} {front body : List Text} {line : Text}
    (opened : blockFrom settings none 0 (front ++ line :: body) = some front.length) :
    blockFrom settings none 0 front = none ∧ outside? settings line = some .opener
      ∧ ∀ line ∈ body, inside? settings line ≠ some .closer := by
  rw [blockFrom_append, Nat.zero_add, blockFrom] at opened
  obtain ⟨after, keeps⟩ := open_of_blockFrom opened (Nat.lt_succ_self _)
  cases before : blockFrom settings none 0 front with
  | none =>
    rw [before] at after
    refine ⟨rfl, ?_, keeps⟩
    have found : on? settings (none : Option Nat).isSome line = outside? settings line := rfl
    rw [found] at after
    cases said : outside? settings line with
    | none => rw [said] at after; cases after
    | some statement =>
      rw [said] at after
      cases statement with
      | opener => rfl
      | _ => cases after
  | some earlier =>
    have bound := opener_lt_length before
    rw [before] at after
    have found : on? settings (some earlier).isSome line = inside? settings line := rfl
    rw [found] at after
    rcases inside?_cases settings line with said | said | ⟨text, said⟩ <;> rw [said] at after
    · cases after
      omega
    · cases after
    · cases after
      omega

theorem split_at_line {lines : List Text} {number : Nat} {line : Text}
    (here : lines[number]? = some line) :
    lines = lines.take number ++ line :: lines.drop (number + 1)
      ∧ (lines.take number).length = number := by
  obtain ⟨bound, rfl⟩ := List.getElem?_eq_some_iff.mp here
  constructor
  · rw [List.getElem_cons_drop, List.take_append_drop]
  · exact List.length_take_of_le (Nat.le_of_lt bound)

theorem exists_opener {settings : Settings} {lines : List Text} {opener : Nat}
    (opened : blockFrom settings none 0 lines = some opener) :
    ∃ front line body, lines = front ++ line :: body ∧ front.length = opener := by
  have bound := opener_lt_length opened
  exact ⟨_, _, _, split_at_line (List.getElem?_eq_getElem bound)⟩

/-- What a line says by the block in progress before it is among the statements of the source. -/
theorem mem_statements {settings : Settings} {lines : List Text} {number : Nat} {line : Text}
    {statement : Statement} (here : lines[number]? = some line)
    (found : on? settings (blockFrom settings none 0 (lines.take number)).isSome line =
      some statement) : ⟨number, statement⟩ ∈ statements settings lines := by
  obtain ⟨split, length⟩ := split_at_line here
  have behind := statementsFrom_append settings none 0 (lines.take number)
    (line :: lines.drop (number + 1))
  rw [← split, statementsFrom, found, length, Nat.zero_add] at behind
  rw [statements_eq, behind]
  simp

end Source
end Assembler
