import Assembler.Proofs.Source.Accepted
import Assembler.Proofs.Text.Words

/-! Metadata in listings. A text that a directive can carry is listed as a directive that assigns
it; any other is listed as a comment, on one line whatever it holds. -/
namespace Assembler

/-- The texts that a directive can carry: they start with no blank, and hold neither a comment mark
nor a line break. -/
structure DirectiveText (text : Text) : Prop where
  start : ∀ c, text.head? = some c → Text.isBlank c = false
  noComment : ¬ "//".toList <:+: text
  noFeed : '\n' ∉ text
  noReturn : '\r' ∉ text

namespace Listing
open Source

theorem isDirectiveValue_iff {text : Text} : isDirectiveValue text = true ↔ DirectiveText text := by
  have head : text.head?.any Text.isBlank = false ↔
      ∀ c, text.head? = some c → Text.isBlank c = false := by
    cases text <;> simp
  simp only [isDirectiveValue, Bool.and_eq_true, Bool.not_eq_true', head]
  rw [← Bool.not_eq_true (Text.occurs _ _), Text.occurs_iff]
  simp only [List.contains_eq_mem, decide_eq_false_iff_not]
  constructor
  · rintro ⟨⟨⟨start, noComment⟩, noFeed⟩, noReturn⟩
    exact ⟨start, noComment, noFeed, noReturn⟩
  · rintro ⟨start, noComment, noFeed, noReturn⟩
    exact ⟨⟨⟨start, noComment⟩, noFeed⟩, noReturn⟩

instance (text : Text) : Decidable (DirectiveText text) :=
  decidable_of_iff _ isDirectiveValue_iff

theorem feed_not_mem_toDigits (n : Nat) : '\n' ∉ Nat.toDigits 16 n := by
  have digit (d : Nat) : '\n' ≠ d.digitChar := (Nat.digitChar_ne '\n' (by decide)).symm
  induction n using Nat.strongRecOn with
  | ind n ih =>
    by_cases small : n < 16
    · rw [Nat.toDigits_of_lt_base small]
      simp [digit n]
    · rw [Nat.toDigits_of_base_le (by decide) (Nat.le_of_not_lt small)]
      simp only [List.mem_append, List.mem_singleton, not_or]
      exact ⟨ih (n / 16) (by omega), digit (n % 16)⟩

theorem feed_not_mem_quotedChar (c : Char) : '\n' ∉ Text.quotedChar c := by
  unfold Text.quotedChar
  split
  case h_7 =>
    rename_i _ _ notFeed _ _ _
    split
    · intro member
      exact notFeed (List.mem_singleton.mp member).symm
    · simp [feed_not_mem_toDigits]
  all_goals decide

theorem feed_not_mem_quoted (text : Text) : '\n' ∉ Text.quoted text := by
  have inside : '\n' ∉ text.flatMap Text.quotedChar := by
    intro member
    obtain ⟨c, _, member⟩ := List.mem_flatMap.mp member
    exact feed_not_mem_quotedChar c member
  simp [Text.quoted, inside]

/-- Outside of blocks a line that starts with the comment mark says nothing. -/
theorem accepts_comment (rest : Text) : Accepts {} false ["//".toList ++ rest] [] false := by
  apply Accepts.silent
  have start : Text.trimStart ("//".toList ++ rest) = "//".toList ++ rest :=
    Text.trimStart_of_head (by simp; decide)
  have nothing : Text.before "//".toList ("//".toList ++ rest) = [] :=
    Text.before_append (by decide) rest
  have blank : Statement.clean? "//".toList ("//".toList ++ rest) = none := by
    simp only [Statement.clean?, start, nothing]
    rfl
  simp only [Statement.on?, Statement.outside?]
  rw [blank]
  rfl

/-- The words that name the fields with a directive are keys, in upper case. -/
theorem readDirective_assign {field : Field} (directive : field ≠ .copyright) {text : Text}
    (carried : DirectiveText text) :
    Statement.readDirective (Text.upper field.name ++ ": ".toList ++ text) =
      .ok (.assign field text) := by
  have noColon : ':' ∉ Text.upper field.name := by cases field <;> decide
  have cut : Text.cutAt? (· == ':') (Text.upper field.name ++ ": ".toList ++ text) =
      some (Text.upper field.name, ' ' :: text) := by
    rw [List.append_assoc]
    exact Text.cutAt?_mark_append noColon (' ' :: text)
  have key : Text.upper (Text.trim (Text.upper field.name)) = Text.upper field.name := by
    cases field <;> decide
  have value : Text.trimStart (' ' :: text) = text := by
    rw [Text.trimStart_blank_cons (by decide), Text.trimStart_of_head carried.start]
  have effect : Statement.directiveEffect? (Text.upper field.name) text =
      some (.assign field text) := by
    cases field with
    | copyright => contradiction
    | _ => rfl
  simp only [Statement.readDirective, cut, Option.getD_some, key, value, effect]

/-- Cleaning leaves a line alone that starts with no blank and holds no comment mark. -/
theorem clean?_eq_self {c : Char} {rest : Text} (solid : Text.isBlank c = false)
    (absent : Text.occurs "//".toList (c :: rest) = false) :
    Statement.clean? "//".toList (c :: rest) = some (c :: rest) := by
  have start : Text.trimStart (c :: rest) = c :: rest :=
    Text.trimStart_of_head (by simpa using solid)
  have marked : "//".toList.isEmpty = false := rfl
  have visible : (c :: rest).all Text.isBlank = false := by simp [solid]
  simp only [Statement.clean?, start, Text.before_of_not_occurs absent, marked, visible,
    Bool.false_eq_true, if_false]

theorem accepts_directive {field : Field} (directive : field ≠ .copyright) {text : Text}
    (carried : DirectiveText text) :
    Accepts {} false ['#' :: (Text.upper field.name ++ ": ".toList ++ text)] [.assign field text]
      false := by
  have absent : Text.occurs "//".toList ('#' :: (Text.upper field.name ++ ": ".toList ++ text)) =
      false := by
    have key : '/' ∉ '#' :: (Text.upper field.name ++ ": ".toList) := by cases field <;> decide
    have marks := Text.occurs_append key ['/'] text
    rw [← Bool.not_eq_true]
    intro found
    exact carried.noComment (Text.occurs_iff.mp (marks ▸ found))
  have found : Statement.on? {} false ('#' :: (Text.upper field.name ++ ": ".toList ++ text)) =
      some (.directive (Text.upper field.name ++ ": ".toList ++ text)) := by
    simp only [Statement.on?, Statement.outside?]
    rw [clean?_eq_self (by decide) absent]
    rfl
  exact Accepts.statement found (readDirective_assign directive carried) (by simp)

/-- The effects of the line for a text: its assignment, if a directive can carry it. -/
def fieldEffects (field : Field) (text : Text) : List Effect :=
  if text ≠ [] ∧ DirectiveText text then [.assign field text] else []

theorem accepts_metadata {field : Field} (directive : field ≠ .copyright) (text : Text) :
    AcceptsText {} false (metadata field text) (fieldEffects field text) false := by
  unfold metadata fieldEffects
  split
  · rename_i empty
    simpa [List.isEmpty_iff.mp empty] using AcceptsText.nil
  · rename_i filled
    simp only [isDirectiveValue_iff]
    split
    · rename_i carried
      rw [if_pos ⟨fun empty => filled (List.isEmpty_iff.mpr empty), carried⟩]
      have noBreak (mark : Char) (key : mark ∉ '#' :: (Text.upper field.name ++ ": ".toList))
          (value : mark ∉ text) : mark ∉ '#' :: (Text.upper field.name ++ ": ".toList ++ text) := by
        intro member
        exact (List.mem_append.mp member).elim key value
      apply AcceptsText.row (noBreak _ (by cases field <;> decide) carried.noFeed)
      have kept := Text.dropReturn_of_not_mem
        (noBreak _ (by cases field <;> decide) carried.noReturn)
      rw [kept]
      exact accepts_directive directive carried
    · rename_i refused
      rw [if_neg (fun both => refused both.2)]
      have name : '\n' ∉ "// ".toList ++ field.name ++ ": ".toList := by cases field <;> decide
      apply AcceptsText.row
      · intro member
        exact (List.mem_append.mp member).elim name (feed_not_mem_quoted text)
      · rw [List.append_assoc, List.append_assoc, Text.dropReturn_append (by decide)]
        exact accepts_comment _

end Listing
end Assembler
