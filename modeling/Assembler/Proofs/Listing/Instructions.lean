import Assembler.Proofs.Instruction
import Assembler.Proofs.Listing.Metadata

/-! Instructions in listings. Every instruction is listed as a line that denotes it: mnemonics are
words of their own, and operands are spelled with digits, so nothing in the line is a mark. -/
namespace Assembler.Listing
open Source

def arguments (operands : List Text) : Text :=
  if operands.isEmpty then [] else ' ' :: ", ".toList.intercalate operands

def row (opcode : Opcode) (operands : List Text) : Text :=
  opcode.mnemonic ++ arguments operands

theorem instruction_eq (i : Instruction) :
    instruction i = line (row i.opcode (i.values.map Scalar.text)) := rfl

def Digits (text : Text) : Prop :=
  text ≠ [] ∧ ∀ c ∈ text, c.isDigit = true

theorem digits_values (i : Instruction) : ∀ operand ∈ i.values.map Scalar.text, Digits operand := by
  intro operand member
  obtain ⟨s, inside, rfl⟩ := List.mem_map.mp member
  rw [Scalar.text_of_unsigned (i.unsigned_values s inside)]
  exact ⟨Text.decimal_ne_nil _, fun _ => Text.isDigit_of_mem_decimal⟩

theorem mem_intercalate {c : Char} {operand : Text} {operands : List Text}
    (member : c ∈ ", ".toList.intercalate (operand :: operands)) :
    c = ',' ∨ c = ' ' ∨ ∃ part ∈ operand :: operands, c ∈ part := by
  induction operands generalizing operand with
  | nil => exact Or.inr (Or.inr ⟨operand, by simp, by simpa using member⟩)
  | cons next operands ih =>
    rw [List.intercalate_cons_cons] at member
    simp only [List.mem_append] at member
    rcases member with (first | mark) | rest
    · exact Or.inr (Or.inr ⟨operand, by simp, first⟩)
    · rcases (by simpa using mark : c = ',' ∨ c = ' ') with comma | blank
      · exact Or.inl comma
      · exact Or.inr (Or.inl blank)
    · rcases ih rest with comma | blank | ⟨part, later, inside⟩
      · exact Or.inl comma
      · exact Or.inr (Or.inl blank)
      · exact Or.inr (Or.inr ⟨part, List.mem_cons_of_mem _ later, inside⟩)

theorem head_intercalate {operand : Text} (digits : Digits operand) (operands : List Text) :
    ∃ c, (", ".toList.intercalate (operand :: operands)).head? = some c ∧ c.isDigit = true := by
  obtain ⟨nonempty, all⟩ := digits
  obtain ⟨c, rest, rfl⟩ := List.exists_cons_of_ne_nil nonempty
  refine ⟨c, ?_, all c (by simp)⟩
  cases operands with
  | nil => simp
  | cons next operands => simp

theorem last_intercalate {operand : Text} {operands : List Text}
    (digits : ∀ part ∈ operand :: operands, Digits part) :
    ∃ c, (", ".toList.intercalate (operand :: operands)).getLast? = some c ∧ c.isDigit = true := by
  induction operands generalizing operand with
  | nil =>
    obtain ⟨nonempty, all⟩ := digits operand (by simp)
    refine ⟨operand.getLast nonempty, ?_, all _ (List.getLast_mem nonempty)⟩
    rw [List.intercalate_singleton, List.getLast?_eq_some_getLast nonempty]
  | cons next operands ih =>
    obtain ⟨c, last, digit⟩ := ih fun part member => digits part (List.mem_cons_of_mem _ member)
    refine ⟨c, ?_, digit⟩
    rw [List.intercalate_cons_cons, List.getLast?_append, last, Option.some_or]

/-- Cut at the commas, a list of numbers falls into the numbers, with the blanks still in front. -/
theorem splitOn_intercalate {operand : Text} {operands : List Text}
    (digits : ∀ part ∈ operand :: operands, Digits part) :
    (", ".toList.intercalate (operand :: operands)).splitOn ',' =
      operand :: operands.map (' ' :: ·) := by
  have noComma {part : Text} (numeric : Digits part) : ',' ∉ part := by
    intro member
    exact absurd (numeric.2 ',' member) (by decide)
  induction operands generalizing operand with
  | nil =>
    rw [List.intercalate_singleton, List.splitOn_eq_singleton (noComma (digits operand (by simp)))]
    rfl
  | cons next operands ih =>
    have rest := ih fun part member => digits part (List.mem_cons_of_mem _ member)
    have gap := Text.splitOn_append_of_not_mem (by decide : ',' ∉ [' '])
      (", ".toList.intercalate (next :: operands))
    have cut : ", ".toList.intercalate (operand :: next :: operands) =
        operand ++ ',' :: ([' '] ++ ", ".toList.intercalate (next :: operands)) := by
      rw [List.intercalate_cons_cons, List.append_assoc]
      rfl
    rw [cut, List.splitOn_append_cons_self, gap, rest,
      List.splitOn_eq_singleton (noComma (digits operand (by simp)))]
    rfl

theorem trim_intercalate {operand : Text} {operands : List Text}
    (digits : ∀ part ∈ operand :: operands, Digits part) :
    Text.trim (", ".toList.intercalate (operand :: operands)) =
      ", ".toList.intercalate (operand :: operands) := by
  obtain ⟨first, head, firstDigit⟩ := head_intercalate (digits operand (by simp)) operands
  obtain ⟨final, last, finalDigit⟩ := last_intercalate digits
  apply Text.trim_of_ends
  · intro c found
    cases head.symm.trans found
    exact Text.not_blank_of_digit firstDigit
  · intro c found
    cases last.symm.trans found
    exact Text.not_blank_of_digit finalDigit

theorem trim_literals {operands : List Text} (digits : ∀ operand ∈ operands, Digits operand) :
    (Statement.literals (Text.trim (arguments operands).tail)).map Text.trim = operands := by
  cases operands with
  | nil => rfl
  | cons operand operands =>
    have solid {part : Text} (numeric : Digits part) : Text.trim part = part :=
      Text.trim_of_forall fun c member => Text.not_blank_of_digit (numeric.2 c member)
    obtain ⟨first, head, -⟩ := head_intercalate (digits operand (by simp)) operands
    have filled : (", ".toList.intercalate (operand :: operands)).isEmpty = false := by
      apply List.isEmpty_eq_false_iff.mpr
      intro empty
      rw [empty] at head
      cases head
    change
      (Statement.literals (Text.trim (", ".toList.intercalate (operand :: operands)))).map _ = _
    rw [trim_intercalate digits, Statement.literals, filled, if_neg (by decide),
      splitOn_intercalate digits, List.map_cons, solid (digits operand (by simp)), List.map_map]
    congr 1
    calc operands.map (Text.trim ∘ (' ' :: ·))
        = operands.map id := List.map_congr_left fun part member => by
          rw [Function.comp_apply, Text.trim_blank_cons (by decide),
            solid (digits part (List.mem_cons_of_mem _ member)), id_eq]
      _ = operands := List.map_id operands

theorem solid_mnemonic (opcode : Opcode) : ∀ c ∈ opcode.mnemonic, Text.isBlank c = false := by
  intro c member
  have range := opcode.range_mnemonic c member
  exact Text.not_blank_of_visible (by omega) range.2

variable {opcode : Opcode} {operands : List Text}

/-- The characters of a listed instruction are far from all marks but the blank and the comma. -/
theorem mem_row (digits : ∀ operand ∈ operands, Digits operand) {c : Char}
    (member : c ∈ row opcode operands) :
    c = ' ' ∨ c = ',' ∨ (0x30 ≤ c.toNat ∧ c.toNat < 0x7F) := by
  rcases List.mem_append.mp member with word | behind
  · exact Or.inr (Or.inr (opcode.range_mnemonic c word))
  · cases operands with
    | nil => cases behind
    | cons operand operands =>
      rcases List.mem_cons.mp behind with blank | inside
      · exact Or.inl blank
      · rcases mem_intercalate inside with comma | blank | ⟨part, listed, digit⟩
        · exact Or.inr (Or.inl comma)
        · exact Or.inl blank
        · have range := Text.digit_range ((digits part listed).2 c digit)
          exact Or.inr (Or.inr ⟨by omega, by omega⟩)

theorem not_mem_row (digits : ∀ operand ∈ operands, Digits operand) {mark : Char}
    (low : mark.toNat < 0x30) (noBlank : mark ≠ ' ') (noComma : mark ≠ ',') :
    mark ∉ row opcode operands := by
  intro member
  rcases mem_row digits member with blank | comma | range
  · exact noBlank blank
  · exact noComma comma
  · omega

theorem trim_row (digits : ∀ operand ∈ operands, Digits operand) :
    Text.trim (row opcode operands) = row opcode operands := by
  have solid := solid_mnemonic opcode
  cases operands with
  | nil =>
    have plain : row opcode [] = opcode.mnemonic := List.append_nil _
    rw [plain]
    exact Text.trim_of_forall solid
  | cons operand operands =>
    obtain ⟨final, last, digit⟩ := last_intercalate digits
    have ending : (row opcode (operand :: operands)).getLast? = some final := by
      change (_ ++ ([' '] ++ ", ".toList.intercalate (operand :: operands))).getLast? = _
      rw [List.getLast?_append, List.getLast?_append, last, Option.some_or, Option.some_or]
    apply Text.trim_of_ends
    · intro c found
      obtain ⟨first, letters, spelled⟩ := List.exists_cons_of_ne_nil opcode.mnemonic_ne_nil
      rw [row, spelled] at found
      cases found
      exact solid c (by simp [spelled])
    · intro c found
      cases ending.symm.trans found
      exact Text.not_blank_of_digit digit

/-- The first blank of a listed instruction divides the mnemonic from the operands. -/
theorem cut_row : (Text.cutAt? Text.isBlank (row opcode operands)).getD (row opcode operands, []) =
    (opcode.mnemonic, (arguments operands).tail) := by
  have solid := solid_mnemonic opcode
  cases operands with
  | nil =>
    have plain : row opcode [] = opcode.mnemonic := List.append_nil _
    rw [plain, Text.cutAt?_eq_none solid]
    rfl
  | cons operand operands =>
    have divided : row opcode (operand :: operands) =
        opcode.mnemonic ++ ' ' :: ", ".toList.intercalate (operand :: operands) := rfl
    rw [divided, Text.cutAt?_append solid (by decide)]
    rfl

theorem readInstruction_row (i : Instruction) :
    Statement.readInstruction (row i.opcode (i.values.map Scalar.text)) = .ok i := by
  have digits := digits_values i
  have known : Opcode.ofMnemonic? i.opcode.mnemonic = some i.opcode :=
    Opcode.ofMnemonic?_eq_some_iff.mpr rfl
  have encoded := Instruction.encode_of_trim_eq_text (trim_literals digits)
  unfold Statement.readInstruction
  simp only [trim_row digits, cut_row, known]
  exact encoded

theorem not_opensBlock_mnemonic (opcode : Opcode) (rest : Text) :
    Statement.opensBlock (opcode.mnemonic ++ rest) = false := by
  rw [Statement.opensBlock, decide_eq_false_iff_not]
  intro opens
  apply opcode.mnemonic_not_opener
  have start := congrArg (List.take opcode.mnemonic.length) opens
  rwa [Text.upper, ← List.map_take, List.take_take, Nat.min_comm, ← List.take_take,
    List.take_left] at start

/-- Outside of blocks a row that starts with a mnemonic and holds no comment is an instruction. -/
theorem outside?_mnemonic (opcode : Opcode) {rest : Text}
    (noComment : Text.occurs "//".toList (opcode.mnemonic ++ rest) = false) :
    Statement.outside? {} (opcode.mnemonic ++ rest) =
      some (.instruction (opcode.mnemonic ++ rest)) := by
  have solid := solid_mnemonic opcode
  have range := opcode.range_mnemonic
  have notOpener := not_opensBlock_mnemonic opcode rest
  obtain ⟨first, letters, spelled⟩ := List.exists_cons_of_ne_nil opcode.mnemonic_ne_nil
  rw [spelled, List.cons_append] at noComment notOpener ⊢
  have noDirective : Statement.directiveBody? "#".toList (first :: (letters ++ rest)) = none := by
    have different : ('#' == first) = false := by
      apply beq_false_of_ne
      rintro rfl
      exact absurd (range '#' (by simp [spelled])) (by decide)
    simp [Statement.directiveBody?, List.isPrefixOf, different]
  have cleaned := clean?_eq_self (solid first (by simp [spelled])) noComment
  unfold Statement.outside?
  simp only [cleaned, noDirective, notOpener, Option.map_some, Bool.false_eq_true, if_false]

theorem accepts_instruction (i : Instruction) :
    AcceptsText {} false (instruction i) [.emit i] false := by
  have absent {mark : Char} (low : mark.toNat < 0x30) (noBlank : mark ≠ ' ')
    (noComma : mark ≠ ',') :
      mark ∉ row i.opcode (i.values.map Scalar.text) :=
    not_mem_row (digits_values i) low noBlank noComma
  have noComment : Text.occurs "//".toList (row i.opcode (i.values.map Scalar.text)) = false := by
    rw [← Bool.not_eq_true, Text.occurs_iff]
    intro inside
    have slash : '/' ∈ "//".toList := by decide
    exact absent (by decide) (by decide) (by decide) (inside.subset slash)
  have found : Statement.on? {} false (row i.opcode (i.values.map Scalar.text)) =
      some (.instruction (row i.opcode (i.values.map Scalar.text))) :=
    outside?_mnemonic i.opcode noComment
  rw [instruction_eq]
  apply AcceptsText.row (absent (by decide) (by decide) (by decide))
  rw [Text.dropReturn_of_not_mem (absent (by decide) (by decide) (by decide))]
  refine Accepts.statement found ?_ (by simp)
  rw [Statement.meaning, readInstruction_row]
  rfl

theorem accepts_instructions (instructions : List Instruction) :
    AcceptsText {} false (instructions.flatMap instruction) (instructions.map .emit) false := by
  induction instructions with
  | nil => exact AcceptsText.nil
  | cons i instructions ih => exact (accepts_instruction i).append ih

end Assembler.Listing
