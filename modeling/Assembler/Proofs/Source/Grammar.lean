import Assembler.Proofs.Instruction
import Assembler.Proofs.Numeral
import Assembler.Proofs.Source.Concatenation

/-! The grammar of instruction lines: a mnemonic and, separated by commas, one unsigned number for
each operand that the mnemonic's opcode declares. The grammar is stated apart from the reader, as is
the fault of every line that breaks it; a line does one or the other, and nothing but that. -/
namespace Assembler

namespace Statement

def firstWord (text : Text) : Text :=
  (Text.trim text).takeWhile (! Text.isBlank ·)

/-- What stands behind that word, without the blanks around it. -/
def operandText (text : Text) : Text :=
  Text.trim ((Text.trim text).dropWhile (! Text.isBlank ·))

/-- Literals that spell operands of the given kinds, one each, and the bytes of the numbers. -/
inductive Spelled : List ScalarKind → List Text → Bytes → Prop where
  | nil : Spelled [] [] []
  | cons {kind : ScalarKind} {kinds : List ScalarKind} {literal : Text} {literals : List Text}
    {n : Nat} {bytes : Bytes} (first : Scalar.Reads kind literal n)
    (later : Spelled kinds literals bytes) :
    Spelled (kind :: kinds) (literal :: literals) (Bytes.littleEndian kind.width n ++ bytes)

/-- The instruction that a word and the text behind it denote. -/
structure Denotes (word rest : Text) (i : Instruction) : Prop where
  mnemonic : word = i.opcode.mnemonic
  operands : i.opcode.operands = [] ∧ rest = [] ∧ i.arguments = []
    ∨ i.opcode.operands ≠ [] ∧ rest ≠ [] ∧ rest.count ',' = i.opcode.operands.length - 1
      ∧ Spelled i.opcode.operands (rest.splitOn ',') i.arguments

def literalCount (rest : Text) : Nat :=
  if rest = [] then 0 else rest.count ',' + 1

/-- The fault of a word and the text behind it that denote no instruction. -/
inductive Refused (word rest : Text) : Fault → Prop where
  | word (unknown : ∀ opcode : Opcode, word ≠ opcode.mnemonic) :
    Refused word rest (.unknownMnemonic word)
  | count {opcode : Opcode} (known : word = opcode.mnemonic)
    (differs : literalCount rest ≠ opcode.operands.length) :
    Refused word rest (.literalCount opcode (literalCount rest))
  /-- The leftmost literal that cannot be read is to blame. -/
  | literal {opcode : Opcode} {front back : List (ScalarKind × Text)} {kind : ScalarKind}
    {literal : Text} (known : word = opcode.mnemonic)
    (counted : literalCount rest = opcode.operands.length)
    (split : opcode.operands.zip (rest.splitOn ',') = front ++ (kind, literal) :: back)
    (readable : ∀ pair ∈ front, ∃ n, Scalar.Reads pair.1 pair.2 n)
    (unreadable : ¬ ∃ n, Scalar.Reads kind literal n) :
    Refused word rest (.badLiteral ⟨literal, .scalar kind⟩)

theorem length_literals (rest : Text) : (literals rest).length = literalCount rest := by
  unfold literals literalCount
  cases rest with
  | nil => rfl
  | cons c rest => simp [Text.length_splitOn]

theorem literals_of_ne_nil {rest : Text} (nonempty : rest ≠ []) :
    literals rest = rest.splitOn ',' := by
  rw [literals, List.isEmpty_eq_false_iff.mpr nonempty]
  rfl

theorem readInstruction_eq (text : Text) :
    readInstruction text =
      match Opcode.ofMnemonic? (firstWord text) with
      | none => .error (.unknownMnemonic (firstWord text))
      | some opcode => Instruction.encode opcode (literals (operandText text)) := by
  have word : ((Text.cutAt? Text.isBlank (Text.trim text)).getD (Text.trim text, [])).1 =
      firstWord text := Text.cutAt?_left _ _
  have rest : Text.trim ((Text.cutAt? Text.isBlank (Text.trim text)).getD (Text.trim text, [])).2 =
      operandText text := Text.trim_cutAt?_right _
  unfold readInstruction
  cases known : Opcode.ofMnemonic? (firstWord text) with
  | none => simp only [word, known]
  | some opcode => simp only [word, known, rest]

theorem spelled_iff {kinds : List ScalarKind} (unsigned : ∀ kind ∈ kinds, kind.form = .unsigned)
    {texts : List Text} {bytes : Bytes} :
    Spelled kinds texts bytes ↔
      texts.length = kinds.length ∧ Instruction.encodeOperands (kinds.zip texts) = .ok bytes := by
  induction kinds generalizing texts bytes with
  | nil =>
    constructor
    · rintro ⟨⟩
      exact ⟨rfl, rfl⟩
    · rintro ⟨count, encoded⟩
      obtain rfl := List.length_eq_zero_iff.mp count
      cases encoded
      exact .nil
  | cons kind kinds ih =>
    obtain ⟨here, later⟩ := List.forall_mem_cons.mp unsigned
    constructor
    · rintro ⟨⟩
      rename_i literal literals n bytes reads spelled
      obtain ⟨count, encoded⟩ := (ih later).mp spelled
      have read := (Scalar.parse_eq_ok_iff here).mpr ⟨n, reads, rfl⟩
      refine ⟨congrArg (· + 1) count, ?_⟩
      rw [List.zip_cons_cons, Instruction.encodeOperands_cons_of_ok read, encoded,
        Scalar.bytes_ofNat reads.2]
      rfl
    · rintro ⟨count, encoded⟩
      cases texts with
      | nil => cases count
      | cons literal literals =>
        rw [List.zip_cons_cons] at encoded
        cases read : Scalar.parse kind literal with
        | error bad =>
          rw [Instruction.encodeOperands_cons_of_error read] at encoded
          cases encoded
        | ok s =>
          rw [Instruction.encodeOperands_cons_of_ok read] at encoded
          obtain ⟨n, reads, rfl⟩ := (Scalar.parse_eq_ok_iff here).mp read
          cases rest : Instruction.encodeOperands (kinds.zip literals) with
          | error bad =>
            rw [rest] at encoded
            cases encoded
          | ok tail =>
            rw [rest] at encoded
            cases encoded
            rw [Scalar.bytes_ofNat reads.2]
            exact .cons reads ((ih later).mpr ⟨Nat.succ.inj count, rest⟩)

theorem Spelled.length_eq {kinds : List ScalarKind} {texts : List Text} {bytes : Bytes}
    (spelled : Spelled kinds texts bytes) : texts.length = kinds.length := by
  induction spelled with
  | nil => rfl
  | cons _ _ ih => exact congrArg (· + 1) ih

/-- The literals of a text that is not empty are divided by its commas. -/
theorem spelled_literals_iff {kinds : List ScalarKind} {rest : Text} {bytes : Bytes} :
    Spelled kinds (literals rest) bytes ↔
      kinds = [] ∧ rest = [] ∧ bytes = []
      ∨ kinds ≠ [] ∧ rest ≠ [] ∧ rest.count ',' = kinds.length - 1
        ∧ Spelled kinds (rest.splitOn ',') bytes := by
  by_cases empty : rest = []
  · subst empty
    constructor
    · rintro ⟨⟩
      exact Or.inl ⟨rfl, rfl, rfl⟩
    · rintro (⟨rfl, -, rfl⟩ | ⟨-, nonempty, -⟩)
      · exact .nil
      · exact absurd rfl nonempty
  · rw [literals_of_ne_nil empty]
    constructor
    · intro spelled
      have count := spelled.length_eq
      rw [Text.length_splitOn] at count
      have positive : kinds ≠ [] := by
        rintro rfl
        cases count
      exact Or.inr ⟨positive, empty, by omega, spelled⟩
    · rintro (⟨-, nothing, -⟩ | ⟨-, -, -, spelled⟩)
      · exact absurd nothing empty
      · exact spelled

theorem denotes_iff {word rest : Text} {i : Instruction} :
    Denotes word rest i ↔
      word = i.opcode.mnemonic ∧ Instruction.encode i.opcode (literals rest) = .ok i := by
  rw [Instruction.encode_eq_ok_iff_operands, ← spelled_iff i.opcode.unsigned_operands,
    spelled_literals_iff]
  constructor
  · rintro ⟨mnemonic, operands⟩
    exact ⟨mnemonic, rfl, operands⟩
  · rintro ⟨mnemonic, -, operands⟩
    exact ⟨mnemonic, operands⟩

theorem readInstruction_eq_ok_iff {text : Text} {i : Instruction} :
    readInstruction text = .ok i ↔ Denotes (firstWord text) (operandText text) i := by
  rw [readInstruction_eq, denotes_iff]
  cases known : Opcode.ofMnemonic? (firstWord text) with
  | none =>
    constructor
    · rintro ⟨⟩
    · rintro ⟨named, -⟩
      rw [Opcode.ofMnemonic?_eq_some_iff.mpr named] at known
      cases known
  | some opcode =>
    have named := Opcode.ofMnemonic?_eq_some_iff.mp known
    constructor
    · intro encoded
      obtain ⟨rfl, -⟩ := Instruction.encode_eq_ok_iff.mp encoded
      exact ⟨named, encoded⟩
    · rintro ⟨same, encoded⟩
      obtain rfl := Opcode.mnemonic_injective (named.symm.trans same)
      exact encoded

theorem encodeOperands_eq_error_iff_unreadable {kinds : List ScalarKind}
    (unsigned : ∀ kind ∈ kinds, kind.form = .unsigned) {texts : List Text} {bad : BadLiteral} :
    Instruction.encodeOperands (kinds.zip texts) = .error bad ↔
      ∃ front kind literal back, kinds.zip texts = front ++ (kind, literal) :: back
        ∧ (∀ pair ∈ front, ∃ n, Scalar.Reads pair.1 pair.2 n)
        ∧ (¬ ∃ n, Scalar.Reads kind literal n) ∧ bad = ⟨literal, .scalar kind⟩ := by
  have kinds_of_mem {pair : ScalarKind × Text} (member : pair ∈ kinds.zip texts) :
      pair.1.form = .unsigned :=
    unsigned pair.1 (List.of_mem_zip member).1
  rw [Instruction.encodeOperands_eq_error_iff]
  refine exists_congr fun front => exists_congr fun kind => exists_congr fun literal =>
    exists_congr fun back => and_congr_right fun split => ?_
  have here : ((kind, literal) : ScalarKind × Text).1.form = .unsigned :=
    kinds_of_mem (by simp [split])
  rw [Scalar.parse_eq_error_iff here]
  refine and_congr_left fun _ => forall₂_congr fun pair member => ?_
  exact Scalar.exists_parse_iff (kinds_of_mem (by simp [split, member]))

theorem zip_literals {kinds : List ScalarKind} {rest : Text}
    (counted : literalCount rest = kinds.length) :
    kinds.zip (literals rest) = kinds.zip (rest.splitOn ',') := by
  by_cases empty : rest = []
  · subst empty
    obtain rfl := List.length_eq_zero_iff.mp counted.symm
    rfl
  · rw [literals_of_ne_nil empty]

theorem encode_eq_error_iff_refused {word rest : Text} {opcode : Opcode} {fault : Fault}
    (known : word = opcode.mnemonic) :
    Instruction.encode opcode (literals rest) = .error fault ↔ Refused word rest fault := by
  rw [Instruction.encode_eq_error_iff, length_literals]
  constructor
  · rintro (⟨differs, rfl⟩ | ⟨counted, bad, refused, rfl⟩)
    · exact .count known differs
    · rw [encodeOperands_eq_error_iff_unreadable opcode.unsigned_operands, zip_literals counted]
        at refused
      obtain ⟨front, kind, literal, back, split, readable, unreadable, rfl⟩ := refused
      exact .literal known counted split readable unreadable
  · intro refused
    cases refused with
    | word unknown => exact absurd known (unknown opcode)
    | count same differs =>
      obtain rfl := Opcode.mnemonic_injective (known.symm.trans same)
      exact Or.inl ⟨differs, rfl⟩
    | literal same counted split readable unreadable =>
      obtain rfl := Opcode.mnemonic_injective (known.symm.trans same)
      refine Or.inr ⟨counted, _, ?_, rfl⟩
      rw [encodeOperands_eq_error_iff_unreadable opcode.unsigned_operands, zip_literals counted]
      exact ⟨_, _, _, _, split, readable, unreadable, rfl⟩

theorem readInstruction_eq_error_iff {text : Text} {fault : Fault} :
    readInstruction text = .error fault ↔ Refused (firstWord text) (operandText text) fault := by
  rw [readInstruction_eq]
  cases known : Opcode.ofMnemonic? (firstWord text) with
  | some opcode => exact encode_eq_error_iff_refused (Opcode.ofMnemonic?_eq_some_iff.mp known)
  | none =>
    have unknown (opcode : Opcode) : firstWord text ≠ opcode.mnemonic := by
      intro named
      rw [Opcode.ofMnemonic?_eq_some_iff.mpr named] at known
      cases known
    constructor
    · rintro ⟨⟩
      exact .word unknown
    · intro refused
      cases refused with
      | word => rfl
      | count named => exact absurd named (unknown _)
      | literal named => exact absurd named (unknown _)

theorem readInstruction_ne_unclosedBlock (text : Text) :
    readInstruction text ≠ .error .unclosedBlock := by
  intro failed
  cases readInstruction_eq_error_iff.mp failed

end Statement

namespace Source
open Statement

/-- A line that opens and closes no block is one step more. -/
theorem trace_concat {settings : Settings} {front : List Text}
    (closed : blockFrom settings none 0 front = none) {line text : Text}
    (found : outside? settings line = some (.instruction text)) :
    trace settings (front ++ [line]) =
        trace settings front ++ [stepOf settings ⟨front.length, .instruction text⟩]
      ∧ blockFrom settings none 0 (front ++ [line]) = none := by
  have said : on? settings (none : Option Nat).isSome line = some (.instruction text) := found
  have after : blockFrom settings none 0 (front ++ [line]) = none := by
    rw [blockFrom_append, closed, blockFrom, said]
    rfl
  refine ⟨?_, after⟩
  rw [trace_of_closed after, trace_of_closed closed, statementsFrom_append, closed, statementsFrom,
    said, List.map_append, Nat.zero_add]
  rfl

theorem outside?_of_clean {settings : Settings} {line text : Text}
    (cleaned : clean? settings.commentMark line = some text)
    (unmarked : ¬ (settings.directiveMark ≠ [] ∧ settings.directiveMark <+: text))
    (plain : opensBlock text = false) : outside? settings line = some (.instruction text) := by
  have noBody : directiveBody? settings.directiveMark text = none := by
    cases marked : directiveBody? settings.directiveMark text with
    | none => rfl
    | some body =>
      obtain ⟨used, rfl⟩ := directiveBody?_eq_some_iff.mp marked
      exact absurd ⟨used, List.prefix_append _ _⟩ unmarked
  simp only [outside?, cleaned, Option.map_some, noBody, plain]
  rfl

/-- The result behind one instruction line more, by how that line is read. -/
theorem compile_concat {settings : Settings} {front : List Text} {first : Compiled}
    (closed : blockFrom settings none 0 front = none)
    (compiles : compile settings front = .ok first) {line text : Text}
    (found : outside? settings line = some (.instruction text)) :
    compile settings (front ++ [line]) =
      match readInstruction text with
      | .ok i => .ok ⟨{ first.program with instructions := first.program.instructions ++ [i] },
          first.skipped⟩
      | .error fault =>
        if toleranceAfter settings front then
          .ok ⟨first.program, first.skipped ++ [⟨front.length, fault⟩]⟩
        else .error ⟨front.length, fault⟩ := by
  obtain ⟨passes, rfl⟩ := compile_eq_ok_iff.mp compiles
  simp only [compile, outcome, (trace_concat closed found).1, fatal?_append, passes, Option.none_or,
    foldl_tolerance_trace]
  cases read : readInstruction text with
  | ok i =>
    have step : stepOf settings ⟨front.length, .instruction text⟩ =
        ⟨front.length, .instruction text, .ok (.emit i)⟩ := by
      simp only [stepOf, meaning, read, Except.map]
    simp [step, fatal?, Step.effect?, Step.error?, program, Effect.instruction?, Effect.resource?,
      Effect.assigned]
  | error fault =>
    have step : stepOf settings ⟨front.length, .instruction text⟩ =
        ⟨front.length, .instruction text, .error fault⟩ := by
      simp only [stepOf, meaning, read, Except.map]
    cases toleranceAfter settings front <;>
      simp [step, fatal?, List.filterMap_cons, Step.effect?, Step.error?]

theorem toleranceAfter_concat {settings : Settings} {front : List Text}
    (closed : blockFrom settings none 0 front = none) {line text : Text}
    (found : outside? settings line = some (.instruction text)) :
    toleranceAfter settings (front ++ [line]) = toleranceAfter settings front := by
  rw [← foldl_tolerance_trace, (trace_concat closed found).1, List.foldl_append,
    foldl_tolerance_trace, List.foldl_cons, List.foldl_nil]
  simp only [Step.tolerance, stepOf, meaning]
  cases readInstruction text <;> rfl

/-- Outside of blocks a line that is neither a directive nor an opener does one of two things. If
its words denote an instruction, then that is put behind those before it. If they do not, their
fault is an error at that line, which by the mode is listed or ends the compilation, whatever
follows. Nothing else changes: neither the other parts of the program, nor the mode, nor what is
open. -/
theorem instruction_line {settings : Settings} {front : List Text} {line text : Text}
    {first : Compiled} (cleaned : clean? settings.commentMark line = some text)
    (unmarked : ¬ (settings.directiveMark ≠ [] ∧ settings.directiveMark <+: text))
    (plain : opensBlock text = false) (closed : blockFrom settings none 0 front = none)
    (compiles : compile settings front = .ok first) :
    (∀ i, compile settings (front ++ [line]) =
        .ok ⟨{ first.program with instructions := first.program.instructions ++ [i] },
          first.skipped⟩
      ↔ Denotes (firstWord text) (operandText text) i)
    ∧ (∀ fault, compile settings (front ++ [line]) =
        (if toleranceAfter settings front then
          .ok ⟨first.program, first.skipped ++ [⟨front.length, fault⟩]⟩
        else .error ⟨front.length, fault⟩)
      ↔ Refused (firstWord text) (operandText text) fault)
    ∧ ((¬ ∃ i, Denotes (firstWord text) (operandText text) i) ↔
      ∃ fault, Refused (firstWord text) (operandText text) fault)
    ∧ (toleranceAfter settings front = false →
      ∀ fault, Refused (firstWord text) (operandText text) fault →
      ∀ back, compile settings (front ++ [line] ++ back) = .error ⟨front.length, fault⟩)
    ∧ toleranceAfter settings (front ++ [line]) = toleranceAfter settings front
    ∧ blockFrom settings none 0 (front ++ [line]) = none := by
  have found := outside?_of_clean cleaned unmarked plain
  have result := compile_concat closed compiles found
  simp only [← readInstruction_eq_ok_iff, ← readInstruction_eq_error_iff]
  refine ⟨?_, ?_, ?_, ?_, toleranceAfter_concat closed found, (trace_concat closed found).2⟩
  · intro i
    rw [result]
    cases readInstruction text with
    | ok j => simp
    | error fault => cases toleranceAfter settings front <;> simp
  · intro fault
    rw [result]
    cases readInstruction text with
    | ok i => cases toleranceAfter settings front <;> simp
    | error cause => cases toleranceAfter settings front <;> simp
  · cases readInstruction text <;> simp
  · intro strict fault refused back
    have other : fault ≠ .unclosedBlock := by
      rintro rfl
      exact readInstruction_ne_unclosedBlock text refused
    rw [refused, strict] at result
    rw [compile_eq_error_iff]
    exact fatal?_trace_append_of_stops (compile_eq_error_iff.mp result) other back

/-- Blanks, a plus sign, a zero in front and a comment do not matter. A literal that is too large is
to blame before one that is no number, and is listed because errors are tolerated. -/
theorem instruction_line_after_directive :
    let front := ["#IGNORE_COMPILER_ERRORS".toList]
    let first : Compiled := ⟨{}, []⟩
    let i : Instruction := ⟨⟨⟨98, by decide +kernel⟩⟩, [1, 2, 7], by decide +kernel⟩
    compile {} front = .ok first
      ∧ compile {} (front ++ ["\tsetvarbyte  +0513 , 7 // x".toList]) =
        .ok ⟨{ instructions := [i] }, []⟩
      ∧ compile {} (front ++ ["setvarbyte 65536, x".toList]) =
        .ok ⟨{}, [⟨1, .badLiteral ⟨"65536".toList, .scalar .uint16⟩⟩]⟩ := by
  intro front first i
  have compiles : compile {} front = .ok first :=
    compile_eq_ok_iff.mpr ⟨by decide +kernel +zetaReduce, by decide +kernel +zetaReduce⟩
  have closed : blockFrom {} none 0 front = none := by decide +kernel +zetaReduce
  have tolerant : toleranceAfter {} front = true := by decide +kernel +zetaReduce
  obtain ⟨accepted, -⟩ := instruction_line
    (by decide +kernel : clean? "//".toList "\tsetvarbyte  +0513 , 7 // x".toList =
      some "setvarbyte  +0513 , 7 ".toList) (by decide +kernel) (by decide +kernel) closed compiles
  obtain ⟨-, refused, -⟩ := instruction_line
    (by decide +kernel : clean? "//".toList "setvarbyte 65536, x".toList =
      some "setvarbyte 65536, x".toList) (by decide +kernel) (by decide +kernel) closed compiles
  rw [tolerant] at refused
  have named : firstWord "setvarbyte 65536, x".toList = i.opcode.mnemonic := by decide +kernel
  have denotes : Instruction.encode i.opcode ["+0513 ".toList, " 7".toList] = .ok i := by cbv
  have fails : Instruction.encode i.opcode ["65536".toList, " x".toList] =
      .error (.badLiteral ⟨"65536".toList, .scalar .uint16⟩) := by cbv
  refine ⟨compiles, (accepted i).mpr (denotes_iff.mpr ⟨by decide +kernel, ?_⟩),
    (refused _).mpr ((encode_eq_error_iff_refused named).mp ?_)⟩
  · rw [← denotes]
    exact congrArg _ (by decide +kernel)
  · rw [← fails]
    exact congrArg _ (by decide +kernel)

end Source
end Assembler
