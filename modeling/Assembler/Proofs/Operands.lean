import Assembler.Image.Reader
import Assembler.Proofs.Instruction
import Assembler.Source.Compile

/-! Instructions and what their opcodes declare. However an instruction comes about, it has one
value for each declared operand, and its bytes are those of the values: encoding drops nothing of
what the literals say, and decoding passes over no operand. -/
namespace Assembler.Instruction

/-- The values are of the declared kinds, one for each operand and in order, and there is nothing in
the bytes besides them. -/
structure Typed (i : Instruction) : Prop where
  kinds : i.values.map Scalar.kind = i.opcode.operands
  bytes : i.values.flatMap Scalar.bytes = i.arguments

inductive Obtained : Instruction → Prop where
  | encoded {opcode : Opcode} {literals : List Text} {i : Instruction}
    (made : encode opcode literals = .ok i) : Obtained i
  | taken {opcode : Opcode} {arguments : Bytes} {i : Instruction}
    (made : ofBytes? opcode arguments = some i) : Obtained i
  | compiled {settings : Settings} {lines : List Text} {compiled : Compiled} {i : Instruction}
    (made : Source.compile settings lines = .ok compiled)
    (member : i ∈ compiled.program.instructions) : Obtained i
  | read {slot : VersionSlot} {image : Bytes} {program : Program} {i : Instruction}
    (made : Image.read slot image = .ok program) (member : i ∈ program.instructions) : Obtained i

/-- Literals that there is no instruction for: too many or too few of them, or one of them cannot be
read as its operand. The number is looked at first, then the literals from left to right. -/
def Refuses (opcode : Opcode) (literals : List Text) (fault : Fault) : Prop :=
  literals.length ≠ opcode.operands.length ∧ fault = .literalCount opcode literals.length
  ∨ literals.length = opcode.operands.length
    ∧ ∃ front kind literal back bad, opcode.operands.zip literals = front ++ (kind, literal) :: back
      ∧ (∀ pair ∈ front, ∃ s, Scalar.parse pair.1 pair.2 = .ok s)
      ∧ Scalar.parse kind literal = .error bad ∧ fault = .badLiteral bad

theorem encode_eq_error_iff_refuses {opcode : Opcode} {literals : List Text} {fault : Fault} :
    encode opcode literals = .error fault ↔ Refuses opcode literals fault := by
  simp only [encode_eq_error_iff, encodeOperands_eq_error_iff, Refuses]
  refine or_congr_right (and_congr_right fun _ => ?_)
  constructor
  · rintro ⟨bad, ⟨front, kind, literal, back, split, readable, refused⟩, rfl⟩
    exact ⟨front, kind, literal, back, bad, split, readable, refused, rfl⟩
  · rintro ⟨front, kind, literal, back, bad, split, readable, refused, rfl⟩
    exact ⟨bad, ⟨front, kind, literal, back, split, readable, refused⟩, rfl⟩

theorem parses_of_encode {opcode : Opcode} {literals : List Text} {i : Instruction}
    (encoded : encode opcode literals = .ok i) :
    ∀ pair ∈ opcode.operands.zip literals, ∃ s, Scalar.parse pair.1 pair.2 = .ok s := by
  obtain ⟨rfl, -, read⟩ := encode_eq_ok_iff.mp encoded
  rw [← List.map_uncurry_zip_eq_zipWith] at read
  intro pair member
  have result : Scalar.parse pair.1 pair.2 ∈ i.values.map .ok :=
    read ▸ List.mem_map_of_mem (f := Function.uncurry Scalar.parse) member
  obtain ⟨s, -, same⟩ := List.mem_map.mp result
  exact ⟨s, same.symm⟩

theorem exists_encode_iff {opcode : Opcode} {literals : List Text} :
    (∃ i, encode opcode literals = .ok i) ↔
      literals.length = opcode.operands.length
        ∧ ∀ pair ∈ opcode.operands.zip literals, ∃ s, Scalar.parse pair.1 pair.2 = .ok s := by
  constructor
  · rintro ⟨i, encoded⟩
    exact ⟨(encode_eq_ok_iff.mp encoded).2.1, parses_of_encode encoded⟩
  · rintro ⟨count, readable⟩
    cases result : encode opcode literals with
    | ok i => exact ⟨i, rfl⟩
    | error fault =>
      rcases encode_eq_error_iff_refuses.mp result with ⟨other, -⟩ |
        ⟨-, front, kind, literal, back, bad, split, -, refused, -⟩
      · exact absurd count other
      · obtain ⟨s, read⟩ := readable (kind, literal) (by simp [split])
        rw [refused] at read
        cases read

/-- Literals denote an instruction exactly if there is one for each operand and each can be read,
and then the values of the instruction are what is read from them, bit for bit. Otherwise the error
is about their number, and if that is right about the leftmost one that cannot be read. Whatever is
encoded, taken from bytes, compiled or read from an image has the values that its opcode declares,
and they are all it has. -/
theorem operands_faithful (opcode : Opcode) (literals : List Text) :
    ((∃ i, encode opcode literals = .ok i) ↔
      literals.length = opcode.operands.length
        ∧ ∀ pair ∈ opcode.operands.zip literals, ∃ s, Scalar.parse pair.1 pair.2 = .ok s)
    ∧ (∀ i, encode opcode literals = .ok i →
      i.values.map .ok = List.zipWith Scalar.parse opcode.operands literals
        ∧ i.arguments.length = opcode.width ∧ ofBytes? opcode i.arguments = some i)
    ∧ (∀ fault, encode opcode literals = .error fault ↔ Refuses opcode literals fault)
    ∧ ∀ i, Obtained i → i.Typed := by
  refine ⟨exists_encode_iff, ?_, fun _ => encode_eq_error_iff_refuses,
    fun i _ => ⟨i.kind_values, i.bytes_values⟩⟩
  intro i encoded
  obtain ⟨rfl, -, read⟩ := encode_eq_ok_iff.mp encoded
  refine ⟨read.symm, i.fits, ?_⟩
  rw [ofBytes?, dif_pos i.fits]

/-- Two operands of different widths, and literals of which neither can be read. -/
theorem operands_faithful_mixed :
    let opcode : Opcode := ⟨⟨96, by decide +kernel⟩⟩
    let i : Instruction := ⟨opcode, [1, 2, 7], by decide +kernel⟩
    encode opcode ["513".toList, " +7".toList] = .ok i
      ∧ (i.values.map .ok : List (Except BadLiteral Scalar)) = [.ok ⟨.uint16, 513⟩, .ok ⟨.byte, 7⟩]
      ∧ i.Typed
      ∧ encode opcode ["x".toList, "y".toList] =
        .error (.badLiteral ⟨"x".toList, .scalar .uint16⟩)
      ∧ encode opcode ["x".toList] = .error (.literalCount opcode 1) := by
  intro opcode i
  have encoded : encode opcode ["513".toList, " +7".toList] = .ok i := by cbv
  obtain ⟨-, values, -, typed⟩ := operands_faithful opcode ["513".toList, " +7".toList]
  obtain ⟨-, -, unreadable, -⟩ := operands_faithful opcode ["x".toList, "y".toList]
  obtain ⟨-, -, uncounted, -⟩ := operands_faithful opcode ["x".toList]
  refine ⟨encoded, ?_, typed i (.encoded encoded),
    (unreadable _).mpr (Or.inr ⟨by decide +kernel, ?_⟩),
    (uncounted _).mpr (Or.inl ⟨by decide +kernel, rfl⟩)⟩
  · rw [(values i encoded).1]
    rfl
  · exact ⟨[], .uint16, "x".toList, [(.byte, "y".toList)], ⟨"x".toList, .scalar .uint16⟩,
      by decide +kernel, List.forall_mem_nil _, rfl, rfl⟩

end Assembler.Instruction
