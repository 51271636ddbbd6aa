import Assembler.Fault
import Assembler.Scalar.Literal

/-! Instructions: an opcode with the bytes of its operands. -/
namespace Assembler

structure Instruction where
  opcode : Opcode
  arguments : Bytes
  fits : arguments.length = opcode.width
  deriving DecidableEq

namespace Instruction

/-- The bytes of a sequence of literals, each read as the kind beside it; the first bad literal
stops it. -/
def encodeOperands : List (ScalarKind × Text) → Except BadLiteral Bytes
  | [] => .ok []
  | (kind, literal) :: rest => do
    let front ← Scalar.encode kind literal
    let back ← encodeOperands rest
    return front ++ back

theorem length_of_encodeOperands {pairs : List (ScalarKind × Text)} {bytes : Bytes}
    (h : encodeOperands pairs = .ok bytes) :
    bytes.length = ScalarKind.totalWidth (pairs.map Prod.fst) := by
  induction pairs generalizing bytes with
  | nil => cases h; rfl
  | cons pair rest ih =>
    obtain ⟨kind, literal⟩ := pair
    simp only [encodeOperands] at h
    cases front : Scalar.encode kind literal with
    | error bad => rw [front] at h; cases h
    | ok first =>
      cases back : encodeOperands rest with
      | error bad => rw [front, back] at h; cases h
      | ok last =>
        rw [front, back] at h
        cases h
        simp [ScalarKind.totalWidth, Scalar.length_of_encode front] at ih ⊢
        exact ih back

/-- The instruction that an opcode and its literals denote. Their number is looked at first. -/
def encode (opcode : Opcode) (literals : List Text) : Except Fault Instruction :=
  if count : literals.length = opcode.operands.length then
    match h : encodeOperands (opcode.operands.zip literals) with
    | .error bad => .error (.badLiteral bad)
    | .ok bytes => .ok ⟨opcode, bytes, by
        rw [length_of_encodeOperands h, List.map_fst_zip (by omega), Opcode.width]⟩
  else .error (.literalCount opcode literals.length)

/-- Takes bytes for the operands as they are, if there are as many as the opcode wants. -/
def ofBytes? (opcode : Opcode) (arguments : Bytes) : Option Instruction :=
  if fits : arguments.length = opcode.width then some ⟨opcode, arguments, fits⟩ else none

/-- Reads scalars of the given kinds, one after another. A kind that the bytes do not suffice for is
passed over. -/
def decodeOperands : List ScalarKind → Bytes → List Scalar
  | [], _ => []
  | kind :: kinds, bytes =>
    match Scalar.decode? kind bytes with
    | some s => s :: decodeOperands kinds (bytes.drop kind.width)
    | none => decodeOperands kinds bytes

/-- The operands of an instruction, in order. -/
def values (instruction : Instruction) : List Scalar :=
  decodeOperands instruction.opcode.operands instruction.arguments

end Instruction
end Assembler
