import Assembler.Proofs.Image.Position
import Assembler.Proofs.Image.Truncation

/-! What an error of the reader tells. The bytes that it speaks of stand at the offset that it
names, and up to an instruction that is at fault the image is a valid one. -/
namespace Assembler.Image

/-- Behind a valid image an instruction is one instruction more. -/
theorem read_append_instruction {slot : VersionSlot} {front : Bytes} {program : Program}
    (accepted : read slot front = .ok program) (i : Instruction) :
    read slot (front ++ Format.instruction i) =
      .ok { program with instructions := program.instructions ++ [i] } := by
  obtain ⟨start, rfl, -, -, again⟩ := head_of_read accepted
  rw [List.append_assoc, again]
  refine map_eq_ok_iff.mpr ⟨program.instructions ++ [i], ?_, rfl⟩
  rw [Cursor.instructions_eq_ok_iff]
  exact ⟨program.instructions ++ [i], rfl, by simp⟩

/-- Up to an offset, an image is valid by itself. -/
def ValidUpTo (slot : VersionSlot) (image : Bytes) (offset : Nat) : Prop :=
  ∃ program, read slot (image.take offset) = .ok program

theorem take_of_passes {image bytes : Bytes} {place next : Nat}
    (passes : Cursor.Passes ⟨image.drop place, place⟩ bytes ⟨image.drop next, next⟩) :
    image.take next = image.take place ++ bytes := by
  obtain ⟨rest, offset⟩ := passes
  dsimp only at rest offset
  rw [offset, List.take_add, rest, List.take_left]

theorem validUpTo_of_head {slot : VersionSlot} {image : Bytes} {program : Program} {place : Nat}
    (read : Cursor.access.readHead slot ⟨image, 0⟩ = .ok (program, ⟨image.drop place, place⟩)) :
    ValidUpTo slot image place := by
  obtain ⟨bytes, passes, again⟩ := (composed_readHead slot).steady.reads _ _ _ read
  have front : image.take place = image.take 0 ++ bytes := take_of_passes passes
  rw [List.take_zero, List.nil_append] at front
  have whole := again []
  rw [List.append_nil] at whole
  refine ⟨{ program with instructions := [] }, ?_⟩
  rw [front, Image.read, Access.read_eq, whole]
  refine map_eq_ok_iff.mpr ⟨[], ?_, rfl⟩
  exact Cursor.instructions_of_nil rfl []

theorem ValidUpTo.instruction {slot : VersionSlot} {image : Bytes} {place next : Nat}
    {i : Instruction} (valid : ValidUpTo slot image place)
    (read : Cursor.access.instruction ⟨image.drop place, place⟩ =
      .ok (i, ⟨image.drop next, next⟩)) :
    ValidUpTo slot image next := by
  obtain ⟨program, accepted⟩ := valid
  have front := take_of_passes (Cursor.instruction_eq_ok_iff.mp read)
  exact ⟨_, front ▸ read_append_instruction accepted i⟩

namespace Reader

/-- The loop over the instructions, from a place up to which the image is valid. -/
theorem agrees_instructions {slot : VersionSlot} {image : Bytes} {place : Nat}
    (inRange : place ≤ image.length) (valid : ValidUpTo slot image place)
    (done : List Instruction) :
    Agrees Eq (·.Exact image (ValidUpTo slot image)) (access.instructions ⟨image, place⟩ done)
      (Cursor.access.instructions ⟨image.drop place, place⟩ done) := by
  by_cases inside : place < image.length
  · have ahead : image.drop place ≠ [] := by
      rw [ne_eq, List.drop_eq_nil_iff]
      omega
    have more : access.atEnd ⟨image, place⟩ = false := decide_eq_false (Nat.not_le.mpr inside)
    rw [access.instructions_of_ahead more, Cursor.instructions_of_ne_nil ahead]
    have agrees := agrees_instruction inRange
    generalize plain : Cursor.access.instruction ⟨image.drop place, place⟩ = outcome at agrees ⊢
    generalize access.instruction ⟨image, place⟩ = checked at agrees ⊢
    cases agrees with
    | ok related =>
      obtain ⟨i, next, ⟨within⟩⟩ := related
      exact agrees_instructions within (valid.instruction plain) (i :: done)
    | error told => exact .error (told.mono fun offset start => start ▸ valid)
  · have outside : image.length ≤ place := Nat.le_of_not_lt inside
    have nothing : image.drop place = [] := List.drop_eq_nil_of_le outside
    rw [access.instructions_of_atEnd (decide_eq_true outside), nothing,
      Cursor.instructions_of_nil rfl]
    exact .ok rfl
termination_by image.length - place
decreasing_by
  have shorter : (image.drop next).length < (image.drop place).length :=
    Access.left_of_instruction plain
  rwa [List.length_drop, List.length_drop] at shorter

theorem agrees_read (slot : VersionSlot) (image : Bytes) :
    Agrees Eq (·.Exact image (ValidUpTo slot image)) (read slot image) (Image.read slot image) := by
  rw [read, Image.read, Access.read_eq, Access.read_eq]
  have agrees : Agrees (SamePlace image) (·.Exact image (ValidUpTo slot image))
      (access.readHead slot ⟨image, 0⟩) (Cursor.access.readHead slot ⟨image, 0⟩) :=
    mirrors_readHead slot 0 (Nat.zero_le _)
  generalize plain : Cursor.access.readHead slot ⟨image, 0⟩ = outcome at agrees ⊢
  generalize access.readHead slot ⟨image, 0⟩ = checked at agrees ⊢
  cases agrees with
  | ok related =>
    obtain ⟨program, place, ⟨within⟩⟩ := related
    exact (agrees_instructions within (validUpTo_of_head plain) []).map _
  | error told => exact .error told

end Reader

/-- Errors say what is the case, and reading by position comes to no access out of range: it ends as
reading does. -/
theorem errors_exact (slot : VersionSlot) (image : Bytes) :
    (∀ code offset, read slot image = .error (.unknownCode code offset) →
      offset < image.length ∧ image[offset]? = some code ∧ (∀ opcode : Opcode, opcode.code ≠ code)
        ∧ ∃ program, read slot (image.take offset) = .ok program)
    ∧ (∀ opcode found offset, read slot image = .error (.operandCount opcode found offset) →
      (∀ named : Opcode, named.mnemonic = opcode.mnemonic → image[offset]? = some named.code)
        ∧ offset + 3 ≤ image.length ∧ found = Bytes.toNat ((image.drop (offset + 1)).take 2)
        ∧ found ≠ opcode.operands.length ∧ ∃ program, read slot (image.take offset) = .ok program)
    ∧ (∀ mark offset, read slot image = .error (.badSignature mark offset) →
      offset ≤ image.length ∧ ¬ textBytes mark <+: image.drop offset)
    ∧ (∀ needed offset, read slot image = .error (.truncated needed offset) →
      offset ≤ image.length ∧ 0 < needed)
    ∧ Reader.read slot image = (read slot image).mapError .reported := by
  have agrees := Reader.agrees_read slot image
  refine ⟨?_, ?_, fun mark offset => agrees.of_error, fun needed offset => agrees.of_error,
    agrees.eq_mapError⟩
  · intro code offset failed
    obtain ⟨here, unknown, valid⟩ := agrees.of_error failed
    exact ⟨(List.getElem?_eq_some_iff.mp here).1, here, unknown, valid⟩
  · intro opcode found offset failed
    obtain ⟨here, room, declared, other, valid⟩ := agrees.of_error failed
    refine ⟨?_, room, declared, other, valid⟩
    intro named same
    rw [Opcode.mnemonic_injective same]
    exact here

/-- One error of each sort: a code that there is not, an instruction with one operand that declares
two, a signature of one letter and an image that ends behind the first signature. -/
theorem errors_exact_each :
    let front : Bytes :=
      [0x48, 0x58, 0x4D, 0, 0, 0, 0, 0, 0, 0x52, 0x45, 0x53, 0, 0, 0x45, 0x58, 0x45, 0x43]
    let opcode : Opcode := ⟨⟨5, by decide +kernel⟩⟩
    read .plain (front ++ [255]) = .error (.unknownCode 255 18)
      ∧ read .plain (front ++ [5, 2, 0]) = .error (.operandCount opcode 2 18)
      ∧ read .plain [0x48] = .error (.badSignature headerSignature 0)
      ∧ read .plain (front.take 3) = .error (.truncated 1 3) ∧ 3 ≤ (front.take 3).length
      ∧ (∃ program, read .plain front = .ok program)
      ∧ (front ++ [5, 2, 0])[18]? = some opcode.code ∧ 2 ≠ opcode.operands.length
      ∧ (¬ textBytes headerSignature <+: [0x48])
      ∧ Reader.read .plain [0x48] = .error (.reported (.badSignature headerSignature 0)) := by
  intro front opcode
  have head : Cursor.access.readHead .plain ⟨front, 0⟩ = .ok ({}, ⟨[], 18⟩) := by
    dsimp only [front]
    cbv
  have unknown : read .plain (front ++ [255]) = .error (.unknownCode 255 18) :=
    read_of_head head (List.cons_ne_nil _ _) (Cursor.instruction_of_unknown (by decide +kernel))
  have count : read .plain (front ++ [5, 2, 0]) = .error (.operandCount opcode 2 18) :=
    read_of_head head (List.cons_ne_nil _ _) (by cbv)
  have letter : read .plain [0x48] = .error (.badSignature headerSignature 0) := rfl
  have short : read .plain (front.take 3) = .error (.truncated 1 3) := rfl
  obtain ⟨-, -, -, valid⟩ := (errors_exact .plain (front ++ [255])).1 255 18 unknown
  obtain ⟨here, -, -, other, -⟩ := (errors_exact .plain (front ++ [5, 2, 0])).2.1 opcode 2 18 count
  obtain ⟨-, -, signature, -, checked⟩ := errors_exact .plain [0x48]
  obtain ⟨-, -, -, missing, -⟩ := errors_exact .plain (front.take 3)
  refine ⟨unknown, count, letter, short, (missing 1 3 short).1, valid, here opcode rfl, other,
    (signature _ 0 letter).2, ?_⟩
  rw [checked, letter]
  rfl

end Assembler.Image
