import Assembler.Proofs.Image.Steady

/-! Images with more bytes behind them. Everything in front of the instructions is read by one
steady reader, and the loop over the instructions looks at the end of the image only to stop without
an error. So an error of the contents stays, and one for want of bytes tells how many more it
takes. -/
namespace Assembler.Image

namespace Access

variable {ε π : Type} (access : Access ε π)

/-- The step of the loop over the instructions. -/
theorem instructions_of_ahead {place : π} (ahead : access.atEnd place = false)
    (done : List Instruction) :
    access.instructions place done =
      access.instruction place >>=
        fun (next, after) => access.instructions after (next :: done) := by
  rw [instructions, if_neg (Bool.eq_false_iff.mp ahead)]
  split
  · rename_i error failed
    rw [failed]
    rfl
  · rename_i next after read
    simp only [read]
    rfl

theorem instructions_of_atEnd {place : π} (atEnd : access.atEnd place = true)
    (done : List Instruction) : access.instructions place done = .ok done.reverse := by
  rw [instructions, if_pos atEnd]

/-- Reads the texts of an image, from the title to the copyright. -/
def readTexts (slot : VersionSlot) (place : π) : Except ε (Program × π) := do
  let (title, place) ← access.sizedText place 1
  let (author, place) ← access.sizedText place 1
  let (description, place) ← access.sizedText place 2
  let (declared, place) ← access.number place 1
  let start : Preamble := { title, author, description, declared }
  let (version, place) ← access.text place (start.slotSize slot)
  let (copyright, place) ← access.sizedText place 1
  return ({ title, author, version, description, copyright }, place)

def readResources (place : π) : Except ε (List Bytes × π) := do
  let (count, place) ← access.number place 2
  access.resources count place []

def readHead (slot : VersionSlot) (place : π) : Except ε (Program × π) := do
  let (_, place) ← access.signed headerSignature place
  let (program, place) ← access.readTexts slot place
  let (_, place) ← access.signed resourceSignature place
  let (resources, place) ← access.readResources place
  let (_, place) ← access.signed codeSignature place
  return ({ program with resources }, place)

/-- Reading takes everything in front of the instructions, and then the instructions in a loop. -/
theorem read_eq (slot : VersionSlot) (place : π) :
    access.read slot place = access.readHead slot place >>= fun (program, place) =>
      (access.instructions place []).map fun instructions => { program with instructions } := by
  simp only [read, readPreamble, readBody, readHead, readTexts, readResources, signed_bind,
    bind_assoc, pure_bind]
  rfl

end Access

namespace Cursor

theorem Composed.instructionFrom {signs : Bool} (start : Nat) :
    Composed signs (access.instructionFrom start) := by
  refine (Composed.take 1).bind fun head => ?_
  dsimp only
  cases Opcode.ofCode? (head.headD 0) with
  | none => exact .fail fun _ => trivial
  | some opcode =>
    refine (Composed.number 2).bind fun found => ?_
    by_cases declared : found = opcode.operands.length
    · simp only [declared, if_true]
      refine (Composed.take opcode.width).bind fun arguments => ?_
      cases made : Instruction.ofBytes? opcode arguments with
      | some instruction =>
        simp only [made]
        exact .pure instruction
      | none =>
        simp only [made]
        exact .fail fun _ => trivial
    · simp only [declared, if_false]
      exact .fail fun _ => trivial

theorem instruction_eq (cursor : Cursor) :
    access.instruction cursor = access.instructionFrom cursor.offset cursor := rfl

/-- The start of an instruction stays where it is when the image goes on. -/
theorem steady_instruction : Steady access.instruction := by
  have fixed (start : Nat) : Steady (access.instructionFrom start) := by
    have composed : Composed false (access.instructionFrom start) := .instructionFrom start
    exact composed.steady
  refine ⟨?_, ?_, ?_, ?_⟩
  · exact fun cursor => (fixed cursor.offset).forward cursor
  · exact fun cursor => (fixed cursor.offset).reads cursor
  · exact fun image tail cursor => (fixed cursor.offset).persists image tail cursor
  · exact fun tail cursor => (fixed cursor.offset).gains tail cursor

theorem instruction_of_unknown {code : UInt8} {rest : Bytes} {offset : Nat}
    (unknown : Opcode.ofCode? code = none) :
    access.instruction ⟨code :: rest, offset⟩ = .error (.unknownCode code offset) := by
  have taken : take ⟨code :: rest, offset⟩ 1 = .ok ([code], ⟨rest, offset + 1⟩) := rfl
  simp only [Access.instruction, Access.instructionFrom, access_take, taken, bind, Except.bind,
    List.headD_cons, unknown]
  rfl

theorem instructions_of_ne_nil {cursor : Cursor} (ahead : cursor.rest ≠ [])
    (done : List Instruction) :
    access.instructions cursor done =
      access.instruction cursor >>=
        fun (next, after) => access.instructions after (next :: done) := by
  apply access.instructions_of_ahead
  exact List.isEmpty_eq_false_iff.mpr ahead

theorem instructions_of_nil {cursor : Cursor} (nothing : cursor.rest = [])
    (done : List Instruction) :
    access.instructions cursor done = .ok done.reverse := by
  apply access.instructions_of_atEnd
  exact List.isEmpty_iff.mpr nothing

theorem forward_instructions (done : List Instruction) :
    Forward fun cursor => access.instructions cursor done := by
  intro cursor needed offset failed
  dsimp only at failed
  fun_induction Access.instructions access cursor done with
  | case1 cursor done empty => cases failed
  | case2 cursor done ahead error stopped =>
    cases failed
    exact steady_instruction.forward cursor needed offset stopped
  | case3 cursor done ahead i after read _ ih =>
    exact Nat.le_trans (instruction_eq_ok_iff.mp read).offset_le (ih failed)

/-- The loop ends without an error where nothing is ahead. So whatever fails does so before the end
of the image, and goes on to fail when there is more. -/
theorem persists_instructions {image : Bytes} (tail : Bytes) (cursor : Cursor)
    (done : List Instruction) (place : cursor.rest = image.drop cursor.offset) :
    Persists image tail (access.instructions cursor done)
      (access.instructions (cursor.extend tail) done) := by
  by_cases nothing : cursor.rest = []
  · rw [instructions_of_nil nothing]
    exact .of_ok
  · have ahead : (cursor.extend tail).rest ≠ [] := by simp [nothing]
    rw [instructions_of_ne_nil nothing, instructions_of_ne_nil ahead]
    refine steady_instruction.persists_bind (fun i => forward_instructions (i :: done)) place ?_
    intro i after read behind
    exact persists_instructions tail after (i :: done) behind
termination_by cursor.rest.length
decreasing_by exact Access.left_of_instruction read

end Cursor

theorem composed_readTexts {signs : Bool} (slot : VersionSlot) :
    Cursor.Composed signs (Cursor.access.readTexts slot) :=
  (Cursor.Composed.sizedText 1).bind fun title =>
    (Cursor.Composed.sizedText 1).bind fun author =>
      (Cursor.Composed.sizedText 2).bind fun description =>
        (Cursor.Composed.number 1).bind fun declared =>
          (Cursor.Composed.text
            (Preamble.slotSize ⟨title, author, description, declared⟩ slot)).bind
            fun version => (Cursor.Composed.sizedText 1).bind fun copyright =>
              .pure ({ title, author, version, description, copyright } : Program)

theorem composed_readResources {signs : Bool} : Cursor.Composed signs Cursor.access.readResources :=
  (Cursor.Composed.number 2).bind fun count => Cursor.Composed.resources count []

theorem composed_readHead (slot : VersionSlot) :
    Cursor.Composed true (Cursor.access.readHead slot) :=
  (Cursor.Composed.signed headerSignature rfl).bind fun _ =>
    (composed_readTexts slot).bind fun program =>
      (Cursor.Composed.signed resourceSignature rfl).bind fun _ =>
        composed_readResources.bind fun resources =>
          (Cursor.Composed.signed codeSignature rfl).bind fun _ =>
            .pure ({ program with resources } : Program)

theorem persists_read (slot : VersionSlot) (image tail : Bytes) :
    Persists image tail (read slot image) (read slot (image ++ tail)) := by
  rw [read, read, Access.read_eq, Access.read_eq]
  refine (composed_readHead slot).steady.persists_bind ?_ List.drop_zero.symm ?_
  · intro program cursor needed offset failed
    exact Cursor.forward_instructions [] cursor needed offset (map_eq_error_iff.mp failed)
  · intro program cursor _ place
    exact (Cursor.persists_instructions tail cursor [] place).map _

/-- Errors under bytes that are put behind an image. An unknown code and a wrong number of operands
stay, and so does a signature that is wrong and not just cut short. An error for want of bytes wants
as many fewer; with enough of them, what is missing next is missing further on. -/
theorem read_append (slot : VersionSlot) (image tail : Bytes) :
    (∀ code offset, read slot image = .error (.unknownCode code offset) →
      read slot (image ++ tail) = .error (.unknownCode code offset))
    ∧ (∀ opcode found offset, read slot image = .error (.operandCount opcode found offset) →
      read slot (image ++ tail) = .error (.operandCount opcode found offset))
    ∧ (∀ mark offset, read slot image = .error (.badSignature mark offset) →
      ¬ image.drop offset <+: textBytes mark →
      read slot (image ++ tail) = .error (.badSignature mark offset))
    ∧ ∀ needed offset, read slot image = .error (.truncated needed offset) →
      (tail.length < needed →
        read slot (image ++ tail) = .error (.truncated (needed - tail.length) offset))
      ∧ (needed ≤ tail.length → ∀ needed' offset',
        read slot (image ++ tail) = .error (.truncated needed' offset') → offset < offset') := by
  obtain ⟨lasting, shorter, later⟩ := persists_read slot image tail
  refine ⟨?_, ?_, ?_, ?_⟩
  · intro code offset failed
    exact lasting _ failed trivial
  · intro opcode found offset failed
    exact lasting _ failed trivial
  · intro mark offset failed wrong
    exact lasting _ failed wrong
  · intro needed offset failed
    exact ⟨shorter needed offset failed, later needed offset failed⟩

/-- With nothing but its front whole, an image fails where its first instruction does. -/
theorem read_of_head {slot : VersionSlot} {front tail : Bytes} {program : Program} {offset : Nat}
    {error : ReadError}
    (head : Cursor.access.readHead slot ⟨front, 0⟩ = .ok (program, ⟨[], offset⟩))
    (ahead : tail ≠ []) (failed : Cursor.access.instruction ⟨tail, offset⟩ = .error error) :
    read slot (front ++ tail) = .error error := by
  have extended : Cursor.access.readHead slot ⟨front ++ tail, 0⟩ = .ok (program, ⟨tail, offset⟩) :=
    (composed_readHead slot).steady.extended head tail
  rw [read, Access.read_eq, extended]
  refine map_eq_error_iff.mpr ?_
  rw [Cursor.instructions_of_ne_nil ahead, failed]
  rfl

/-- The code of an instruction and half of its number of operands, and a code that there is not. -/
theorem read_append_code :
    let image : Bytes :=
      [0x48, 0x58, 0x4D, 0, 0, 0, 0, 0, 0, 0x52, 0x45, 0x53, 0, 0, 0x45, 0x58, 0x45, 0x43]
    read .plain (image ++ [2]) = .error (.truncated 2 19)
      ∧ read .plain (image ++ [2] ++ [1]) = .error (.truncated 1 19)
      ∧ read .plain (image ++ [255]) = .error (.unknownCode 255 18)
      ∧ ∀ tail, read .plain (image ++ [255] ++ tail) = .error (.unknownCode 255 18) := by
  intro image
  have head : Cursor.access.readHead .plain ⟨image, 0⟩ = .ok ({}, ⟨[], 18⟩) := by
    dsimp only [image]
    cbv
  have short : read .plain (image ++ [2]) = .error (.truncated 2 19) :=
    read_of_head head (List.cons_ne_nil _ _) (by cbv)
  have unknown : read .plain (image ++ [255]) = .error (.unknownCode 255 18) :=
    read_of_head head (List.cons_ne_nil _ _) (Cursor.instruction_of_unknown (by decide +kernel))
  refine ⟨short, ?_, unknown, fun tail => ?_⟩
  · obtain ⟨-, -, -, truncated⟩ := read_append .plain (image ++ [2]) [1]
    exact (truncated 2 19 short).1 (by decide)
  · obtain ⟨lasting, -⟩ := read_append .plain (image ++ [255]) tail
    exact lasting 255 18 unknown

end Assembler.Image
