import Assembler.Image.Layout

/-! Reading an image back into a program, with the offset of whatever is wrong with it. The reader
is put together from two reads, of bytes and of a signature, and does not depend on how these find
their place. -/
namespace Assembler.Image

inductive ReadError where
  /-- A signature does not stand where it has to, be it for want of bytes. -/
  | badSignature (signature : Text) (offset : Nat)
  | unknownCode (code : UInt8) (offset : Nat)
  | operandCount (opcode : Opcode) (found offset : Nat)
  /-- The image ends `needed` bytes before the end of what starts at `offset`. -/
  | truncated (needed offset : Nat)
  deriving DecidableEq

def ReadError.message : ReadError → Text
  | badSignature signature offset =>
    "expected the \"".toList ++ signature ++ "\" signature at offset ".toList
      ++ Text.decimal offset
  | unknownCode code offset =>
    "unknown opcode 0x".toList ++ Text.hexByte code ++ " at offset ".toList ++ Text.decimal offset
  | operandCount opcode found offset =>
    opcode.mnemonic ++ " declares ".toList ++ Text.decimal found
      ++ " arguments but its schema has ".toList ++ Text.decimal opcode.operands.length
      ++ " (offset ".toList ++ Text.decimal offset ++ ")".toList
  | truncated needed offset =>
    "image ends early, needed ".toList ++ Text.decimal needed ++ " more bytes at offset ".toList
      ++ Text.decimal offset

theorem bind_eq_ok_iff {ε α β : Type} {first : Except ε α} {next : α → Except ε β} {value : β} :
    (first >>= next) = .ok value ↔ ∃ x, first = .ok x ∧ next x = .ok value := by
  cases first <;> simp [bind, Except.bind]

/-- A way to read an image, from places of the type `π` and with failures of the type `ε`. -/
structure Access (ε π : Type) where
  take : π → Nat → Except ε (Bytes × π)
  signature : π → Text → Except ε π
  atEnd : π → Bool
  offset : π → Nat
  report : ReadError → ε
  /-- How many bytes lie ahead. -/
  left : π → Nat
  left_of_take : ∀ {place next : π} {n : Nat} {bytes : Bytes},
    take place n = .ok (bytes, next) → left next + n = left place

/-- The start of an image, up to the length that it declares for the version. -/
structure Preamble where
  title : Text
  author : Text
  description : Text
  declared : Nat
  deriving DecidableEq

/-- The size of the version slot. In the legacy format the slot holds the author, whatever length is
declared for the version. -/
def Preamble.slotSize (preamble : Preamble) : VersionSlot → Nat
  | .legacy => preamble.author.length
  | .plain => preamble.declared

namespace Access

variable {ε π : Type} (access : Access ε π)

def number (place : π) (width : Nat) : Except ε (Nat × π) := do
  let (bytes, place) ← access.take place width
  return (Bytes.toNat bytes, place)

def text (place : π) (size : Nat) : Except ε (Text × π) := do
  let (bytes, place) ← access.take place size
  return (Bytes.toText bytes, place)

def sizedText (place : π) (width : Nat) : Except ε (Text × π) := do
  let (size, place) ← access.number place width
  access.text place size

/-- Reads `count` resources behind `done`, those so far with the latest first. -/
def resources : Nat → π → List Bytes → Except ε (List Bytes × π)
  | 0, place, done => .ok (done.reverse, place)
  | count + 1, place, done => do
    let (size, place) ← access.number place 2
    let (blob, place) ← access.take place size
    resources count place (blob :: done)

/-- Reads one instruction. Errors in its head are reported at `start`. -/
def instructionFrom (start : Nat) (place : π) : Except ε (Instruction × π) := do
  let (head, place) ← access.take place 1
  let code := head.headD 0
  match Opcode.ofCode? code with
  | none => .error (access.report (.unknownCode code start))
  | some opcode =>
    let (found, place) ← access.number place 2
    if found = opcode.operands.length then
      let (arguments, place) ← access.take place opcode.width
      match Instruction.ofBytes? opcode arguments with
      | some instruction => .ok (instruction, place)
      | none => .error (access.report (.operandCount opcode found start))
    else .error (access.report (.operandCount opcode found start))

def instruction (place : π) : Except ε (Instruction × π) :=
  access.instructionFrom (access.offset place) place

variable {access}

theorem left_of_number {place next : π} {width n : Nat}
    (read : access.number place width = .ok (n, next)) :
    access.left next + width = access.left place := by
  obtain ⟨⟨bytes, after⟩, taken, same⟩ := bind_eq_ok_iff.mp read
  cases same
  exact access.left_of_take taken

/-- An instruction takes at least its code, so reading instructions comes to an end. -/
theorem left_of_instruction {place next : π} {i : Instruction}
    (read : access.instruction place = .ok (i, next)) : access.left next < access.left place := by
  obtain ⟨⟨head, afterCode⟩, code, read⟩ := bind_eq_ok_iff.mp read
  have codeLength := access.left_of_take code
  dsimp only at read
  split at read
  · cases read
  · obtain ⟨⟨found, afterCount⟩, count, read⟩ := bind_eq_ok_iff.mp read
    have countLength := left_of_number count
    dsimp only at read
    split at read
    · obtain ⟨⟨arguments, last⟩, body, read⟩ := bind_eq_ok_iff.mp read
      have bodyLength := access.left_of_take body
      dsimp only at read
      split at read <;> cases read
      omega
    · cases read

variable (access)

/-- Reads instructions up to the end of the image, behind `done`. -/
def instructions (place : π) (done : List Instruction) : Except ε (List Instruction) :=
  if access.atEnd place then .ok done.reverse
  else
    match h : access.instruction place with
    | .error error => .error error
    | .ok (next, after) =>
      have := left_of_instruction h
      instructions after (next :: done)
termination_by access.left place

def readPreamble (place : π) : Except ε (Preamble × π) := do
  let place ← access.signature place headerSignature
  let (title, place) ← access.sizedText place 1
  let (author, place) ← access.sizedText place 1
  let (description, place) ← access.sizedText place 2
  let (declared, place) ← access.number place 1
  return ({ title, author, description, declared }, place)

def readBody (slot : VersionSlot) (preamble : Preamble) (place : π) : Except ε Program := do
  let (version, place) ← access.text place (preamble.slotSize slot)
  let (copyright, place) ← access.sizedText place 1
  let place ← access.signature place resourceSignature
  let (count, place) ← access.number place 2
  let (resources, place) ← access.resources count place []
  let place ← access.signature place codeSignature
  let instructions ← access.instructions place []
  return { title := preamble.title
           author := preamble.author
           version
           description := preamble.description
           copyright
           resources
           instructions }

def read (slot : VersionSlot) (place : π) : Except ε Program := do
  let (preamble, place) ← access.readPreamble place
  access.readBody slot preamble place

end Access

/-- A place in an image: what lies ahead, and how much lies behind. -/
structure Cursor where
  rest : Bytes
  offset : Nat

namespace Cursor

def skip (cursor : Cursor) (n : Nat) : Cursor :=
  ⟨cursor.rest.drop n, cursor.offset + n⟩

/-- The next `n` bytes. Only these are counted, so a read costs no more than what it takes. -/
def take (cursor : Cursor) (n : Nat) : Except ReadError (Bytes × Cursor) :=
  let front := cursor.rest.take n
  if front.length = n then .ok (front, cursor.skip n)
  else .error (.truncated (n - front.length) cursor.offset)

def signature (cursor : Cursor) (signature : Text) : Except ReadError Cursor :=
  if cursor.rest.take signature.length = textBytes signature then .ok (cursor.skip signature.length)
  else .error (.badSignature signature cursor.offset)

theorem length_rest_of_take {cursor next : Cursor} {n : Nat} {bytes : Bytes}
    (taken : cursor.take n = .ok (bytes, next)) :
    next.rest.length + n = cursor.rest.length := by
  unfold take at taken
  dsimp only at taken
  split at taken
  · rename_i length
    cases taken
    simp only [skip, List.length_drop, List.length_take] at length ⊢
    omega
  · cases taken

def access : Access ReadError Cursor where
  take := take
  signature := signature
  atEnd cursor := cursor.rest.isEmpty
  offset := offset
  report error := error
  left cursor := cursor.rest.length
  left_of_take := length_rest_of_take

end Cursor

def read (slot : VersionSlot) (image : Bytes) : Except ReadError Program :=
  Cursor.access.read slot ⟨image, 0⟩

/-- Once the declared length of the version is read, the legacy format leaves a record, also when
the rest turns out wrong. -/
def readLog (slot : VersionSlot) (image : Bytes) : List Record :=
  match slot, Cursor.access.readPreamble ⟨image, 0⟩ with
  | .legacy, .ok (preamble, _) => [.legacyVersion preamble.declared]
  | _, _ => []

end Assembler.Image
