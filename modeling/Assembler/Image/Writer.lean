import Assembler.Image.Layout

/-! Writing pieces one after another, with or without a bound on the room for them. -/
namespace Assembler.Image

structure Written where
  bytes : Bytes
  failure : Option WriteError
  deriving DecidableEq

/-- Writes pieces behind `done`, the chunks so far with the latest first. A piece that does not fit
into the room left is written as far as it fits; an empty piece always fits. -/
def writeChunks (room : Option Nat) : List Piece → List Bytes → List Bytes × Option WriteError
  | [], done => (done, none)
  | .error error :: _, done => (done, some error)
  | .ok chunk :: rest, done =>
    match room with
    | none => writeChunks none rest (chunk :: done)
    | some left =>
      if chunk.length ≤ left then writeChunks (some (left - chunk.length)) rest (chunk :: done)
      else (chunk.take left :: done, some .full)

def write (room : Option Nat) (pieces : List Piece) : Written :=
  let (done, failure) := writeChunks room pieces []
  ⟨done.reverse.flatten, failure⟩

/-- Writes the image of a program into a buffer of `room` bytes. -/
def writeInto (slot : VersionSlot) (room : Nat) (program : Program) : Written :=
  write (some room) (layout slot program)

def build (slot : VersionSlot) (program : Program) : Except WriteError Bytes :=
  let written := write none (layout slot program)
  match written.failure with
  | none => .ok written.bytes
  | some error => .error error

/-- A complete image leaves one record. -/
def writeLog (program : Program) (failure : Option WriteError) : List Record :=
  match failure with
  | none => [.imageWritten program.resources.length program.instructions.length]
  | some _ => []

end Assembler.Image
