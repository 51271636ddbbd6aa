import Assembler.Log
import Assembler.Program

/-! The layout of an image as a sequence of pieces. All numbers are little-endian, and a text takes
one byte for each character.

* the signature `HXM`
* title and author, each after one byte for its length
* the description after two bytes for its length
* one byte for the length of the version, then the version slot
* the copyright after one byte for its length
* the signature `RES`, two bytes for the number of resources, and each resource after two bytes for
  its length
* the signature `EXEC`, and for each instruction its code, two bytes for the number of its operands,
  and the operands

A length that its bytes cannot hold is an error, never cut short. -/
namespace Assembler

/-- What follows the length of the version: the version itself, or as the legacy format has it the
author. -/
inductive VersionSlot where
  | legacy | plain
  deriving DecidableEq

namespace Image

def headerSignature : Text := "HXM".toList
def resourceSignature : Text := "RES".toList
def codeSignature : Text := "EXEC".toList

/-- Something whose size is stored in an image. -/
inductive Item where
  | field (field : Field)
  | resourceCount
  | resource (id : Nat)
  deriving DecidableEq

def Item.name : Item → Text
  | field f => f.name
  | resourceCount => "resource count".toList
  | resource id => "resource #".toList ++ Text.decimal id

inductive WriteError where
  /-- A field holds a character with a code above 255. -/
  | wideCharacter (field : Field) (c : Char)
  /-- A size does not fit into the bytes for it, which hold at most `limit`. -/
  | oversized (item : Item) (size limit : Nat)
  /-- There is no room left to write to. -/
  | full
  deriving DecidableEq

def WriteError.message : WriteError → Text
  | wideCharacter field c =>
    field.name ++ " contains '".toList ++ c :: "', which does not fit in a single byte".toList
  | oversized item size limit =>
    item.name ++ " is ".toList ++ Text.decimal size
      ++ " bytes long, its length field holds at most ".toList ++ Text.decimal limit
  | full => "failed to write whole buffer".toList

/-- What comes next in an image, or why the image cannot go on. -/
abbrev Piece := Except WriteError Bytes

/-- The bytes of a text whose characters have codes up to 255. -/
def textBytes (text : Text) : Bytes :=
  text.map fun c => UInt8.ofNat c.toNat

def sizePiece (item : Item) (width size : Nat) : Piece :=
  if size < Bytes.capacity width then .ok (Bytes.littleEndian width size)
  else .error (.oversized item size (Bytes.capacity width - 1))

/-- Data after its size. -/
def sized (item : Item) (width : Nat) (data : Bytes) : List Piece :=
  [sizePiece item width data.length, .ok data]

def versionPieces (slot : VersionSlot) (program : Program) : List Piece :=
  let version := textBytes program.version
  let contents := match slot with
    | .legacy => textBytes program.author
    | .plain => version
  [sizePiece (.field .version) 1 version.length, .ok contents]

def metadataPieces (slot : VersionSlot) (program : Program) : List Piece :=
  sized (.field .title) 1 (textBytes program.title)
    ++ sized (.field .author) 1 (textBytes program.author)
    ++ sized (.field .description) 2 (textBytes program.description)
    ++ versionPieces slot program
    ++ sized (.field .copyright) 1 (textBytes program.copyright)

def resourcePieces (resources : List Bytes) : List Piece :=
  sizePiece .resourceCount 2 resources.length
    :: resources.zipIdx.flatMap fun (blob, id) => sized (.resource id) 2 blob

def instructionPieces (instruction : Instruction) : List Piece :=
  [.ok [instruction.opcode.code],
    .ok (Bytes.littleEndian 2 instruction.opcode.operands.length),
    .ok instruction.arguments]

/-- The order in which the characters of fields are looked at. -/
def fieldOrder : List Field :=
  [.title, .author, .description, .version, .copyright]

/-- The first character that does not fit into a byte. -/
def wideCharacter? (program : Program) : Option WriteError :=
  fieldOrder.findSome? fun field =>
    ((program.get field).find? fun c => 256 ≤ c.toNat).map (.wideCharacter field)

/-- The pieces of an image. Every character is checked before the first piece, so a wide one leaves
nothing written. -/
def layout (slot : VersionSlot) (program : Program) : List Piece :=
  match wideCharacter? program with
  | some error => [.error error]
  | none =>
    .ok (textBytes headerSignature) :: metadataPieces slot program
      ++ .ok (textBytes resourceSignature) :: resourcePieces program.resources
      ++ .ok (textBytes codeSignature) :: program.instructions.flatMap instructionPieces

end Image
end Assembler
