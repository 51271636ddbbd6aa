import Assembler.BinaryByte
import Assembler.Program
import Assembler.Text.Quoted

/-! Listings: a program as source text. What the source language cannot say, such as a copyright or
a resource of odd size, is listed as a comment. -/
namespace Assembler.Listing

def line (text : Text) : Text :=
  text ++ ['\n']

/-- Whether a directive can carry a text: a directive drops leading blanks, and its line ends at a
comment or a line break. -/
def isDirectiveValue (text : Text) : Bool :=
  ! (text.head?.any Text.isBlank) && ! Text.occurs "//".toList text
    && ! text.contains '\n' && ! text.contains '\r'

def metadata (field : Field) (text : Text) : Text :=
  if text.isEmpty then []
  else if isDirectiveValue text then
    line ('#' :: Text.upper field.name ++ ": ".toList ++ text)
  else line ("// ".toList ++ field.name ++ ": ".toList ++ Text.quoted text)

def copyright (text : Text) : Text :=
  if text.isEmpty then [] else line ("// copyright: ".toList ++ text)

def isShown (b : UInt8) : Bool :=
  0x20 ≤ b && b ≤ 0x7E

/-- The entry of a resource, or a comment if no entry has these bytes. -/
def entry (blob : Bytes) : Text :=
  if blob.all isShown then "STRING:".toList ++ Bytes.toText blob
  else match blob with
    | [b] => "BYTE:".toList ++ BinaryByte.toText b
    | [_, _] => "USHORT:".toList ++ Text.decimal (Bytes.toNat blob)
    | [_, _, _, _] => "UINT:".toList ++ Text.decimal (Bytes.toNat blob)
    | [_, _, _, _, _, _, _, _] => "ULONG:".toList ++ Text.decimal (Bytes.toNat blob)
    | _ => "// raw:".toList ++ blob.flatMap fun b => ' ' :: Text.hexByte b

/-- Everything after the colon of an entry belongs to the resource, so its number stands on a line
of its own. -/
def resource (blob : Bytes) (id : Nat) : Text :=
  line ("\t// #".toList ++ Text.decimal id) ++ line ('\t' :: entry blob)

def resources (blobs : List Bytes) : Text :=
  if blobs.isEmpty then []
  else line "RESOURCES".toList ++ (blobs.zipIdx.flatMap fun (blob, id) => resource blob id)
    ++ line "END".toList

def instruction (i : Instruction) : Text :=
  let operands := i.values.map Scalar.text
  let arguments := if operands.isEmpty then [] else ' ' :: ", ".toList.intercalate operands
  line (i.opcode.mnemonic ++ arguments)

end Listing

/-- The source text of a program. -/
def Program.listing (program : Program) : Text :=
  Listing.metadata .title program.title
    ++ Listing.metadata .author program.author
    ++ Listing.metadata .version program.version
    ++ Listing.metadata .description program.description
    ++ Listing.copyright program.copyright
    ++ Listing.resources program.resources
    ++ program.instructions.flatMap Listing.instruction

end Assembler
