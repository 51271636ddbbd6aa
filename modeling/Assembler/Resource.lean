import Assembler.BinaryByte
import Assembler.Fault
import Assembler.Scalar.Literal

/-! Entries of a resource block: a kind, a colon and the value. Everything after the first colon
belongs to the value. -/
namespace Assembler

inductive ResourceKind where
  | string | int | long | short | uint | ulong | ushort | byte
  deriving DecidableEq

namespace ResourceKind

/-- The words for each kind, in upper case. -/
def words : ResourceKind → List Text
  | string => ["STRING".toList, "STR".toList]
  | int => ["INT".toList, "INTEGER".toList, "INT32".toList]
  | long => ["LONG".toList, "INT64".toList]
  | short => ["SHORT".toList, "INT16".toList]
  | uint => ["UINT".toList, "UINTEGER".toList, "UINT32".toList]
  | ulong => ["ULONG".toList, "UINT64".toList]
  | ushort => ["USHORT".toList, "UINT16".toList]
  | byte => ["BYTE".toList]

def all : List ResourceKind :=
  [string, int, long, short, uint, ulong, ushort, byte]

/-- A kind is recognised in any case and with blanks around it. -/
def ofWord? (word : Text) : Option ResourceKind :=
  let key := Text.upper (Text.trim word)
  all.find? fun kind => kind.words.contains key

/-- A string as it is: one byte for each character. -/
def encodeString (text : Text) : Except BadLiteral Bytes :=
  if text.all fun c => c.toNat < 128 then .ok (text.map fun c => UInt8.ofNat c.toNat)
  else .error ⟨text, .asciiString⟩

def encode (kind : ResourceKind) (text : Text) : Except BadLiteral Bytes :=
  match kind with
  | string => encodeString text
  | int => Scalar.encode .int32 text
  | long => Scalar.encode .int64 text
  | short => Scalar.encode .int16 text
  | uint => Scalar.encode .uint32 text
  | ulong => Scalar.encode .uint64 text
  | ushort => Scalar.encode .uint16 text
  | byte => (BinaryByte.parse text).map fun b => [b]

end ResourceKind

namespace Resource

/-- The bytes of one entry. With `joinColons` the colons inside a string are dropped. -/
def parse (joinColons : Bool) (entry : Text) : Except Fault Bytes :=
  match Text.cutAt? (· == ':') entry with
  | none => .error (.noSeparator (Text.trim entry))
  | some (word, text) =>
    match ResourceKind.ofWord? word with
    | none => .error (.unknownResourceKind (Text.trim word))
    | some kind =>
      let value := if joinColons && kind == .string then text.filter (· != ':') else text
      (kind.encode value).mapError .badLiteral

end Resource
end Assembler
