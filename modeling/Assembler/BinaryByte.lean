import Assembler.Bytes
import Assembler.Literal

/-! Bytes written in base two, most significant digit first. Blanks may stand anywhere. -/
namespace Assembler.BinaryByte

def isBit (c : Char) : Bool :=
  c == '0' || c == '1'

/-- A byte is written with exactly eight binary digits. -/
def ofText? (text : Text) : Option UInt8 :=
  let digits := text.filter (! Text.isBlank ·)
  if digits.length = 8 && digits.all isBit then some (UInt8.ofNat (Nat.ofDigitChars 2 digits 0))
  else none

def parse (text : Text) : Except BadLiteral UInt8 :=
  match ofText? text with
  | some b => .ok b
  | none => .error ⟨text, .binaryByte⟩

/-- Two groups of four digits. -/
def toText (b : UInt8) : Text :=
  let bit (place : Nat) : Char := if b.toNat.testBit place then '1' else '0'
  [7, 6, 5, 4].map bit ++ ' ' :: [3, 2, 1, 0].map bit

end Assembler.BinaryByte
