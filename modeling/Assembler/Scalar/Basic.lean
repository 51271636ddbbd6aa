import Assembler.Bytes
import Assembler.Floating.Shortest
import Assembler.Scalar.Kind

/-! Scalars as bit patterns of the width that their kind has, so that every pattern is a value and a
NaN keeps its payload. They are stored least significant byte first. -/
namespace Assembler

structure Scalar where
  kind : ScalarKind
  bits : BitVec (8 * kind.width)
  deriving DecidableEq

namespace Scalar

def bytes (s : Scalar) : Bytes :=
  Bytes.littleEndian s.kind.width s.bits.toNat

/-- Reads a scalar off the front of a byte string that holds enough of them. -/
def decode? (kind : ScalarKind) (bytes : Bytes) : Option Scalar :=
  let front := bytes.take kind.width
  if front.length = kind.width then some ⟨kind, BitVec.ofNat _ (Bytes.toNat front)⟩ else none

/-- The character with a given code, U+FFFD for a surrogate. -/
def character (code : Nat) : Char :=
  if 0xD800 ≤ code ∧ code ≤ 0xDFFF then Char.ofNat 0xFFFD else Char.ofNat code

def signedDecimal : Int → Text
  | .ofNat n => Text.decimal n
  | .negSucc n => '-' :: Text.decimal (n + 1)

/-- The text of a scalar, in the notation that literals of its kind have. -/
def text (s : Scalar) : Text :=
  match s.kind.form with
  | .unsigned => Text.decimal s.bits.toNat
  | .signed => signedDecimal s.bits.toInt
  | .character => [character s.bits.toNat]
  | .floating format => format.text s.bits.toNat

end Scalar
end Assembler
