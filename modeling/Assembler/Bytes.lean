import Assembler.Text.Basic

/-! Byte strings and the little-endian numbers in them. -/
namespace Assembler

abbrev Bytes := List UInt8

namespace Bytes

/-- The `width` low bytes of a number, least significant first. -/
def littleEndian : Nat → Nat → Bytes
  | 0, _ => []
  | width + 1, n => UInt8.ofNat n :: littleEndian width (n / 256)

@[simp] theorem length_littleEndian (width n : Nat) :
    (littleEndian width n).length = width := by
  induction width generalizing n with
  | zero => rfl
  | succ width ih => simp [littleEndian, ih]

/-- The number that a byte string spells, least significant byte first. -/
def toNat (bytes : Bytes) : Nat :=
  bytes.foldr (fun b n => b.toNat + 256 * n) 0

/-- How many numbers there are of a given width in bytes. -/
def capacity : Nat → Nat
  | 0 => 1
  | width + 1 => 256 * capacity width

/-- One character for each byte, the one with that code. -/
def toText (bytes : Bytes) : Text :=
  bytes.map fun b => Char.ofNat b.toNat

end Bytes
end Assembler
