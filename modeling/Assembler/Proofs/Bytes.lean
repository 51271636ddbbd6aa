import Assembler.Image.Layout

/-! Little-endian numbers and one-byte characters lose nothing: what is written reads back, and
every byte string is the writing of what is read from it. -/
namespace Assembler

/-- A text whose characters take one byte each. -/
def Narrow (text : Text) : Prop :=
  ∀ c ∈ text, c.toNat < 256

namespace Bytes

theorem toNat_cons (b : UInt8) (bytes : Bytes) :
    toNat (b :: bytes) = b.toNat + 256 * toNat bytes := rfl

theorem capacity_eq (width : Nat) : capacity width = Nat.pow 2 (8 * width) := by
  induction width with
  | zero => rfl
  | succ width ih =>
    rw [capacity, ih, Nat.mul_succ, Nat.mul_comm]
    exact (Nat.pow_add 2 (8 * width) 8).symm

theorem toNat_lt (bytes : Bytes) : toNat bytes < capacity bytes.length := by
  induction bytes with
  | nil => decide
  | cons b rest ih =>
    have digit := b.toNat_lt
    rw [toNat_cons, List.length_cons, capacity]
    omega

theorem toNat_littleEndian {width n : Nat} (fits : n < capacity width) :
    toNat (littleEndian width n) = n := by
  induction width generalizing n with
  | zero => exact (Nat.lt_one_iff.mp fits).symm
  | succ width ih =>
    have high : n / 256 < capacity width := by
      rw [capacity] at fits
      omega
    rw [littleEndian, toNat_cons, ih high, UInt8.toNat_ofNat']
    exact Nat.mod_add_div n 256

theorem littleEndian_toNat (bytes : Bytes) :
    littleEndian bytes.length (toNat bytes) = bytes := by
  induction bytes with
  | nil => rfl
  | cons b rest ih =>
    have digit := b.toNat_lt
    have low : UInt8.ofNat (b.toNat + 256 * toNat rest) = b := by
      apply UInt8.toNat_inj.mp
      rw [UInt8.toNat_ofNat']
      omega
    have high : (b.toNat + 256 * toNat rest) / 256 = toNat rest := by omega
    rw [toNat_cons, List.length_cons, littleEndian, low, high, ih]

@[simp] theorem length_toText (bytes : Bytes) : (toText bytes).length = bytes.length := by
  simp [toText]

/-- A byte is the code of the character that it stands for: no code up to 255 is a surrogate. -/
theorem toNat_ofNat_byte (b : UInt8) : (Char.ofNat b.toNat).toNat = b.toNat := by
  have digit := b.toNat_lt
  have valid : b.toNat.isValidChar := Or.inl (by omega)
  rw [Char.ofNat, dif_pos valid]
  rfl

theorem narrow_toText (bytes : Bytes) : Narrow (toText bytes) := by
  intro c member
  obtain ⟨b, _, rfl⟩ := List.mem_map.mp member
  rw [toNat_ofNat_byte]
  exact b.toNat_lt

end Bytes

namespace Image

@[simp] theorem length_textBytes (text : Text) : (textBytes text).length = text.length := by
  simp [textBytes]

theorem textBytes_toText (bytes : Bytes) : textBytes (Bytes.toText bytes) = bytes := by
  induction bytes with
  | nil => rfl
  | cons b rest ih =>
    have head : UInt8.ofNat (Char.ofNat b.toNat).toNat = b := by
      rw [Bytes.toNat_ofNat_byte, UInt8.ofNat_toNat]
    simp only [textBytes, Bytes.toText, List.map_cons, head] at ih ⊢
    rw [ih]

theorem toText_textBytes {text : Text} (narrow : Narrow text) :
    Bytes.toText (textBytes text) = text := by
  induction text with
  | nil => rfl
  | cons c rest ih =>
    have code := narrow c (by simp)
    have head : Char.ofNat (UInt8.ofNat c.toNat).toNat = c := by
      rw [UInt8.toNat_ofNat_of_lt' code, Char.ofNat_toNat]
    have tail := ih fun d member => narrow d (by simp [member])
    simp only [textBytes, Bytes.toText, List.map_cons, head] at tail ⊢
    rw [tail]

end Image
end Assembler
