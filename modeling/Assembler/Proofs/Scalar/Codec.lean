import Assembler.Proofs.Bytes
import Assembler.Scalar.Basic

/-! Scalars and their bytes. A kind has exactly one scalar for each byte string of its width: every
pattern is read, no two scalars are written alike, and what stands behind the bytes of a scalar is
not looked at. Which byte stands where is stated by the integer that the scalar stands for, so that
the order of the bytes and the sign are part of the law. -/
namespace Assembler

namespace Bytes

theorem capacity_add (m n : Nat) : capacity (m + n) = capacity m * capacity n := by
  induction m with
  | zero => rw [Nat.zero_add, capacity, Nat.one_mul]
  | succ m ih => rw [Nat.succ_add, capacity, ih, capacity, Nat.mul_assoc]

theorem littleEndian_eq_map (width n : Nat) :
    littleEndian width n = (List.range width).map fun place => UInt8.ofNat (n >>> (8 * place)) := by
  induction width generalizing n with
  | zero => rfl
  | succ width ih =>
    have later (place : Nat) : (n / 256) >>> (8 * place) = n >>> (8 * (place + 1)) := by
      rw [Nat.mul_succ, Nat.add_comm, Nat.shiftRight_add, Nat.shiftRight_eq_div_pow n 8]
    rw [littleEndian, ih, List.range_succ_eq_map, List.map_cons, List.map_map]
    simp only [later]
    rfl

end Bytes

namespace Scalar

@[simp] theorem length_bytes (s : Scalar) : s.bytes.length = s.kind.width :=
  Bytes.length_littleEndian _ _

theorem bits_lt (s : Scalar) : s.bits.toNat < Bytes.capacity s.kind.width := by
  rw [Bytes.capacity_eq]
  exact s.bits.isLt

/-- The integer that a scalar stands for, negative ones in two's complement. A character stands for
its code, and a floating number for its pattern. -/
def integer (s : Scalar) : Int :=
  match s.kind.form with
  | .signed => s.bits.toInt
  | _ => s.bits.toNat

/-- The integer and the bits are the same up to multiples of what the kind can hold. -/
theorem integer_eq_add (s : Scalar) :
    ∃ turns : Int, s.integer = s.bits.toNat + turns * Bytes.capacity s.kind.width := by
  unfold integer
  split
  · rw [BitVec.toInt_eq_toNat_cond, Bytes.capacity_eq]
    split
    · exact ⟨0, by omega⟩
    · exact ⟨-1, by rw [Int.neg_one_mul]; rfl⟩
  · exact ⟨0, by omega⟩

theorem ofInt_natCast_add (n : Nat) (k : Int) : UInt8.ofInt (n + k * 256) = UInt8.ofNat n := by
  have low : (n + k * 256) % 2 ^ 8 = ((n % 2 ^ 8 : Nat) : Int) :=
    Int.add_mul_emod_self_right n k 256
  rw [UInt8.ofInt, low, Int.toNat_natCast, UInt8.ofNat_mod_size]

/-- A byte of a scalar is its integer shifted down by the places below: the multiples of what the
kind can hold lie above all places. -/
theorem bytes_eq_map (s : Scalar) :
    s.bytes =
      (List.range s.kind.width).map fun place : Nat => UInt8.ofInt (s.integer >>> (8 * place)) := by
  obtain ⟨turns, integer⟩ := s.integer_eq_add
  rw [bytes, Bytes.littleEndian_eq_map]
  apply List.map_congr_left
  intro place member
  obtain ⟨above, width⟩ : ∃ above, s.kind.width = place + 1 + above :=
    Nat.exists_eq_add_of_le (List.mem_range.mp member)
  have positive : (Bytes.capacity place : Int) ≠ 0 := by
    rw [Bytes.capacity_eq]
    exact Int.natCast_ne_zero.mpr (Nat.ne_of_gt (Nat.two_pow_pos _))
  -- The place is below the width, so a whole byte of the multiple is left when its places are cut off.
  have multiple : turns * (Bytes.capacity s.kind.width : Int) =
      turns * Bytes.capacity above * 256 * Bytes.capacity place := by
    rw [width, Bytes.capacity_add, Bytes.capacity, Int.natCast_mul, Int.natCast_mul]
    ac_rfl
  have shifted :
      ((s.bits.toNat >>> (8 * place) : Nat) : Int) = s.bits.toNat / Bytes.capacity place := by
    rw [Nat.shiftRight_eq_div_pow, Int.natCast_ediv, Bytes.capacity_eq]
    rfl
  have down : s.integer >>> (8 * place) = s.integer / Bytes.capacity place := by
    rw [Int.shiftRight_eq_div_pow, Bytes.capacity_eq]
    rfl
  rw [down, integer, multiple, Int.add_mul_ediv_right _ _ positive, ← shifted, ofInt_natCast_add]

theorem decode?_of_length_le {kind : ScalarKind} {stored : Bytes}
    (enough : kind.width ≤ stored.length) :
    ∃ s, decode? kind stored = some s ∧ s.kind = kind ∧ s.bytes = stored.take kind.width := by
  have size : (stored.take kind.width).length = kind.width := List.length_take_of_le enough
  have bound : Bytes.toNat (stored.take kind.width) < 2 ^ (8 * kind.width) := by
    have below := Bytes.toNat_lt (stored.take kind.width)
    rw [size, Bytes.capacity_eq] at below
    exact below
  refine ⟨⟨kind, BitVec.ofNat _ (Bytes.toNat (stored.take kind.width))⟩, ?_, rfl, ?_⟩
  · rw [decode?, if_pos size]
  · rw [bytes, BitVec.toNat_ofNat, Nat.mod_eq_of_lt bound]
    have same := Bytes.littleEndian_toNat (stored.take kind.width)
    rwa [size] at same

/-- A scalar is read back from the front of its bytes, whatever follows them. -/
theorem decode?_bytes_append (s : Scalar) (rest : Bytes) :
    decode? s.kind (s.bytes ++ rest) = some s := by
  have front : (s.bytes ++ rest).take s.kind.width = s.bytes := by
    rw [← s.length_bytes, List.take_left]
  have number : Bytes.toNat s.bytes = s.bits.toNat := Bytes.toNat_littleEndian s.bits_lt
  rw [decode?, front, if_pos s.length_bytes, number, BitVec.ofNat_toNat, BitVec.setWidth_eq]

theorem decode?_eq_none_iff {kind : ScalarKind} {stored : Bytes} :
    decode? kind stored = none ↔ stored.length < kind.width := by
  constructor
  · intro nothing
    apply Nat.lt_of_not_le
    intro enough
    obtain ⟨s, found, -⟩ := decode?_of_length_le enough
    rw [nothing] at found
    cases found
  · intro short
    have size : (stored.take kind.width).length ≠ kind.width := by
      rw [List.length_take]
      omega
    rw [decode?, if_neg size]

/-- What is read off the front of a byte string is the scalar of the kind that has those bytes. -/
theorem decode?_eq_some_iff {kind : ScalarKind} {stored : Bytes} {s : Scalar} :
    decode? kind stored = some s ↔ s.kind = kind ∧ s.bytes = stored.take kind.width := by
  constructor
  · intro found
    have enough : kind.width ≤ stored.length := by
      apply Nat.le_of_not_lt
      intro short
      rw [decode?_eq_none_iff.mpr short] at found
      cases found
    obtain ⟨t, read, same, front⟩ := decode?_of_length_le enough
    rw [found] at read
    cases read
    exact ⟨same, front⟩
  · rintro ⟨rfl, front⟩
    rw [← List.take_append_drop s.kind.width stored, ← front]
    exact s.decode?_bytes_append _

/-- Every scalar is written with as many bytes as its kind has and is read back from them, whatever
follows; the bytes are those of its integer, least significant first. A byte string that is too
short for a kind holds no scalar of it, and any other holds exactly the one that is written with its
first bytes. -/
theorem codec_bijective :
    (∀ (s : Scalar) (rest : Bytes), s.bytes.length = s.kind.width
      ∧ decode? s.kind (s.bytes ++ rest) = some s
      ∧ s.bytes =
        (List.range s.kind.width).map fun place : Nat => UInt8.ofInt (s.integer >>> (8 * place)))
    ∧ ∀ (kind : ScalarKind) (stored : Bytes),
      (decode? kind stored = none ↔ stored.length < kind.width)
      ∧ (kind.width ≤ stored.length ↔ ∃ s, decode? kind stored = some s)
      ∧ ∀ s, decode? kind stored = some s ↔ s.kind = kind ∧ s.bytes = stored.take kind.width := by
  refine ⟨fun s rest => ⟨s.length_bytes, s.decode?_bytes_append rest, s.bytes_eq_map⟩, ?_⟩
  intro kind stored
  refine ⟨decode?_eq_none_iff, ?_, fun s => decode?_eq_some_iff⟩
  rw [← Option.isSome_iff_exists, Option.isSome_iff_ne_none, Ne, decode?_eq_none_iff, Nat.not_lt]

example : Scalar.bytes ⟨.int16, -2⟩ = [0xFE, 0xFF] := by decide

end Scalar
end Assembler
