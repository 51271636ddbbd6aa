import Assembler.Proofs.BinaryByte
import Assembler.Proofs.Scalar
import Assembler.Resource

/-! Entries with and without the colons of their strings. A colon is an ASCII character of its own
byte, so dropping it before a string is checked and encoded comes to the same as dropping it
afterwards, from the bytes or from the literal that was refused. -/
namespace Assembler

theorem ResourceKind.encodeString_eq_error {text : Text} {bad : BadLiteral}
    (refused : ResourceKind.encodeString text = .error bad) : bad = ⟨text, .asciiString⟩ := by
  unfold ResourceKind.encodeString at refused
  split at refused <;> cases refused
  rfl

/-- A fault in a source whose strings lose their colons. Only the literal of a refused string
differs. -/
def Fault.joined : Fault → Fault
  | .badLiteral ⟨literal, .asciiString⟩ => .badLiteral ⟨literal.filter (· != ':'), .asciiString⟩
  | fault => fault

theorem Fault.joined_badLiteral {bad : BadLiteral} (other : bad.expected ≠ .asciiString) :
    (Fault.badLiteral bad).joined = .badLiteral bad := by
  obtain ⟨literal, expected⟩ := bad
  cases expected with
  | asciiString => exact absurd rfl other
  | _ => rfl

namespace Resource

def kind? (entry : Text) : Option ResourceKind :=
  (Text.cutAt? (· == ':') entry).bind fun (word, _) => ResourceKind.ofWord? word

/-- The blob of an entry, without the bytes of colons if it is a string. -/
def joined (entry : Text) (blob : Bytes) : Bytes :=
  if kind? entry = some .string then blob.filter (· != 0x3A) else blob

theorem colon_byte {c : Char} (ascii : c.toNat < 128) :
    (UInt8.ofNat c.toNat != 0x3A) = (c != ':') := by
  by_cases colon : c = ':'
  · subst colon
    rfl
  · have number : c.toNat ≠ 0x3A := fun same => colon (Char.toNat_inj.mp same)
    have byte : UInt8.ofNat c.toNat ≠ 0x3A := by
      intro same
      apply number
      have value := congrArg UInt8.toNat same
      rwa [UInt8.toNat_ofNat_of_lt' (Nat.lt_trans ascii (by decide))] at value
    rw [bne_iff_ne.mpr colon, bne_iff_ne.mpr byte]

theorem encodeString_joined (text : Text) :
    ResourceKind.encodeString (text.filter (· != ':')) =
      match ResourceKind.encodeString text with
      | .ok blob => .ok (blob.filter (· != 0x3A))
      | .error _ => .error ⟨text.filter (· != ':'), .asciiString⟩ := by
  have same : (text.filter (· != ':')).all (fun c => decide (c.toNat < 128)) =
      text.all fun c => decide (c.toNat < 128) := by
    rw [List.all_filter]
    congr
    funext c
    by_cases colon : c = ':'
    · subst colon
      rfl
    · simp [colon]
  unfold ResourceKind.encodeString
  rw [same]
  split
  · rename_i ascii
    have bytes : (text.filter (· != ':')).map (fun c => UInt8.ofNat c.toNat) =
        (text.map fun c => UInt8.ofNat c.toNat).filter (· != 0x3A) := by
      rw [List.filter_map]
      congr 1
      apply List.filter_congr
      intro c member
      have small := List.all_eq_true.mp ascii c member
      exact (colon_byte (of_decide_eq_true small)).symm
    rw [bytes]
  · rfl

theorem encode_ne_asciiString {kind : ResourceKind} {text : Text} {bad : BadLiteral}
    (other : kind ≠ .string) (refused : kind.encode text = .error bad) :
    bad.expected ≠ .asciiString := by
  cases kind with
  | string => exact absurd rfl other
  | byte =>
    unfold ResourceKind.encode at refused
    cases read : BinaryByte.parse text with
    | ok b => rw [read] at refused; cases refused
    | error cause =>
      rw [read] at refused
      cases refused
      rw [BinaryByte.parse_eq_error read]
      simp
  | _ =>
    rw [Scalar.encode_eq_error refused]
    simp

/-- Dropping the colons of strings does not change which entries are accepted. -/
theorem parse_joined (entry : Text) :
    parse true entry =
      match parse false entry with
      | .ok blob => .ok (joined entry blob)
      | .error fault => .error fault.joined := by
  cases cut : Text.cutAt? (· == ':') entry with
  | none => simp only [parse, cut]; rfl
  | some parts =>
    obtain ⟨word, text⟩ := parts
    cases known : ResourceKind.ofWord? word with
    | none => simp only [parse, cut, known]; rfl
    | some kind =>
      have named : kind? entry = some kind := by simp [kind?, cut, known]
      by_cases string : kind = .string
      · subst string
        have joins : joined entry = List.filter (· != 0x3A) := by
          funext blob
          rw [joined, named, if_pos rfl]
        simp only [parse, cut, known, ResourceKind.encode, joins, Bool.true_and, Bool.false_and,
          BEq.rfl, if_true, Bool.false_eq_true, if_false, encodeString_joined]
        cases read : ResourceKind.encodeString text with
        | ok blob => rfl
        | error bad =>
          rw [ResourceKind.encodeString_eq_error read]
          rfl
      · have keeps : ∀ blob, joined entry blob = blob := by
          intro blob
          rw [joined, named, if_neg (by simpa using string)]
        simp only [parse, cut, known, Bool.true_and, Bool.false_and, beq_false_of_ne string,
          Bool.false_eq_true, if_false]
        cases read : kind.encode text with
        | ok blob => exact congrArg Except.ok (keeps blob).symm
        | error bad =>
          have other := encode_ne_asciiString string read
          exact congrArg Except.error (Fault.joined_badLiteral other).symm

end Resource
end Assembler
