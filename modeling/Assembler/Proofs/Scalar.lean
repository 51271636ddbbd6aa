import Assembler.Proofs.Scalar.Codec
import Assembler.Proofs.Text.Words
import Assembler.Scalar.Literal

/-! The outcomes of reading a literal: a scalar of the kind asked for, or a refusal that names the
literal and the kind. -/
namespace Assembler.Scalar

theorem trim_decimal (n : Nat) : Text.trim (Text.decimal n) = Text.decimal n :=
  Text.trim_of_forall fun _ member => Text.not_blank_of_digit (Text.isDigit_of_mem_decimal member)

theorem text_of_unsigned {s : Scalar} (unsigned : s.kind.form = .unsigned) :
    s.text = Text.decimal s.bits.toNat := by
  rw [text, unsigned]

theorem parse_eq_error {kind : ScalarKind} {literal : Text} {bad : BadLiteral}
    (refused : parse kind literal = .error bad) : bad = ⟨literal, .scalar kind⟩ := by
  unfold parse at refused
  split at refused <;> cases refused
  rfl

theorem encode_eq_error {kind : ScalarKind} {literal : Text} {bad : BadLiteral}
    (refused : encode kind literal = .error bad) : bad = ⟨literal, .scalar kind⟩ := by
  unfold encode parse at refused
  split at refused <;> cases refused
  rfl

theorem parse_eq_ok_iff_ofLiteral? {kind : ScalarKind} {literal : Text} {s : Scalar} :
    parse kind literal = .ok s ↔ ofLiteral? kind literal = some s := by
  unfold parse
  split <;> simp_all

theorem kind_of_parse {kind : ScalarKind} {literal : Text} {s : Scalar}
    (read : parse kind literal = .ok s) : s.kind = kind :=
  kind_of_ofLiteral? (parse_eq_ok_iff_ofLiteral?.mp read)

end Assembler.Scalar
