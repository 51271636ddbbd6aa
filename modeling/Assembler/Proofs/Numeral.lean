import Assembler.Proofs.Scalar

/-! Numbers in source text. A numeral is a row of decimal digits, and the value of one is stated
here by its digits alone; a sign may stand in front of it. An unsigned literal is a numeral, be it
behind a plus sign and with blanks around it, whose value its kind can hold. -/
namespace Assembler

/-- One or more decimal digits and the number that they spell. Zeros in front count for nothing. -/
structure Text.Numeral (text : Text) (n : Nat) : Prop where
  nonempty : text ≠ []
  digits : ∀ c ∈ text, c.isDigit = true
  value : text.foldl (fun m c => 10 * m + (c.toNat - '0'.toNat)) 0 = n

theorem Text.number?_eq_some_iff {text : Text} {n : Nat} :
    number? text = some n ↔ Numeral text n := by
  unfold number?
  rw [Option.ite_none_left_eq_some, Option.some.injEq]
  simp only [Bool.or_eq_true, List.isEmpty_iff, Bool.not_eq_true', not_or, Bool.not_eq_false,
    List.all_eq_true]
  constructor
  · rintro ⟨⟨nonempty, digits⟩, value⟩
    exact ⟨nonempty, digits, value⟩
  · rintro ⟨nonempty, digits, value⟩
    exact ⟨⟨nonempty, digits⟩, value⟩

/-- No sign is a digit, so a numeral starts with none. -/
theorem Text.Numeral.head_isDigit {c : Char} {text : Text} {n : Nat}
    (numeral : Numeral (c :: text) n) :
    c.isDigit = true :=
  numeral.digits c List.mem_cons_self

/-- A numeral behind an optional sign and the integer that it spells. Where there are no negative
numbers a minus sign is none, not even before a zero. -/
inductive Text.IntegerNumeral (signed : Bool) : Text → Int → Prop where
  | bare {digits : Text} {n : Nat} (numeral : Numeral digits n) : IntegerNumeral signed digits n
  | plus {digits : Text} {n : Nat} (numeral : Numeral digits n) :
      IntegerNumeral signed ('+' :: digits) n
  | minus {digits : Text} {n : Nat} (negatives : signed = true) (numeral : Numeral digits n) :
    IntegerNumeral signed ('-' :: digits) (-n)

namespace Scalar

theorem integer?_eq_some_iff {signed : Bool} {text : Text} {z : Int} :
    integer? signed text = some z ↔ Text.IntegerNumeral signed text z := by
  have sign {c : Char} {digits : Text} {n : Nat} (other : c.isDigit = false) :
      ¬ Text.Numeral (c :: digits) n := by
    intro numeral
    rw [numeral.head_isDigit] at other
    cases other
  unfold integer?
  split
  · simp only [Option.map_eq_some_iff, Text.number?_eq_some_iff]
    constructor
    · rintro ⟨n, numeral, rfl⟩
      exact .plus numeral
    · intro spelled
      cases spelled with
      | bare whole => exact absurd whole (sign (by decide))
      | plus numeral => exact ⟨_, numeral, rfl⟩
  · simp only [Option.ite_none_right_eq_some, Option.map_eq_some_iff, Option.bind_eq_bind,
      Option.pure_def, Option.bind_eq_some_iff, Option.some.injEq, Text.number?_eq_some_iff]
    constructor
    · rintro ⟨negatives, _, ⟨n, numeral, rfl⟩, rfl⟩
      exact .minus negatives numeral
    · intro spelled
      cases spelled with
      | bare whole => exact absurd whole (sign (by decide))
      | minus negatives numeral => exact ⟨negatives, _, ⟨_, numeral, rfl⟩, rfl⟩
  · rename_i unsigned positive
    simp only [Option.map_eq_some_iff, Text.number?_eq_some_iff]
    constructor
    · rintro ⟨n, numeral, rfl⟩
      exact .bare numeral
    · intro spelled
      cases spelled with
      | bare numeral => exact ⟨_, numeral, rfl⟩
      | plus numeral => exact absurd rfl (unsigned _)
      | minus negatives numeral => exact absurd rfl (positive _)

/-- A numeral with or without a plus sign in front of it. -/
def Spells (text : Text) (n : Nat) : Prop :=
  Text.Numeral text n ∨ ∃ digits, text = '+' :: digits ∧ Text.Numeral digits n

/-- A literal of an unsigned number that a kind can hold. -/
def Reads (kind : ScalarKind) (literal : Text) (n : Nat) : Prop :=
  Spells (Text.trim literal) n ∧ n < Nat.pow 2 (8 * kind.width)

theorem integer?_false_eq_some_iff {text : Text} {z : Int} :
    integer? false text = some z ↔ ∃ n, Spells text n ∧ z = n := by
  rw [integer?_eq_some_iff]
  constructor
  · intro spelled
    cases spelled with
    | bare numeral => exact ⟨_, Or.inl numeral, rfl⟩
    | plus numeral => exact ⟨_, Or.inr ⟨_, rfl, numeral⟩, rfl⟩
    | minus negatives => cases negatives
  · rintro ⟨n, numeral | ⟨digits, rfl, numeral⟩, rfl⟩
    · exact .bare numeral
    · exact .plus numeral

theorem ofInt?_of_fits {kind : ScalarKind} (unsigned : kind.form = .unsigned) {n : Nat}
    (fits : n < Bytes.capacity kind.width) : ofInt? kind n = some ⟨kind, BitVec.ofNat _ n⟩ := by
  have range : integerRange kind = (0, (Bytes.capacity kind.width : Int)) := by
    rw [integerRange, unsigned]
  simp only [ofInt?, range]
  rw [if_pos ⟨Int.natCast_nonneg n, Int.ofNat_lt.mpr fits⟩, BitVec.ofInt_natCast]

theorem ofInt?_eq_some_iff_of_unsigned {kind : ScalarKind} (unsigned : kind.form = .unsigned)
    {n : Nat} {s : Scalar} :
    ofInt? kind n = some s ↔ n < Nat.pow 2 (8 * kind.width) ∧ s = ⟨kind, BitVec.ofNat _ n⟩ := by
  have capacity := Bytes.capacity_eq kind.width
  constructor
  · intro held
    have fits : n < Bytes.capacity kind.width := by
      simp only [ofInt?, integerRange, unsigned] at held
      split at held
      · rename_i range
        exact Int.ofNat_lt.mp range.2
      · cases held
    rw [ofInt?_of_fits unsigned fits] at held
    cases held
    exact ⟨capacity ▸ fits, rfl⟩
  · rintro ⟨fits, rfl⟩
    exact ofInt?_of_fits unsigned (capacity ▸ fits)

/-- What can be read as an unsigned number is read as the number that it spells. -/
theorem parse_eq_ok_iff {kind : ScalarKind} (unsigned : kind.form = .unsigned) {literal : Text}
    {s : Scalar} :
    parse kind literal = .ok s ↔ ∃ n, Reads kind literal n ∧ s = ⟨kind, BitVec.ofNat _ n⟩ := by
  simp only [parse_eq_ok_iff_ofLiteral?, ofLiteral?, unsigned, Option.bind_eq_some_iff,
    integer?_false_eq_some_iff, Reads]
  constructor
  · rintro ⟨_, ⟨n, spelled, rfl⟩, held⟩
    obtain ⟨fits, rfl⟩ := (ofInt?_eq_some_iff_of_unsigned unsigned).mp held
    exact ⟨n, ⟨spelled, fits⟩, rfl⟩
  · rintro ⟨n, ⟨spelled, fits⟩, rfl⟩
    exact ⟨n, ⟨n, spelled, rfl⟩, (ofInt?_eq_some_iff_of_unsigned unsigned).mpr ⟨fits, rfl⟩⟩

theorem exists_parse_iff {kind : ScalarKind} (unsigned : kind.form = .unsigned) {literal : Text} :
    (∃ s, parse kind literal = .ok s) ↔ ∃ n, Reads kind literal n := by
  constructor
  · rintro ⟨s, read⟩
    obtain ⟨n, reads, -⟩ := (parse_eq_ok_iff unsigned).mp read
    exact ⟨n, reads⟩
  · rintro ⟨n, reads⟩
    exact ⟨_, (parse_eq_ok_iff unsigned).mpr ⟨n, reads, rfl⟩⟩

theorem parse_eq_error_iff {kind : ScalarKind} (unsigned : kind.form = .unsigned) {literal : Text}
    {bad : BadLiteral} :
    parse kind literal = .error bad ↔
      (¬ ∃ n, Reads kind literal n) ∧ bad = ⟨literal, .scalar kind⟩ := by
  rw [← exists_parse_iff unsigned]
  constructor
  · intro refused
    refine ⟨?_, parse_eq_error refused⟩
    rintro ⟨s, read⟩
    rw [refused] at read
    cases read
  · rintro ⟨unread, rfl⟩
    cases read : parse kind literal with
    | ok s => exact absurd ⟨s, read⟩ unread
    | error cause => rw [parse_eq_error read]

theorem bytes_ofNat {kind : ScalarKind} {n : Nat} (fits : n < Nat.pow 2 (8 * kind.width)) :
    Scalar.bytes ⟨kind, BitVec.ofNat _ n⟩ = Bytes.littleEndian kind.width n := by
  have whole : (BitVec.ofNat (8 * kind.width) n).toNat = n := by
    rw [BitVec.toNat_ofNat]
    exact Nat.mod_eq_of_lt fits
  rw [bytes, whole]

end Scalar
end Assembler
