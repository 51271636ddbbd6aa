import Assembler.Proofs.Numeral

/-! What literals denote. Integers are written in decimal with an optional sign, characters as
themselves; what a kind cannot hold it does not denote. The grammar and the bounds of each kind are
stated here apart from the reader, which accepts exactly the literals that denote something. The
text of an integer or a character is one of its literals. -/
namespace Assembler

namespace ScalarKind

/-- The least and the greatest number of a kind of integers. -/
def integers? : ScalarKind → Option (Int × Int)
  | byte => some (0, 255)
  | uint16 => some (0, 65535)
  | uint32 => some (0, 4294967295)
  | uint64 => some (0, 18446744073709551615)
  | int16 => some (-32768, 32767)
  | int32 => some (-2147483648, 2147483647)
  | int64 => some (-9223372036854775808, 9223372036854775807)
  | char | widechar | float32 | float64 => none

theorem integers?_of_unsigned {kind : ScalarKind} (unsigned : kind.form = .unsigned) :
    ∃ greatest, kind.integers? = some (0, greatest) := by
  cases kind <;> cases unsigned <;> exact ⟨_, rfl⟩

def greatestCode? : ScalarKind → Option Nat
  | char => some 0xFF
  | widechar => some 0xFFFF
  | _ => none

theorem greatestCode?_cases {kind : ScalarKind} {greatest : Nat}
    (bound : kind.greatestCode? = some greatest) :
    kind = char ∧ greatest = 0xFF ∨ kind = widechar ∧ greatest = 0xFFFF := by
  cases kind <;> cases bound <;> simp

def Discrete (kind : ScalarKind) : Prop :=
  kind ≠ float32 ∧ kind ≠ float64

instance (kind : ScalarKind) : Decidable kind.Discrete :=
  inferInstanceAs (Decidable (_ ∧ _))

theorem Discrete.cases {kind : ScalarKind} (discrete : kind.Discrete) :
    (∃ least greatest, kind.integers? = some (least, greatest))
      ∨ ∃ greatest, kind.greatestCode? = some greatest := by
  cases kind with
  | float32 => exact absurd rfl discrete.1
  | float64 => exact absurd rfl discrete.2
  | char | widechar => exact Or.inr ⟨_, rfl⟩
  | byte | uint16 | uint32 | uint64 | int16 | int32 | int64 => exact Or.inl ⟨_, _, rfl⟩

end ScalarKind

namespace Scalar

theorem ofInt_integer (s : Scalar) : BitVec.ofInt (8 * s.kind.width) s.integer = s.bits := by
  unfold integer
  split
  · exact BitVec.ofInt_toInt
  · rw [BitVec.ofInt_natCast, BitVec.ofNat_toNat, BitVec.setWidth_eq]

/-- The bits of an integer stand for it again exactly if it is in the range of the kind. -/
theorem integer_ofInt_iff {kind : ScalarKind} {z : Int} :
    integer ⟨kind, BitVec.ofInt _ z⟩ = z ↔
      (integerRange kind).1 ≤ z ∧ z < (integerRange kind).2 := by
  unfold integer
  split
  · rename_i signed
    have positive : 0 < 8 * kind.width := by cases kind <;> decide
    have range : integerRange kind = (-2 ^ (8 * kind.width - 1), 2 ^ (8 * kind.width - 1)) := by
      cases kind <;> cases signed <;> rfl
    rw [range]
    constructor
    · intro same
      rw [← same]
      exact ⟨BitVec.le_toInt _, BitVec.toInt_lt⟩
    · rintro ⟨lower, upper⟩
      exact BitVec.toInt_ofInt_eq_self positive lower upper
  · rename_i other
    have range : integerRange kind = (0, ((2 ^ (8 * kind.width) : Nat) : Int)) := by
      unfold integerRange
      split
      · contradiction
      · rw [Bytes.capacity_eq]
        rfl
    rw [range]
    constructor
    · intro same
      rw [← same]
      exact ⟨Int.natCast_nonneg _, Int.ofNat_lt.mpr (BitVec.isLt _)⟩
    · rintro ⟨lower, upper⟩
      rw [BitVec.toNat_ofInt, Int.emod_eq_of_lt lower upper, Int.toNat_of_nonneg lower]

theorem integer_range (s : Scalar) :
    (integerRange s.kind).1 ≤ s.integer ∧ s.integer < (integerRange s.kind).2 := by
  rw [← integer_ofInt_iff, ofInt_integer]

/-- An integer is held by the one scalar of the kind that stands for it. -/
theorem ofInt?_eq_some_iff {kind : ScalarKind} {z : Int} {s : Scalar} :
    ofInt? kind z = some s ↔ s.kind = kind ∧ s.integer = z := by
  simp only [ofInt?, Option.ite_none_right_eq_some, Option.some.injEq]
  constructor
  · rintro ⟨range, rfl⟩
    exact ⟨rfl, integer_ofInt_iff.mpr range⟩
  · rintro ⟨rfl, rfl⟩
    exact ⟨s.integer_range, by rw [ofInt_integer]⟩

theorem integerRange_of_integers {kind : ScalarKind} {least greatest : Int}
    (bounds : kind.integers? = some (least, greatest)) :
    integerRange kind = (least, greatest + 1) := by
  cases kind <;> cases bounds <;> rfl

theorem integerRange_of_characters {kind : ScalarKind} {greatest : Nat}
    (bound : kind.greatestCode? = some greatest) :
    integerRange kind = (0, (greatest : Int) + 1) := by
  cases kind <;> cases bound <;> rfl

theorem integer_bounds {s : Scalar} {least greatest : Int}
    (bounds : s.kind.integers? = some (least, greatest)) :
    least ≤ s.integer ∧ s.integer ≤ greatest := by
  have held := s.integer_range
  rw [integerRange_of_integers bounds] at held
  exact ⟨held.1, Int.lt_add_one_iff.mp held.2⟩

theorem code_le {s : Scalar} {greatest : Nat} (bound : s.kind.greatestCode? = some greatest) :
    s.integer ≤ greatest := by
  have held := s.integer_range
  rw [integerRange_of_characters bound] at held
  exact Int.lt_add_one_iff.mp held.2

/-- The character that a literal consists of. A literal of one character is that character, be it a
blank; of any other the blanks at the ends do not count. -/
def Single (literal : Text) (c : Char) : Prop :=
  literal = [c] ∨ literal.length ≠ 1 ∧ Text.Trimmed literal [c]

theorem single?_eq_some_iff {literal : Text} {c : Char} :
    single? literal = some c ↔ Single literal c := by
  unfold single? Single
  split
  · simp
  · rename_i several
    have other : literal.length ≠ 1 := by
      intro one
      obtain ⟨d, rfl⟩ := List.length_eq_one_iff.mp one
      exact several d rfl
    have different : literal ≠ [c] := several c
    simp only [different, other, false_or, ne_eq, not_false_eq_true, true_and, ← Text.trim_eq_iff]
    split
    · rename_i d core
      simp [core]
    · rename_i none
      simpa using none c

/-- The literals of the kinds of integers and of characters, each with the integer or the code that
it denotes. A minus sign is for the kinds that have negative numbers. -/
inductive Denotes (kind : ScalarKind) (literal : Text) : Int → Prop where
  | integer {least greatest z : Int} {core : Text}
    (bounds : kind.integers? = some (least, greatest))
    (trimmed : Text.Trimmed literal core) (spelled : Text.IntegerNumeral (least < 0) core z)
    (lower : least ≤ z) (upper : z ≤ greatest) : Denotes kind literal z
  | character {greatest : Nat} {c : Char} (bound : kind.greatestCode? = some greatest)
    (single : Single literal c) (upper : c.toNat ≤ greatest) : Denotes kind literal c.toNat

theorem integers?_of_greatestCode? {kind : ScalarKind} {greatest : Nat}
    (bound : kind.greatestCode? = some greatest) : kind.integers? = none := by
  cases kind <;> cases bound <;> rfl

theorem denotes_iff_of_integers {kind : ScalarKind} {least greatest : Int}
    (bounds : kind.integers? = some (least, greatest)) {literal : Text} {z : Int} :
    Denotes kind literal z ↔
      Text.IntegerNumeral (least < 0) (Text.trim literal) z ∧ least ≤ z ∧ z ≤ greatest := by
  constructor
  · intro denotes
    cases denotes with
    | integer same trimmed spelled lower upper =>
      cases bounds.symm.trans same
      exact ⟨trimmed.trim_eq ▸ spelled, lower, upper⟩
    | character bound => cases bounds.symm.trans (integers?_of_greatestCode? bound)
  · rintro ⟨spelled, lower, upper⟩
    exact .integer bounds (Text.trimmed_trim literal) spelled lower upper

theorem denotes_iff_of_characters {kind : ScalarKind} {greatest : Nat}
    (bound : kind.greatestCode? = some greatest) {literal : Text} {z : Int} :
    Denotes kind literal z ↔ ∃ c, Single literal c ∧ z = c.toNat ∧ z ≤ greatest := by
  constructor
  · intro denotes
    cases denotes with
    | integer bounds => cases bounds.symm.trans (integers?_of_greatestCode? bound)
    | character same single upper =>
      cases bound.symm.trans same
      exact ⟨_, single, rfl, Int.ofNat_le.mpr upper⟩
  · rintro ⟨c, single, rfl, upper⟩
    exact .character bound single (Int.ofNat_le.mp upper)

theorem ofLiteral?_of_integers {kind : ScalarKind} {least greatest : Int}
    (bounds : kind.integers? = some (least, greatest)) (literal : Text) :
    ofLiteral? kind literal = (integer? (least < 0) (Text.trim literal)).bind (ofInt? kind) := by
  cases kind <;> cases bounds <;> rfl

theorem ofLiteral?_of_characters {kind : ScalarKind} {greatest : Nat}
    (bound : kind.greatestCode? = some greatest) (literal : Text) :
    ofLiteral? kind literal = (single? literal).bind fun c => ofInt? kind c.toNat := by
  cases kind <;> cases bound <;> rfl

theorem ofLiteral?_eq_some_iff {kind : ScalarKind} (discrete : kind.Discrete) {literal : Text}
    {s : Scalar} :
    ofLiteral? kind literal = some s ↔ s.kind = kind ∧ Denotes kind literal s.integer := by
  rcases discrete.cases with ⟨least, greatest, bounds⟩ | ⟨greatest, bound⟩
  · simp only [ofLiteral?_of_integers bounds, Option.bind_eq_some_iff, integer?_eq_some_iff,
      ofInt?_eq_some_iff, denotes_iff_of_integers bounds]
    constructor
    · -- That the integer is within the bounds need not be looked at: a scalar stands for it.
      rintro ⟨_, spelled, rfl, rfl⟩
      exact ⟨rfl, spelled, integer_bounds bounds⟩
    · rintro ⟨rfl, spelled, -⟩
      exact ⟨s.integer, spelled, rfl, rfl⟩
  · simp only [ofLiteral?_of_characters bound, Option.bind_eq_some_iff, single?_eq_some_iff,
      ofInt?_eq_some_iff, denotes_iff_of_characters bound]
    constructor
    · rintro ⟨c, single, rfl, code⟩
      exact ⟨rfl, c, single, code, code_le bound⟩
    · rintro ⟨rfl, c, single, code, -⟩
      exact ⟨c, single, rfl, code⟩

theorem Denotes.exists_scalar {kind : ScalarKind} {literal : Text} {z : Int}
    (denotes : Denotes kind literal z) : ∃ s : Scalar, s.kind = kind ∧ s.integer = z := by
  have range : (integerRange kind).1 ≤ z ∧ z < (integerRange kind).2 := by
    cases denotes with
    | integer bounds _ _ lower upper =>
      rw [integerRange_of_integers bounds]
      exact ⟨lower, Int.lt_add_one_iff.mpr upper⟩
    | character bound _ upper =>
      rw [integerRange_of_characters bound]
      exact ⟨Int.natCast_nonneg _, Int.lt_add_one_iff.mpr (Int.ofNat_le.mpr upper)⟩
  exact ⟨_, rfl, integer_ofInt_iff.mpr range⟩

theorem Denotes.discrete {kind : ScalarKind} {literal : Text} {z : Int}
    (denotes : Denotes kind literal z) :
    kind.Discrete := by
  cases denotes with
  | integer bounds => constructor <;> rintro rfl <;> cases bounds
  | character bound => constructor <;> rintro rfl <;> cases bound

theorem parse_eq_ok_iff_denotes {kind : ScalarKind} (discrete : kind.Discrete) {literal : Text}
    {s : Scalar} : parse kind literal = .ok s ↔ s.kind = kind ∧ Denotes kind literal s.integer := by
  rw [parse_eq_ok_iff_ofLiteral?, ofLiteral?_eq_some_iff discrete]

theorem parse_of_denotes {s : Scalar} {literal : Text}
    (denotes : Denotes s.kind literal s.integer) :
    parse s.kind literal = .ok s :=
  (parse_eq_ok_iff_denotes denotes.discrete).mpr ⟨rfl, denotes⟩

theorem encode_of_denotes {s : Scalar} {literal : Text}
    (denotes : Denotes s.kind literal s.integer) :
    encode s.kind literal = .ok s.bytes := by
  rw [encode, parse_of_denotes denotes]
  rfl

/-- A literal of an integer or a character is read exactly if it denotes something, and then as the
scalar of its kind that stands for what it denotes. Every refusal, also that of a floating number,
names the literal as it is written, blanks included, and the kind. -/
theorem literal_grammar (kind : ScalarKind) (literal : Text) :
    (kind.Discrete →
      (∀ s, parse kind literal = .ok s ↔ s.kind = kind ∧ Denotes kind literal s.integer)
      ∧ ((∃ s, parse kind literal = .ok s) ↔ ∃ z, Denotes kind literal z))
    ∧ ∀ bad, parse kind literal = .error bad →
      bad.literal = literal ∧ bad.expected.name = kind.name := by
  constructor
  · intro discrete
    refine ⟨fun s => parse_eq_ok_iff_denotes discrete, ?_, ?_⟩
    · rintro ⟨s, read⟩
      exact ⟨s.integer, ((parse_eq_ok_iff_denotes discrete).mp read).2⟩
    · rintro ⟨z, denotes⟩
      obtain ⟨s, rfl, rfl⟩ := denotes.exists_scalar
      exact ⟨s, parse_of_denotes denotes⟩
  · intro bad refused
    rw [parse_eq_error refused]
    exact ⟨rfl, rfl⟩

/-- The least number of a signed kind behind a blank that is not ASCII, the number below it, and a
blank as a character. -/
theorem literal_grammar_edges :
    parse .int32 "\u00A0-02147483648".toList = .ok ⟨.int32, BitVec.ofInt 32 (-2147483648)⟩
      ∧ (¬ ∃ s, parse .int32 "-2147483649".toList = .ok s)
      ∧ parse .char [' '] = .ok ⟨.char, 0x20⟩ := by
  obtain ⟨least, -⟩ := (literal_grammar .int32 "\u00A0-02147483648".toList).1 (by decide)
  obtain ⟨-, below⟩ := (literal_grammar .int32 "-2147483649".toList).1 (by decide)
  obtain ⟨blank, -⟩ := (literal_grammar .char [' ']).1 (by decide)
  refine ⟨(least _).mpr ⟨rfl, (denotes_iff_of_integers rfl).mpr ?_⟩, ?_,
    (blank _).mpr ⟨rfl, .character rfl (Or.inl rfl) (by decide)⟩⟩
  · exact ⟨integer?_eq_some_iff.mp (by decide), by decide, by decide⟩
  · rw [below]
    rintro ⟨z, denotes⟩
    obtain ⟨spelled, lower, -⟩ := (denotes_iff_of_integers rfl).mp denotes
    have value : some (-2147483649) = some z := integer?_eq_some_iff.mpr spelled
    cases value
    contradiction

theorem text_of_integers {s : Scalar} {least greatest : Int}
    (bounds : s.kind.integers? = some (least, greatest)) : s.text = signedDecimal s.integer := by
  obtain ⟨kind, bits⟩ := s
  cases kind <;> cases bounds <;> rfl

theorem text_of_characters {s : Scalar} {greatest : Nat}
    (bound : s.kind.greatestCode? = some greatest) :
    s.text = [character s.bits.toNat] ∧ s.integer = s.bits.toNat := by
  obtain ⟨kind, bits⟩ := s
  cases kind <;> cases bound <;> exact ⟨rfl, rfl⟩

theorem integerNumeral_signedDecimal {signed : Bool} {z : Int} (negatives : z < 0 → signed = true) :
    Text.IntegerNumeral signed (signedDecimal z) z := by
  have numeral (n : Nat) : Text.Numeral (Text.decimal n) n :=
    Text.number?_eq_some_iff.mp (Text.number?_decimal n)
  cases z with
  | ofNat n => exact .bare (numeral n)
  | negSucc n => exact .minus (negatives (Int.negSucc_lt_zero n)) (numeral (n + 1))

theorem trim_signedDecimal (z : Int) : Text.trim (signedDecimal z) = signedDecimal z := by
  cases z with
  | ofNat n => exact trim_decimal n
  | negSucc n =>
    apply Text.trim_of_forall
    intro c member
    rcases List.mem_cons.mp member with rfl | digit
    · decide
    · exact Text.not_blank_of_digit (Text.isDigit_of_mem_decimal digit)

/-- The text of an integer denotes it, be it with blanks around it. -/
theorem denotes_of_trim_eq_text {s : Scalar} {least greatest : Int}
    (bounds : s.kind.integers? = some (least, greatest)) {literal : Text}
    (spelled : Text.trim literal = s.text) : Denotes s.kind literal s.integer := by
  obtain ⟨lower, upper⟩ := integer_bounds bounds
  rw [denotes_iff_of_integers bounds, spelled, text_of_integers bounds]
  refine ⟨integerNumeral_signedDecimal ?_, lower, upper⟩
  intro negative
  exact decide_eq_true (Int.lt_of_le_of_lt lower negative)

theorem encode_of_trim_eq_text {s : Scalar} (unsigned : s.kind.form = .unsigned) {literal : Text}
    (spelled : Text.trim literal = s.text) : encode s.kind literal = .ok s.bytes := by
  obtain ⟨greatest, bounds⟩ := ScalarKind.integers?_of_unsigned unsigned
  exact encode_of_denotes (denotes_of_trim_eq_text bounds spelled)

/-- A literal that spells a number, be it with blanks around it, is stored as that number. -/
theorem encode_of_trim_eq_decimal {kind : ScalarKind} (unsigned : kind.form = .unsigned) {n : Nat}
    (fits : n < Bytes.capacity kind.width) {literal : Text}
    (spelled : Text.trim literal = Text.decimal n) :
    encode kind literal = .ok (Bytes.littleEndian kind.width n) := by
  rw [Bytes.capacity_eq] at fits
  let s : Scalar := ⟨kind, BitVec.ofNat _ n⟩
  have bits : s.bits.toNat = n := by
    rw [BitVec.toNat_ofNat]
    exact Nat.mod_eq_of_lt fits
  have shown : s.text = Text.decimal n := by rw [text_of_unsigned unsigned, bits]
  have encoded := encode_of_trim_eq_text unsigned (spelled.trans shown.symm)
  rwa [bytes, bits] at encoded

theorem toNat_character {code : Nat} (bound : code ≤ 0xFFFF)
    (valid : ¬ (0xD800 ≤ code ∧ code ≤ 0xDFFF)) :
    (character code).toNat = code := by
  have scalar : code.isValidChar := by
    unfold Nat.isValidChar
    omega
  rw [character, if_neg valid, Char.ofNat, dif_pos scalar]
  rfl

/-- A wide character whose code is that of half a character. -/
def Surrogate (s : Scalar) : Prop :=
  s.kind = .widechar ∧ 0xD800 ≤ s.bits.toNat ∧ s.bits.toNat ≤ 0xDFFF

theorem code_character {s : Scalar} {greatest : Nat} (bound : s.kind.greatestCode? = some greatest)
    (whole : ¬ s.Surrogate) : s.integer = (character s.bits.toNat).toNat := by
  have fits := code_le bound
  rw [(text_of_characters bound).2] at fits ⊢
  rcases ScalarKind.greatestCode?_cases bound with ⟨-, rfl⟩ | ⟨wide, rfl⟩
  · rw [toNat_character (by omega) (by omega)]
  · rw [toNat_character (by omega) fun half => whole ⟨wide, half⟩]

/-- The text of an integer or a character is a literal of it. -/
theorem denotes_text {s : Scalar} (discrete : s.kind.Discrete) (whole : ¬ s.Surrogate) :
    Denotes s.kind s.text s.integer := by
  rcases discrete.cases with ⟨least, greatest, bounds⟩ | ⟨greatest, bound⟩
  · apply denotes_of_trim_eq_text bounds
    rw [text_of_integers bounds, trim_signedDecimal]
  · rw [denotes_iff_of_characters bound, (text_of_characters bound).1]
    exact ⟨_, Or.inl rfl, code_character bound whole, code_le bound⟩

/-- Half a character is shown as the replacement character, and read as that. -/
theorem parse_text_of_surrogate {s : Scalar} (half : s.Surrogate) :
    parse s.kind s.text = .ok ⟨.widechar, 0xFFFD⟩ := by
  obtain ⟨kind, range⟩ := half
  have bound : s.kind.greatestCode? = some 0xFFFF := by rw [kind]; rfl
  rw [(text_of_characters bound).1, character, if_pos range, kind]
  exact (parse_eq_ok_iff_denotes (by decide)).mpr ⟨rfl, .character rfl (Or.inl rfl) (by decide)⟩

/-- The text of an integer or a character, other than half a character, is read as the scalar that
it shows and denotes its bytes, so no other scalar of the kind has that text. The text of half a
character is read as the replacement character. -/
theorem text_reparses (s : Scalar) (discrete : s.kind.Discrete) :
    (¬ s.Surrogate →
      parse s.kind s.text = .ok s
      ∧ encode s.kind s.text = .ok s.bytes
      ∧ ∀ t : Scalar, t.kind = s.kind → ¬ t.Surrogate → t.text = s.text → t = s)
    ∧ (s.Surrogate → parse s.kind s.text = .ok ⟨.widechar, 0xFFFD⟩) := by
  refine ⟨fun whole => ?_, parse_text_of_surrogate⟩
  have denotes := denotes_text discrete whole
  refine ⟨parse_of_denotes denotes, encode_of_denotes denotes, ?_⟩
  intro t kind other shown
  have again := parse_of_denotes (denotes_text (kind ▸ discrete) other)
  rw [kind, shown, parse_of_denotes denotes] at again
  cases again
  rfl

/-- The least number of a signed kind, a blank character, and half a character. -/
theorem text_reparses_edges :
    let least : Scalar := ⟨.int64, BitVec.ofInt 64 (-9223372036854775808)⟩
    let blank : Scalar := ⟨.widechar, 0x3000⟩
    let half : Scalar := ⟨.widechar, 0xD800⟩
    parse .int64 least.text = .ok least ∧ encode .widechar blank.text = .ok [0x00, 0x30]
      ∧ parse .widechar half.text = .ok ⟨.widechar, 0xFFFD⟩ := by
  intro least blank half
  have whole : ¬ blank.Surrogate := by
    rintro ⟨-, above, -⟩
    exact absurd above (by decide)
  obtain ⟨⟨-, encoded, -⟩, -⟩ := (text_reparses blank (by decide)).imp_left fun read => read whole
  refine ⟨((text_reparses least (by decide)).1 ?_).1, ?_,
    (text_reparses half (by decide)).2 ⟨rfl, by decide, by decide⟩⟩
  · rintro ⟨⟨⟩, -⟩
  · exact encoded.trans (congrArg _ (by decide))

end Scalar
end Assembler
