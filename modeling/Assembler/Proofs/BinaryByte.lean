import Assembler.Listing
import Assembler.Proofs.Text.Words

/-! Bytes in base two. A text denotes a byte exactly if it has eight binary digits and otherwise
blanks only; where the blanks stand does not matter. The value of the digits is stated here by their
places, and the text of a byte is two groups of four of them. -/
namespace Assembler

namespace Text

def solid (text : Text) : Text :=
  text.filter (! isBlank ·)

def byteSize : Text → Nat
  | [] => 0
  | c :: rest => c.utf8Size + byteSize rest

/-- The texts that come of a text by putting in blanks and taking them out, one at a time and
anywhere. -/
inductive Respaced (text : Text) : Text → Prop where
  | same : Respaced text text
  | insert {front back : Text} {c : Char} (blank : isBlank c = true)
    (earlier : Respaced text (front ++ back)) : Respaced text (front ++ c :: back)
  | remove {front back : Text} {c : Char} (blank : isBlank c = true)
    (earlier : Respaced text (front ++ c :: back)) : Respaced text (front ++ back)

theorem solid_of_forall {text : Text} (visible : ∀ c ∈ text, isBlank c = false) :
    solid text = text := by
  apply List.filter_eq_self.mpr
  intro c member
  rw [visible c member]
  rfl

theorem solid_blank {c : Char} (blank : isBlank c = true) (front back : Text) :
    solid (front ++ c :: back) = solid (front ++ back) := by
  simp [solid, blank]

theorem Respaced.solid_eq {text other : Text} (respaced : Respaced text other) :
    solid other = solid text := by
  induction respaced with
  | same => rfl
  | insert blank earlier ih => rw [solid_blank blank, ih]
  | remove blank earlier ih => rw [← solid_blank blank, ih]

end Text

namespace BinaryByte

/-- The value of binary digits, the most significant one first: each is shifted by the number of
digits that stand behind it. -/
def value : Text → Nat
  | [] => 0
  | c :: rest => (if c = '1' then 1 else 0) <<< rest.length + value rest

def Binary (digits : Text) : Prop :=
  ∀ c ∈ digits, c = '0' ∨ c = '1'

/-- A given number of binary digits, and the number that they spell. -/
structure Numeral (size : Nat) (digits : Text) (n : Nat) : Prop where
  length : digits.length = size
  binary : Binary digits
  spells : value digits = n

theorem Binary.head {c : Char} {rest : Text} (binary : Binary (c :: rest)) : c = '0' ∨ c = '1' :=
  binary c List.mem_cons_self

theorem Binary.tail {c : Char} {rest : Text} (binary : Binary (c :: rest)) : Binary rest :=
  fun d member => binary d (List.mem_cons_of_mem c member)

theorem value_lt (digits : Text) : value digits < 1 <<< digits.length := by
  induction digits with
  | nil => decide
  | cons c rest ih =>
    rw [value, List.length_cons, Nat.shiftLeft_succ]
    split
    · omega
    · rw [Nat.zero_shiftLeft]
      omega

theorem value_append (front back : Text) :
    value (front ++ back) = value front <<< back.length + value back := by
  induction front with
  | nil => simp [value]
  | cons c rest ih =>
    simp only [List.cons_append, value, ih, List.length_append, Nat.shiftLeft_eq, Nat.pow_add]
    rw [Nat.add_mul, Nat.mul_assoc, Nat.add_assoc]

theorem Numeral.append {high low : Nat} {front back : Text} {m n : Nat}
    (before : Numeral high front m) (behind : Numeral low back n) :
    Numeral (high + low) (front ++ back) (m <<< low + n) := by
  refine ⟨?_, ?_, ?_⟩
  · rw [List.length_append, before.length, behind.length]
  · intro c member
    exact (List.mem_append.mp member).elim (before.binary c) (behind.binary c)
  · rw [value_append, before.spells, behind.spells, behind.length]

/-- Reading digit by digit, with what was read before as the higher part of the number. -/
theorem ofDigitChars_eq {digits : Text} (binary : Binary digits) (high : Nat) :
    Nat.ofDigitChars 2 digits high = high <<< digits.length + value digits := by
  induction digits generalizing high with
  | nil => simp [value]
  | cons c rest ih =>
    have bit : c.toNat - '0'.toNat = if c = '1' then 1 else 0 := by
      rcases binary.head with rfl | rfl <;> rfl
    rw [Nat.ofDigitChars_cons, ih binary.tail, bit, value, List.length_cons,
      Nat.shiftLeft_succ_inside, ← Nat.add_assoc]
    simp only [Nat.shiftLeft_eq, Nat.add_mul]

theorem all_isBit_iff {digits : Text} : digits.all isBit = true ↔ Binary digits := by
  simp [isBit, Binary]

theorem ofText?_eq_some_iff {text : Text} {b : UInt8} :
    ofText? text = some b ↔ Numeral 8 (Text.solid text) b.toNat := by
  simp only [ofText?, Option.ite_none_right_eq_some, Bool.and_eq_true, decide_eq_true_eq,
    all_isBit_iff, Option.some.injEq]
  constructor
  · rintro ⟨⟨length, binary⟩, rfl⟩
    refine ⟨length, binary, ?_⟩
    -- Eight digits stay below 256, so nothing is lost in the byte.
    have below := value_lt (Text.solid text)
    rw [Text.solid, length] at below
    rw [Text.solid, ofDigitChars_eq binary, Nat.zero_shiftLeft, Nat.zero_add,
      UInt8.toNat_ofNat_of_lt' below]
  · rintro ⟨length, binary, spells⟩
    refine ⟨⟨length, binary⟩, ?_⟩
    rw [← Text.solid, ofDigitChars_eq binary, Nat.zero_shiftLeft, Nat.zero_add, spells,
      UInt8.ofNat_toNat]

theorem parse_eq_ok_iff {text : Text} {b : UInt8} :
    parse text = .ok b ↔ Numeral 8 (Text.solid text) b.toNat := by
  rw [← ofText?_eq_some_iff]
  unfold parse
  split <;> simp_all

theorem parse_eq_error {text : Text} {bad : BadLiteral}
    (refused : parse text = .error bad) : bad = ⟨text, .binaryByte⟩ := by
  unfold parse at refused
  split at refused <;> cases refused
  rfl

def digit (n place : Nat) : Char :=
  if n.testBit place then '1' else '0'

theorem numeral_digit (n place : Nat) : Numeral 1 [digit n place] (n >>> place % 2) := by
  have bit : n.testBit place = decide (n >>> place % 2 = 1) := by
    rw [Nat.shiftRight_eq_div_pow]
    exact Nat.testBit_eq_decide_div_mod_eq
  unfold digit
  cases set : n.testBit place with
  | true =>
    rw [set, eq_comm, decide_eq_true_iff] at bit
    exact ⟨rfl, all_isBit_iff.mp rfl, bit.symm⟩
  | false =>
    rw [set, eq_comm, decide_eq_false_iff_not] at bit
    have zero : n >>> place % 2 = 0 := by omega
    exact ⟨rfl, all_isBit_iff.mp rfl, zero.symm⟩

/-- The digits of consecutive places spell the part of the number at those places. -/
theorem numeral_places (n low size : Nat) :
    Numeral size ((List.range' low size).reverse.map (digit n)) (n >>> low % 1 <<< size) := by
  induction size with
  | zero => exact ⟨rfl, List.forall_mem_nil _, (Nat.mod_one _).symm⟩
  | succ size ih =>
    -- One more place is the next higher one, so its digit stands in front of the others.
    have whole := (numeral_digit n (low + size)).append ih
    have part : n >>> low % 1 <<< (size + 1) =
        (n >>> (low + size) % 2) <<< size + n >>> low % 1 <<< size := by
      rw [Nat.shiftRight_add, Nat.one_shiftLeft, Nat.one_shiftLeft, Nat.mod_pow_succ,
        Nat.shiftRight_eq_div_pow _ size, Nat.shiftLeft_eq, Nat.mul_comm, Nat.add_comm]
    rw [List.range'_concat, List.reverse_append, List.map_append, Nat.one_mul, part,
      Nat.add_comm size 1]
    exact whole

/-- The text of a byte: a group of digits for its upper half and one for its lower half. -/
theorem toText_groups (b : UInt8) :
    ∃ high low, toText b = high ++ ' ' :: low
      ∧ Numeral 4 high (b.toNat / 16) ∧ Numeral 4 low (b.toNat % 16) := by
  have upper := numeral_places b.toNat 4 4
  have lower := numeral_places b.toNat 0 4
  have half : b.toNat >>> 4 % 1 <<< 4 = b.toNat / 16 := by
    have bound := b.toNat_lt
    have fits : b.toNat / 16 < 16 := by omega
    rw [Nat.shiftRight_eq_div_pow]
    exact Nat.mod_eq_of_lt fits
  rw [half] at upper
  exact ⟨_, _, rfl, upper, lower⟩

theorem solid_binary {digits : Text} (binary : Binary digits) : Text.solid digits = digits := by
  apply Text.solid_of_forall
  intro c member
  rcases binary c member with rfl | rfl <;> decide

theorem ofText?_toText (b : UInt8) : ofText? (toText b) = some b := by
  obtain ⟨high, low, shown, upper, lower⟩ := toText_groups b
  have whole := upper.append lower
  have halves : (b.toNat / 16) <<< 4 + b.toNat % 16 = b.toNat := by
    rw [Nat.shiftLeft_eq]
    exact Nat.div_add_mod' _ _
  rw [halves] at whole
  rw [ofText?_eq_some_iff, shown, Text.solid_blank (by decide), solid_binary whole.binary]
  exact whole

theorem visible_toText (b : UInt8) : Text.Visible (toText b) := by
  obtain ⟨high, low, shown, upper, lower⟩ := toText_groups b
  have visible {digits : Text} (binary : Binary digits) : Text.Visible digits := by
    intro c member
    rcases binary c member with rfl | rfl <;> decide
  rw [shown]
  exact (visible upper.binary).append
    ((by decide : Text.Visible [' ']).append (visible lower.binary))

theorem byteSize_binary {digits : Text} (binary : Binary digits) :
    Text.byteSize digits = digits.length := by
  induction digits with
  | nil => rfl
  | cons c rest ih =>
    have one : c.utf8Size = 1 := by
      rcases binary.head with rfl | rfl <;> rfl
    rw [Text.byteSize, one, ih binary.tail, List.length_cons, Nat.add_comm]

/-- Eight digits denote some byte, be they counted as characters or by their bytes. -/
theorem exists_parse_iff {text : Text} :
    (∃ b, parse text = .ok b) ↔
      Text.byteSize (Text.solid text) = 8 ∧ Binary (Text.solid text) := by
  simp only [parse_eq_ok_iff]
  constructor
  · rintro ⟨b, length, binary, -⟩
    exact ⟨(byteSize_binary binary).trans length, binary⟩
  · rintro ⟨size, binary⟩
    have length : (Text.solid text).length = 8 := (byteSize_binary binary).symm.trans size
    have below := value_lt (Text.solid text)
    rw [length] at below
    exact ⟨UInt8.ofNat (value (Text.solid text)), length, binary,
      (UInt8.toNat_ofNat_of_lt' below).symm⟩

/-- A text denotes a byte exactly if its characters other than blanks are eight binary digits, and
then the byte that they spell; it makes no difference if bytes are counted in place of characters. A
refusal names the text as it is. Blanks that are put in or taken out anywhere change no result, and
the text that a byte is listed with, two groups of four digits, denotes the byte. -/
theorem binary_grammar (text : Text) :
    (∀ b, parse text = .ok b ↔ Numeral 8 (Text.solid text) b.toNat)
    ∧ ((∃ b, parse text = .ok b) ↔ Text.byteSize (Text.solid text) = 8 ∧ Binary (Text.solid text))
    ∧ (∀ bad, parse text = .error bad → bad = ⟨text, .binaryByte⟩)
    ∧ (∀ other, Text.Respaced text other → ∀ b, parse other = .ok b ↔ parse text = .ok b)
    ∧ ∀ b, (∃ high low, toText b = high ++ ' ' :: low
        ∧ Numeral 4 high (b.toNat / 16) ∧ Numeral 4 low (b.toNat % 16))
      ∧ (Listing.isShown b = false → Listing.entry [b] = "BYTE:".toList ++ toText b)
      ∧ parse (toText b) = .ok b := by
  refine ⟨fun b => parse_eq_ok_iff, exists_parse_iff, fun bad => parse_eq_error, ?_, ?_⟩
  · intro other respaced b
    rw [parse_eq_ok_iff, parse_eq_ok_iff, respaced.solid_eq]
  · intro b
    refine ⟨toText_groups b, ?_, ?_⟩
    · intro hidden
      have shown : ¬ [b].all Listing.isShown = true := by simp [hidden]
      exact if_neg shown
    · rw [parse, ofText?_toText]

/-- A blank that is not ASCII in another place, a sign, and a byte that no character is shown
for. -/
theorem binary_grammar_respaced :
    let text := "1010 0101".toList
    let other := "10\u3000100101".toList
    parse text = .ok 0xA5 ∧ parse other = .ok 0xA5
      ∧ (¬ ∃ b, parse "+1010101".toList = .ok b)
      ∧ Listing.entry [0xA5] = "BYTE:".toList ++ text := by
  intro text other
  obtain ⟨accepted, -, -, kept, listed⟩ := binary_grammar text
  obtain ⟨-, sign, -⟩ := binary_grammar "+1010101".toList
  have read : parse text = .ok 0xA5 :=
    (accepted _).mpr ⟨by decide, all_isBit_iff.mp (by decide), by decide⟩
  have joined : Text.Respaced text ("1010".toList ++ "0101".toList) := .remove (by decide) .same
  have respaced : Text.Respaced text other :=
    @Text.Respaced.insert text "10".toList "100101".toList _ (by decide) joined
  refine ⟨read, (kept other respaced _).mpr read, ?_, (listed 0xA5).2.1 (by decide)⟩
  rw [sign]
  rintro ⟨-, binary⟩
  exact absurd (binary '+' (by decide)) (by decide)

end BinaryByte
end Assembler
