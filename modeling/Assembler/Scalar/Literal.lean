import Assembler.Floating.Literal
import Assembler.Literal
import Assembler.Scalar.Basic

/-! Reading scalars from their literals. Numbers may have blanks around them; a number that its kind
cannot hold is refused, never wrapped. -/
namespace Assembler.Scalar

/-- An integer with an optional sign. A minus sign is refused where there are no negative numbers,
even before a zero. -/
def integer? (signed : Bool) : Text → Option Int
  | '+' :: digits => (Text.number? digits).map Int.ofNat
  | '-' :: digits => if signed then (Text.number? digits).map fun n => -(n : Int) else none
  | digits => (Text.number? digits).map Int.ofNat

/-- The integers that the bits of a kind can hold, the upper end excluded. -/
def integerRange (kind : ScalarKind) : Int × Int :=
  let count := Bytes.capacity kind.width
  match kind.form with
  | .signed => (-(count / 2 : Nat), (count / 2 : Nat))
  | _ => (0, count)

def ofInt? (kind : ScalarKind) (n : Int) : Option Scalar :=
  let range := integerRange kind
  if range.1 ≤ n ∧ n < range.2 then some ⟨kind, BitVec.ofInt _ n⟩ else none

/-- The character of a literal that is one character, be it a blank, or is one once trimmed. -/
def single? (literal : Text) : Option Char :=
  match literal with
  | [c] => some c
  | literal =>
    match Text.trim literal with
    | [c] => some c
    | _ => none

def ofLiteral? (kind : ScalarKind) (literal : Text) : Option Scalar :=
  match kind.form with
  | .unsigned => (integer? false (Text.trim literal)).bind (ofInt? kind)
  | .signed => (integer? true (Text.trim literal)).bind (ofInt? kind)
  | .character => (single? literal).bind fun c => ofInt? kind c.toNat
  | .floating format =>
    (format.ofLiteral? (Text.trim literal)).map fun bits => ⟨kind, BitVec.ofNat _ bits⟩

def parse (kind : ScalarKind) (literal : Text) : Except BadLiteral Scalar :=
  match ofLiteral? kind literal with
  | some s => .ok s
  | none => .error ⟨literal, .scalar kind⟩

/-- The bytes of the scalar that a literal denotes. -/
def encode (kind : ScalarKind) (literal : Text) : Except BadLiteral Bytes :=
  (parse kind literal).map bytes

theorem kind_of_ofInt? {kind : ScalarKind} {n : Int} {s : Scalar}
    (h : ofInt? kind n = some s) : s.kind = kind := by
  unfold ofInt? at h
  dsimp only at h
  split at h
  · cases h; rfl
  · contradiction

theorem kind_of_ofLiteral? {kind : ScalarKind} {literal : Text} {s : Scalar}
    (h : ofLiteral? kind literal = some s) : s.kind = kind := by
  unfold ofLiteral? at h
  split at h
  · obtain ⟨n, _, hn⟩ := Option.bind_eq_some_iff.mp h
    exact kind_of_ofInt? hn
  · obtain ⟨n, _, hn⟩ := Option.bind_eq_some_iff.mp h
    exact kind_of_ofInt? hn
  · obtain ⟨c, _, hc⟩ := Option.bind_eq_some_iff.mp h
    exact kind_of_ofInt? hc
  · obtain ⟨bits, _, rfl⟩ := Option.map_eq_some_iff.mp h
    rfl

theorem length_of_encode {kind : ScalarKind} {literal : Text} {encoded : Bytes}
    (h : encode kind literal = .ok encoded) : encoded.length = kind.width := by
  unfold encode parse at h
  split at h
  · rename_i s hs
    cases h
    rw [bytes, Bytes.length_littleEndian, kind_of_ofLiteral? hs]
  · cases h

end Assembler.Scalar
