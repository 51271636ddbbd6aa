import Assembler.Floating.Format
import Assembler.Text.Basic

/-! The text of a floating-point value: the fewest decimal digits that read back to it, written
without an exponent. -/
namespace Assembler.Floating

/-- The numbers that round to one value: those between `(centre - below) / unit` and
`(centre + above) / unit`, the ends included when `closed`. -/
structure Neighbourhood where
  unit : Nat
  centre : Nat
  below : Nat
  above : Nat
  closed : Bool

/-- The neighbourhood of a finite magnitude. An end lies halfway to the next value, hence the
quarter steps: right above a power of two the values below stand twice as dense, unless they are
subnormal. The ends belong to the even significand. -/
def Format.neighbourhood (f : Format) (magnitude : Nat) : Neighbourhood :=
  let normal := Nat.pow 2 f.fractionBits
  let exponent := magnitude / normal
  let fraction := magnitude % normal
  let significand := if exponent = 0 then fraction else normal + fraction
  let step := Nat.pow 2 (exponent - 1)
  { unit := 4 * Nat.pow 2 f.scale
    centre := 4 * significand * step
    below := if fraction = 0 ∧ 1 < exponent then step else 2 * step
    above := 2 * step
    closed := significand % 2 = 0 }

namespace Neighbourhood

/-- The centre lies from `10 ^ (places - 1)` up to `10 ^ places`. -/
def places (i : Neighbourhood) : Int :=
  if i.unit ≤ i.centre then (Nat.toDigits 10 (i.centre / i.unit)).length
  else 1 - (Nat.toDigits 10 (i.unit / i.centre)).length

/-- The multiple of `10 ^ exponent` nearest to the centre, if it lies in the neighbourhood. Only the
two multiples around the centre can be meant; of two at the same distance the larger is taken. A
result that ends in a zero is written with the next power of ten. -/
def hit? (i : Neighbourhood) (exponent : Int) : Option Decimal :=
  let up := Nat.pow 10 exponent.toNat
  let down := Nat.pow 10 (-exponent).toNat
  let grid := up * i.unit
  let lower := i.centre * down / grid
  let inside (ahead reach : Nat) : Bool := if i.closed then ahead ≤ reach else ahead < reach
  let toLower := i.centre * down % grid
  let toUpper := grid - toLower
  let hitsLower := inside toLower (i.below * down)
  let hitsUpper := inside toUpper (i.above * down)
  let digits? :=
    if hitsLower && (! hitsUpper || toLower < toUpper) then some lower
    else if hitsUpper then some (lower + 1)
    else none
  digits?.map fun digits =>
    if digits % 10 = 0 then ⟨digits / 10, exponent + 1⟩ else ⟨digits, exponent⟩

/-- Seventeen digits tell any two values of the formats in use apart. -/
def digitLimit : Nat := 17

/-- The centre itself: a binary fraction ends after as many decimal places as binary ones. -/
def exact (i : Neighbourhood) : Decimal :=
  ⟨i.centre * Nat.pow 5 i.unit.log2, -(i.unit.log2 : Int)⟩

def shortest (i : Neighbourhood) : Decimal :=
  let places := i.places
  ((List.range digitLimit).findSome? fun (n : Nat) => i.hit? (places - (n + 1))).getD i.exact

end Neighbourhood

/-- Positional notation, with zeros on either side as needed and no empty side at the point. -/
def Decimal.positional (d : Decimal) : Text :=
  let digits := Text.decimal d.digits
  match d.exponent with
  | .ofNat zeros => digits ++ List.replicate zeros '0'
  | .negSucc n =>
    let padded := List.replicate (n + 2 - digits.length) '0' ++ digits
    let whole := padded.length - (n + 1)
    padded.take whole ++ '.' :: padded.drop whole

/-- The text of an encoding. Zero keeps its sign, NaN has none. -/
def Format.text (f : Format) (bits : Nat) : Text :=
  let magnitude := bits % f.signPlace
  if f.infinity < magnitude then "NaN".toList
  else
    let sign := if f.signPlace ≤ bits then ['-'] else []
    let body :=
      if magnitude = f.infinity then "inf".toList
      else if magnitude = 0 then ['0']
      else (f.neighbourhood magnitude).shortest.positional
    sign ++ body

end Assembler.Floating
