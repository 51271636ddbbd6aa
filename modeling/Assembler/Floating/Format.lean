/-! Binary floating-point formats and rounding into them, in exact natural-number arithmetic.

The encoding of a magnitude is its exponent field and fraction field read as one number. In that
reading the encodings are ordered like the magnitudes, so a carry out of the fraction and the step
from the largest finite value to infinity need no case of their own. -/
namespace Assembler.Floating

structure Format where
  exponentBits : Nat
  fractionBits : Nat
  deriving DecidableEq

def binary32 : Format := ⟨8, 23⟩
def binary64 : Format := ⟨11, 52⟩

/-- The number `digits * 10 ^ exponent`. -/
structure Decimal where
  digits : Nat
  exponent : Int
  deriving DecidableEq

/-- The integer nearest to `num / den`; of two nearest ones the even one. -/
def roundQuotient (num den : Nat) : Nat :=
  let quotient := num / den
  let twice := 2 * (num % den)
  if twice < den ∨ (twice = den ∧ quotient % 2 = 0) then quotient else quotient + 1

namespace Format

/-- The encoding that has only the sign bit set. -/
def signPlace (f : Format) : Nat :=
  Nat.pow 2 (f.exponentBits + f.fractionBits)

def infinity (f : Format) : Nat :=
  (Nat.pow 2 f.exponentBits - 1) * Nat.pow 2 f.fractionBits

/-- The quiet NaN without a payload. -/
def quietNaN (f : Format) : Nat :=
  f.infinity + Nat.pow 2 (f.fractionBits - 1)

def bias (f : Format) : Nat :=
  Nat.pow 2 (f.exponentBits - 1) - 1

/-- Every finite magnitude is a multiple of `1 / 2 ^ scale`, the least positive one. -/
def scale (f : Format) : Nat :=
  f.bias - 1 + f.fractionBits

/-- The encoding of the magnitude nearest to `num / den`; a half goes to the even significand. The
quotient is taken in steps of `2 ^ shift`, the spacing of the format around it. -/
def round (f : Format) (num den : Nat) : Nat :=
  let scaled := num * Nat.pow 2 f.scale
  let shift := Nat.log2 (scaled / den) - f.fractionBits
  min f.infinity
    (shift * Nat.pow 2 f.fractionBits + roundQuotient scaled (den * Nat.pow 2 shift))

/-- A number from `10 ^ reach` on rounds to infinity, one up to `10 ^ (-reach)` to zero: already
the powers of two with these exponents do. -/
def reach (f : Format) : Nat :=
  f.bias + f.fractionBits + 1

/-- The encoding of the magnitude nearest to a decimal number. Exponents out of reach are settled
without raising ten to them. -/
def ofDecimal (f : Format) (d : Decimal) : Nat :=
  let places : Int := (Nat.toDigits 10 d.digits).length + d.exponent
  if d.digits = 0 ∨ places ≤ -f.reach then 0
  else if f.reach < places then f.infinity
  else match d.exponent with
    | .ofNat e => f.round (d.digits * Nat.pow 10 e) 1
    | .negSucc e => f.round d.digits (Nat.pow 10 (e + 1))

end Format
end Assembler.Floating
