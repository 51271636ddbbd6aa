import Assembler.Floating.Format
import Assembler.Text.Basic

/-! Floating-point literals: an optional sign, then a word for infinity or NaN, or digits with an
optional point and an optional exponent. Some digit has to stand beside the point. -/
namespace Assembler.Floating

def takeSign : Text → Bool × Text
  | '-' :: rest => (true, rest)
  | '+' :: rest => (false, rest)
  | rest => (false, rest)

def takeFraction : Text → Text × Text
  | '.' :: rest => (rest.takeWhile Char.isDigit, rest.dropWhile Char.isDigit)
  | rest => ([], rest)

/-- The end of a literal: nothing, or a complete exponent. -/
def exponent? : Text → Option Int
  | [] => some 0
  | mark :: rest =>
    if mark = 'e' ∨ mark = 'E' then
      let (negative, digits) := takeSign rest
      (Text.number? digits).map fun n => if negative then -(n : Int) else n
    else none

/-- An unsigned literal written with digits. -/
def decimal? (text : Text) : Option Decimal :=
  let whole := text.takeWhile Char.isDigit
  let (fraction, rest) := takeFraction (text.dropWhile Char.isDigit)
  if whole.isEmpty && fraction.isEmpty then none
  else (exponent? rest).map fun e =>
    ⟨Nat.ofDigitChars 10 (whole ++ fraction) 0, e - fraction.length⟩

def Format.magnitude? (f : Format) (text : Text) : Option Nat :=
  let word := Text.upper text
  if word = "INF".toList ∨ word = "INFINITY".toList then some f.infinity
  else if word = "NAN".toList then some f.quietNaN
  else (decimal? text).map f.ofDecimal

def Format.ofLiteral? (f : Format) (text : Text) : Option Nat :=
  let (negative, body) := takeSign text
  (f.magnitude? body).map fun magnitude => if negative then f.signPlace + magnitude else magnitude

end Assembler.Floating
