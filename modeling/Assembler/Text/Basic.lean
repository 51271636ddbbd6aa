/-! Text as a list of characters, with the operations the source format is made of: blank
characters, trimming, cutting at a mark, splitting into lines. Letter case is folded for ASCII
letters only, so `Char.toUpper` is the right map. -/
namespace Assembler

abbrev Text := List Char

namespace Text

/-- The Unicode property White_Space. The information separators U+001C to U+001F and the
zero-width characters do not have it. -/
def blankRanges : List (Nat × Nat) :=
  [(0x9, 0xD), (0x20, 0x20), (0x85, 0x85), (0xA0, 0xA0), (0x1680, 0x1680), (0x2000, 0x200A),
   (0x2028, 0x2029), (0x202F, 0x202F), (0x205F, 0x205F), (0x3000, 0x3000)]

def within (ranges : List (Nat × Nat)) (c : Char) : Bool :=
  ranges.any fun range => range.1 ≤ c.toNat && c.toNat ≤ range.2

def isBlank (c : Char) : Bool :=
  within blankRanges c

def trimStart (text : Text) : Text :=
  text.dropWhile isBlank

def trimEnd (text : Text) : Text :=
  (text.reverse.dropWhile isBlank).reverse

def trim (text : Text) : Text :=
  trimEnd (trimStart text)

def upper (text : Text) : Text :=
  text.map Char.toUpper

def lower (text : Text) : Text :=
  text.map Char.toLower

/-- The two sides of the first character that satisfies `p`, without it. -/
def cutAt? (p : Char → Bool) (text : Text) : Option (Text × Text) :=
  match text.dropWhile (! p ·) with
  | [] => none
  | _ :: rest => some (text.takeWhile (! p ·), rest)

/-- The part before the first occurrence of `mark`. The part read so far is kept in reverse, so
that a long line needs no stack. -/
def before (mark text : Text) : Text :=
  scan text []
where
  scan : Text → Text → Text
    | [], seen => seen.reverse
    | c :: rest, seen =>
      if mark.isPrefixOf (c :: rest) then seen.reverse else scan rest (c :: seen)

/-- Whether `mark` occurs anywhere. -/
def occurs (mark : Text) : Text → Bool
  | [] => mark.isEmpty
  | c :: rest => mark.isPrefixOf (c :: rest) || occurs mark rest

/-- Drops one carriage return from the end of a line. -/
def dropReturn (line : Text) : Text :=
  if line.getLast? = some '\r' then line.dropLast else line

/-- The lines of a text. A line ends at a line feed, together with a carriage return right before
it. What follows the last line feed is a line of its own unless it is empty, and keeps its
carriage return. -/
def lines (text : Text) : List Text :=
  let parts := text.splitOn '\n'
  let terminated := parts.dropLast.map dropReturn
  match parts.getLast? with
  | some (c :: rest) => terminated ++ [c :: rest]
  | _ => terminated

/-- The decimal digits of a number, without leading zeros. -/
def decimal (n : Nat) : Text :=
  Nat.toDigits 10 n

/-- A number written with one or more ASCII digits; leading zeros are allowed. -/
def number? (text : Text) : Option Nat :=
  if text.isEmpty || ! text.all Char.isDigit then none else some (Nat.ofDigitChars 10 text 0)

/-- The two upper-case hexadecimal digits of a byte. -/
def hexByte (b : UInt8) : Text :=
  [Nat.digitChar (b.toNat / 16), Nat.digitChar (b.toNat % 16)].map Char.toUpper

end Text
end Assembler
