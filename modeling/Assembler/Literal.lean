import Assembler.Scalar.Kind

/-! The refusal of a literal: its text as it was written, blanks included, and what it had to be. -/
namespace Assembler

/-- What a literal had to be. -/
inductive Expectation where
  | scalar (kind : ScalarKind)
  | binaryByte
  | asciiString
  deriving DecidableEq

def Expectation.name : Expectation → Text
  | .scalar kind => kind.name
  | .binaryByte => "binary byte".toList
  | .asciiString => "ascii string".toList

structure BadLiteral where
  literal : Text
  expected : Expectation
  deriving DecidableEq

def BadLiteral.message (bad : BadLiteral) : Text :=
  '"' :: bad.literal ++ "\" is not a valid ".toList ++ bad.expected.name

end Assembler
