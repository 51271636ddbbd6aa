import Assembler.Literal
import Assembler.Opcode

/-! What can be wrong with one line of source, and the wording of it. -/
namespace Assembler

inductive Fault where
  | unknownDirective (key : Text)
  | unknownMnemonic (word : Text)
  /-- An operation stands with another number of literals than it has operands. -/
  | literalCount (opcode : Opcode) (found : Nat)
  | badLiteral (bad : BadLiteral)
  | noSeparator (entry : Text)
  | unknownResourceKind (word : Text)
  | unclosedBlock
  deriving DecidableEq

def Fault.message : Fault → Text
  | unknownDirective key => "metadata entry \"".toList ++ key ++ "\" is invalid".toList
  | unknownMnemonic word => "op-code \"".toList ++ word ++ "\" not recognized".toList
  | literalCount opcode found =>
    "the opcode ".toList ++ opcode.mnemonic ++ " requires ".toList
      ++ Text.decimal opcode.operands.length ++ " arguments, while ".toList
      ++ Text.decimal found ++ " were provided".toList
  | badLiteral bad => bad.message
  | noSeparator entry =>
    "invalid resource entry: \"".toList ++ entry ++ "\" has no type separator".toList
  | unknownResourceKind word =>
    "invalid resource entry: unknown resource type \"".toList ++ word ++ "\"".toList
  | unclosedBlock => "invalid resource entry: resource block is missing END".toList

/-- A fault at a line. Lines are counted from zero. -/
structure SourceError where
  line : Nat
  fault : Fault
  deriving DecidableEq

def SourceError.message (error : SourceError) : Text :=
  error.fault.message ++ " (line ".toList ++ Text.decimal error.line ++ ")".toList

end Assembler
