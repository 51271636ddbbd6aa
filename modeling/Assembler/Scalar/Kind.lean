import Assembler.Floating.Format
import Assembler.Text.Basic

/-! The kinds of scalar that an operand or a resource can be. -/
namespace Assembler

inductive ScalarKind where
  | uint32 | uint16 | byte | int32 | int16 | char | widechar | float32 | float64 | int64 | uint64
  deriving DecidableEq

/-- How the bits of a scalar are read. -/
inductive ScalarForm where
  | unsigned
  | signed
  | character
  | floating (format : Floating.Format)
  deriving DecidableEq

namespace ScalarKind

def all : List ScalarKind :=
  [uint32, uint16, byte, int32, int16, char, widechar, float32, float64, int64, uint64]

/-- The size in bytes. -/
def width : ScalarKind → Nat
  | byte | char => 1
  | int16 | uint16 | widechar => 2
  | int32 | uint32 | float32 => 4
  | int64 | uint64 | float64 => 8

def form : ScalarKind → ScalarForm
  | uint32 | uint16 | byte | uint64 => .unsigned
  | int32 | int16 | int64 => .signed
  | char | widechar => .character
  | float32 => .floating Floating.binary32
  | float64 => .floating Floating.binary64

def name : ScalarKind → Text
  | uint32 => "uint32".toList
  | uint16 => "uint16".toList
  | byte => "byte".toList
  | int32 => "int32".toList
  | int16 => "int16".toList
  | char => "char".toList
  | widechar => "widechar".toList
  | float32 => "float32".toList
  | float64 => "float64".toList
  | int64 => "int64".toList
  | uint64 => "uint64".toList

/-- The size in bytes of scalars that stand one after another. -/
def totalWidth (kinds : List ScalarKind) : Nat :=
  kinds.foldr (fun kind total => kind.width + total) 0

end ScalarKind
end Assembler
