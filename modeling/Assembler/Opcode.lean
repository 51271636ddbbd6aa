import Assembler.Scalar.Kind

/-! The instruction set: a table whose order fixes the codes. An opcode is a position in it. -/
namespace Assembler

/-- An operation of the machine. The name shows its parts by capitals; source text has it in lower
case. -/
structure Operation where
  name : String
  operands : List ScalarKind
  deriving DecidableEq

/-- Every operation, at the position that is its code in an image. -/
def instructionSet : Array Operation :=
  #[⟨"Syscall", [.uint16]⟩, ⟨"Var", [.uint32]⟩, ⟨"SubVar", [.uint32]⟩, ⟨"AddVar", [.uint32]⟩,
    ⟨"MulVar", [.uint32]⟩, ⟨"DivVar", [.uint32]⟩, ⟨"SetVar", [.uint32]⟩, ⟨"SetAcc", [.uint32]⟩,
    ⟨"SubAcc", [.uint32]⟩, ⟨"AddAcc", [.uint32]⟩, ⟨"MulAcc", [.uint32]⟩, ⟨"DivAcc", [.uint32]⟩,
    ⟨"Jmp", []⟩, ⟨"JmpVar", [.uint32]⟩, ⟨"DelVar", [.uint32]⟩, ⟨"JmpEqu", [.uint32, .uint32]⟩,
    ⟨"JmpNeq", [.uint32, .uint32]⟩, ⟨"JmpG", [.uint32, .uint32]⟩, ⟨"JmpGe", [.uint32, .uint32]⟩,
    ⟨"JmpL", [.uint32, .uint32]⟩, ⟨"JmpLe", [.uint32, .uint32]⟩,
    ⟨"JmpEquVar", [.uint32, .uint32, .uint32]⟩, ⟨"JmpNeqVar", [.uint32, .uint32, .uint32]⟩,
    ⟨"JmpGVar", [.uint32, .uint32, .uint32]⟩, ⟨"JmpGeVar", [.uint32, .uint32, .uint32]⟩,
    ⟨"JmpLVar", [.uint32, .uint32, .uint32]⟩, ⟨"JmpLeVar", [.uint32, .uint32, .uint32]⟩,
    ⟨"Inc", []⟩, ⟨"IncVar", [.uint32]⟩, ⟨"Dec", []⟩, ⟨"DecVar", [.uint32]⟩,
    ⟨"VarCpy", [.uint32, .uint32]⟩, ⟨"Noop", []⟩, ⟨"AndVar", [.uint32, .uint32]⟩,
    ⟨"And", [.uint32]⟩, ⟨"AndAccVar", []⟩, ⟨"OrVar", [.uint32, .uint32]⟩, ⟨"Or", [.uint32]⟩,
    ⟨"OrAccVar", []⟩, ⟨"XorVar", [.uint32, .uint32]⟩, ⟨"Xor", [.uint32]⟩, ⟨"XorAccVar", []⟩,
    ⟨"LShiftVar", [.uint32, .uint32]⟩, ⟨"LShift", [.uint32]⟩, ⟨"LShiftAccVar", [.uint32]⟩,
    ⟨"RShiftVar", [.uint32, .uint32]⟩, ⟨"RShift", [.uint32]⟩, ⟨"RShiftAccVar", [.uint32]⟩,
    ⟨"NotVar", [.uint32, .uint32]⟩, ⟨"Not", [.uint32]⟩, ⟨"NotAccVar", [.uint32]⟩,
    ⟨"SyscallRet", [.uint16, .uint32]⟩, ⟨"SyscallAcc", [.uint16]⟩, ⟨"Wait", []⟩,
    ⟨"WaitVar", [.uint32]⟩, ⟨"End", []⟩, ⟨"EndEqu", [.uint32]⟩, ⟨"EndNeq", [.uint32]⟩,
    ⟨"EndG", [.uint32]⟩, ⟨"EndGe", [.uint32]⟩, ⟨"EndL", [.uint32]⟩, ⟨"EndLe", [.uint32]⟩,
    ⟨"EndEquVar", [.uint32, .uint32]⟩, ⟨"EndNeqVar", [.uint32, .uint32]⟩,
    ⟨"EndGVar", [.uint32, .uint32]⟩, ⟨"EndGeVar", [.uint32, .uint32]⟩,
    ⟨"EndLVar", [.uint32, .uint32]⟩, ⟨"EndLeVar", [.uint32, .uint32]⟩, ⟨"Mod", [.uint32, .uint32]⟩,
    ⟨"ModVar", [.uint32, .uint32, .uint32]⟩, ⟨"ModAcc", [.uint32, .uint32]⟩,
    ⟨"ModAccO", [.uint32]⟩, ⟨"SyscallVar", [.uint32]⟩, ⟨"ScaAppend", [.uint32]⟩,
    ⟨"ScaAppendAcc", []⟩, ⟨"ScaClear", []⟩, ⟨"VarAppend", [.uint32]⟩, ⟨"ChangeAcc", [.byte]⟩,
    ⟨"ChangeVar", [.byte]⟩, ⟨"VarAppendB", [.byte]⟩, ⟨"AppendAcc", [.uint32]⟩,
    ⟨"AppendAccVar", [.uint32]⟩, ⟨"VarAppendAcc", [.uint32]⟩, ⟨"PopStack", []⟩, ⟨"PushStack", []⟩,
    ⟨"PopStackVar", [.uint32]⟩, ⟨"PushStackVar", [.uint32]⟩, ⟨"InitStack", []⟩,
    ⟨"UnloadStack", []⟩, ⟨"DelayJmp", []⟩, ⟨"DelayJmpVar", [.uint32]⟩, ⟨"Lipk", []⟩,
    ⟨"LipkVar", [.uint32]⟩, ⟨"Prev", []⟩, ⟨"Back", []⟩, ⟨"BackVar", [.uint32]⟩,
    ⟨"SetAccByte", [.uint16, .byte]⟩, ⟨"SetAccByteVar", [.uint32, .uint32]⟩,
    ⟨"SetVarByte", [.uint16, .byte]⟩, ⟨"SetVarByteVar", [.uint32, .uint32]⟩,
    ⟨"SetByteConstPos", [.uint16, .uint32]⟩, ⟨"SetByteConstVal", [.uint32, .byte]⟩,
    ⟨"ResetAcc", []⟩, ⟨"TrimAcc", [.uint16]⟩, ⟨"TrimAccVar", [.uint32]⟩, ⟨"SkipAcc", [.uint16]⟩,
    ⟨"SkipAccVar", [.uint32]⟩, ⟨"TrimVar", [.uint16]⟩, ⟨"TrimVarVar", [.uint32]⟩,
    ⟨"SkipVar", [.uint16]⟩, ⟨"SkipVarVar", [.uint32]⟩, ⟨"LoadRes", [.uint16]⟩,
    ⟨"LoadResVar", [.uint16, .uint32]⟩, ⟨"F2xm1", [.uint32]⟩, ⟨"F2xm1Var", [.uint32, .uint32]⟩,
    ⟨"F2xm1Acc", [.uint32]⟩, ⟨"FAbs", [.uint32]⟩, ⟨"FAbsVar", [.uint32, .uint32]⟩,
    ⟨"FAbsAcc", [.uint32]⟩, ⟨"FRndInt", [.uint32]⟩, ⟨"FRndIntVar", [.uint32, .uint32]⟩,
    ⟨"FRndIntAcc", [.uint32]⟩, ⟨"FAdd", [.uint32]⟩, ⟨"FSub", [.uint32]⟩, ⟨"FMul", [.uint32]⟩,
    ⟨"FDiv", [.uint32]⟩, ⟨"FSqrt", [.uint32]⟩, ⟨"FChs", [.uint32]⟩, ⟨"FChsCpy", [.uint32]⟩,
    ⟨"FTan", [.uint32]⟩, ⟨"FPatan", [.uint32]⟩, ⟨"FJmpEqu", [.uint32, .uint32, .uint32]⟩,
    ⟨"FJmpNeq", [.uint32, .uint32, .uint32]⟩, ⟨"FJmpG", [.uint32, .uint32, .uint32]⟩,
    ⟨"FJmpGe", [.uint32, .uint32, .uint32]⟩, ⟨"FJmpL", [.uint32, .uint32, .uint32]⟩,
    ⟨"FJmpLe", [.uint32, .uint32, .uint32]⟩, ⟨"FJmpEquVar", [.uint32, .uint32, .uint32]⟩,
    ⟨"FJmpNeqVar", [.uint32, .uint32, .uint32]⟩, ⟨"FJmpGVar", [.uint32, .uint32, .uint32]⟩,
    ⟨"FJmpGeVar", [.uint32, .uint32, .uint32]⟩, ⟨"FJmpLVar", [.uint32, .uint32, .uint32]⟩,
    ⟨"FJmpLeVar", [.uint32, .uint32, .uint32]⟩]

structure Opcode where
  index : Fin instructionSet.size
  deriving DecidableEq

namespace Opcode

def operation (opcode : Opcode) : Operation :=
  instructionSet[opcode.index]

def operands (opcode : Opcode) : List ScalarKind :=
  opcode.operation.operands

/-- The size in bytes of the operands. -/
def width (opcode : Opcode) : Nat :=
  ScalarKind.totalWidth opcode.operands

def mnemonic (opcode : Opcode) : Text :=
  Text.lower opcode.operation.name.toList

/-- The byte that stands for an opcode in an image. -/
def code (opcode : Opcode) : UInt8 :=
  UInt8.ofNat opcode.index

def all : List Opcode :=
  (List.finRange instructionSet.size).map mk

def ofCode? (code : UInt8) : Option Opcode :=
  if h : code.toNat < instructionSet.size then some ⟨⟨code.toNat, h⟩⟩ else none

def dictionary : List (Text × Opcode) :=
  all.map fun opcode => (opcode.mnemonic, opcode)

/-- Mnemonics are recognised in lower case only. -/
def ofMnemonic? (word : Text) : Option Opcode :=
  dictionary.lookup word

end Opcode
end Assembler
