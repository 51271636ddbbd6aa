import Assembler.Program
import Assembler.Resource

/-! Statements of the source language and what each of them means by itself. -/
namespace Assembler

/-- What a significant line says. The end of the source inside a resource block counts as one more
statement, at the line that opened the block. -/
inductive Statement where
  | directive (body : Text)
  | opener
  /-- The text without leading blanks and without its comment. -/
  | instruction (text : Text)
  | entry (text : Text)
  | closer
  | unclosed
  deriving DecidableEq

/-- What a statement does when it is accepted. -/
inductive Effect where
  | assign (field : Field) (text : Text)
  | tolerate (on : Bool)
  | openBlock
  | closeBlock
  | store (bytes : Bytes)
  | emit (instruction : Instruction)
  deriving DecidableEq

namespace Statement

/-- The effect of a directive, by its key in upper case. -/
def directiveEffect? (key value : Text) : Option Effect :=
  if key = "TITLE".toList then some (.assign .title value)
  else if key = "AUTHOR".toList then some (.assign .author value)
  else if key = "VERSION".toList then some (.assign .version value)
  else if key = "DESCRIPTION".toList then some (.assign .description value)
  else if key = "IGNORE_COMPILER_ERRORS".toList ∨ key = "IGNORECOMPILERERRORS".toList then
    some (.tolerate true)
  else if key = "ENABLE_COMPILER_ERRORS".toList ∨ key = "ENABLECOMPILERERRORS".toList then
    some (.tolerate false)
  else none

/-- A directive is a key, a colon and a value. The first colon divides them, the value loses its
leading blanks only, and without a colon it is empty. -/
def readDirective (body : Text) : Except Fault Effect :=
  let (left, right) := (Text.cutAt? (· == ':') body).getD (body, [])
  let key := Text.trim left
  match directiveEffect? (Text.upper key) (Text.trimStart right) with
  | some effect => .ok effect
  | none => .error (.unknownDirective key)

def literals (text : Text) : List Text :=
  if text.isEmpty then [] else text.splitOn ','

/-- An instruction is a mnemonic, a blank and the literals. -/
def readInstruction (text : Text) : Except Fault Instruction :=
  let trimmed := Text.trim text
  let (word, rest) := (Text.cutAt? Text.isBlank trimmed).getD (trimmed, [])
  match Opcode.ofMnemonic? word with
  | none => .error (.unknownMnemonic word)
  | some opcode => Instruction.encode opcode (literals (Text.trim rest))

def meaning (joinColons : Bool) : Statement → Except Fault Effect
  | directive body => readDirective body
  | opener => .ok .openBlock
  | instruction text => (readInstruction text).map .emit
  | entry text => (Resource.parse joinColons text).map .store
  | closer => .ok .closeBlock
  | unclosed => .error .unclosedBlock

end Statement
end Assembler
