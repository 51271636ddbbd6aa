import Assembler.Fault
import Assembler.Text.Quoted

/-! The log: what is recorded while sources are compiled, images written and read, and commands run.
Records are data; their wording stands here alone. -/
namespace Assembler

inductive Level where
  | debug | info | warn
  deriving DecidableEq

def Level.name : Level → Text
  | debug => "DEBUG".toList
  | info => "INFO".toList
  | warn => "WARN".toList

inductive Record where
  | compiling (tolerant : Bool)
  | directiveLine (line : Nat) (body : Text)
  | instructionLine (line : Nat) (text : Text)
  | blockOpened (line : Nat)
  | blockClosed (line : Nat)
  | resourceStored (line id size : Nat)
  | toleranceSet (tolerant : Bool)
  | errorIgnored (error : SourceError)
  | compiled (instructions resources ignored : Nat)
  | imageWritten (resources instructions : Nat)
  | legacyVersion (declared : Nat)
  | inputPath (path : Text)
  | outputPath (path : Text)
  | linesSkipped (count : Nat)
  | commandDone (path : Text) (size : Nat)
  deriving DecidableEq

namespace Record

def level : Record → Level
  | compiling _ | compiled .. | inputPath _ | outputPath _ | commandDone .. => .info
  | toleranceSet _ | errorIgnored _ | linesSkipped _ => .warn
  | directiveLine .. | instructionLine .. | blockOpened _ | blockClosed _ | resourceStored ..
  | imageWritten .. | legacyVersion _ => .debug

def atLine (line : Nat) (rest : Text) : Text :=
  "line ".toList ++ Text.decimal line ++ ": ".toList ++ rest

def message : Record → Text
  | compiling tolerant =>
    "compiling (ignore errors: ".toList ++ (if tolerant then "true)" else "false)").toList
  | directiveLine line body => atLine line ("metadata ".toList ++ Text.quoted body)
  | instructionLine line text => atLine line (Text.quoted text)
  | blockOpened line => atLine line "resource block opened".toList
  | blockClosed line => atLine line "resource block closed".toList
  | resourceStored line id size =>
    atLine line ("resource #".toList ++ Text.decimal id ++ " (".toList ++ Text.decimal size
      ++ " bytes)".toList)
  | toleranceSet true => "compiler errors will now be ignored".toList
  | toleranceSet false => "compiler errors are no longer ignored".toList
  | errorIgnored error => "ignoring error: ".toList ++ error.message
  | compiled instructions resources ignored =>
    "compiled ".toList ++ Text.decimal instructions ++ " instructions, ".toList
      ++ Text.decimal resources ++ " resources, ".toList ++ Text.decimal ignored
      ++ " errors ignored".toList
  | imageWritten resources instructions =>
    "image written: ".toList ++ Text.decimal resources ++ " resources, ".toList
      ++ Text.decimal instructions ++ " instructions".toList
  | legacyVersion declared =>
    "legacy version slot, declared length ".toList ++ Text.decimal declared
  | inputPath path => "input: ".toList ++ path
  | outputPath path => "output: ".toList ++ path
  | linesSkipped count => Text.decimal count ++ " lines skipped".toList
  | commandDone path size =>
    "compiled ".toList ++ path ++ " (".toList ++ Text.decimal size ++ " bytes)".toList

/-- A record as one line: its level and its message. -/
def line (record : Record) : Text :=
  record.level.name ++ ' ' :: record.message

end Record
end Assembler
