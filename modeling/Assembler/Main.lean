import Assembler.Terminal.Arguments
import Assembler.Terminal.Plain

/-! The command line on real files. A run is decided by `Assembler.Command`; here files are read and
written, and texts printed. -/
namespace Assembler

open Command

/-- The file errors that have a wording of their own; others are reported as the system has them. -/
def fileError : IO.Error → FileError
  | .noFileOrDirectory .. => .missing
  | .permissionDenied .. => .denied
  | .inappropriateType .. => .isFolder
  | error => .other (toString error).toList

def diskFiles : Files IO where
  read path := do
    try
      let bytes ← IO.FS.readBinFile (String.ofList path)
      return .ok bytes.toList
    catch error => return .error (fileError error)
  write path bytes := do
    try
      IO.FS.writeBinFile (String.ofList path) ⟨bytes.toArray⟩
      return .ok ()
    catch error => return .error (fileError error)

def report (outcome : Outcome) : IO UInt32 := do
  for record in outcome.log do
    IO.eprintln (String.ofList (Terminal.logLine record))
  IO.print (String.ofList outcome.output)
  if let some message := outcome.error then
    IO.eprintln (String.ofList ("error: ".toList ++ message))
  return outcome.exitCode.toUInt32

end Assembler

def main (arguments : List String) : IO UInt32 := do
  match Assembler.Terminal.parse (arguments.map String.toList) with
  | .error stop => Assembler.report stop.outcome
  | .ok invocation => Assembler.report (← invocation.run Assembler.diskFiles)
