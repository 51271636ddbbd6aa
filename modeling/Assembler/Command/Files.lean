import Assembler.Bytes

/-! Files as a command sees them. What becomes of a path is up to the system, so reading and writing
are taken as given, in whatever monad the system has its effects. -/
namespace Assembler.Command

inductive FileError where
  | missing
  | notFolder
  | isFolder
  | nameTooLong
  | denied
  | notText
  /-- Anything else that a system may report. -/
  | other (reason : Text)
  deriving DecidableEq

def FileError.message : FileError → Text
  | missing => "No such file or directory (os error 2)".toList
  | notFolder => "Not a directory (os error 20)".toList
  | isFolder => "Is a directory (os error 21)".toList
  | nameTooLong => "File name too long (os error 36)".toList
  | denied => "Permission denied (os error 13)".toList
  | notText => "stream did not contain valid UTF-8".toList
  | other reason => reason

def decodeText (bytes : Bytes) : Except FileError Text :=
  match String.fromUTF8? ⟨bytes.toArray⟩ with
  | some text => .ok text.toList
  | none => .error .notText

/-- What a system does with files. A file is written as a whole, in place of what was there. -/
structure Files (m : Type → Type) where
  read : Text → m (Except FileError Bytes)
  write : Text → Bytes → m (Except FileError Unit)

def Files.readText {m : Type → Type} [Monad m] (files : Files m) (path : Text) :
    m (Except FileError Text) := do
  let contents ← files.read path
  return contents.bind decodeText

end Assembler.Command
