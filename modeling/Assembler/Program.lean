import Assembler.Instruction

/-! Programs: metadata, resources and instructions. A resource is known by its position. -/
namespace Assembler

/-- The pieces of metadata. -/
inductive Field where
  | title | author | version | description | copyright
  deriving DecidableEq

def Field.name : Field → Text
  | title => "title".toList
  | author => "author".toList
  | version => "version".toList
  | description => "description".toList
  | copyright => "copyright".toList

structure Program where
  title : Text := []
  author : Text := []
  version : Text := []
  description : Text := []
  copyright : Text := []
  resources : List Bytes := []
  instructions : List Instruction := []
  deriving DecidableEq

namespace Program

def get (program : Program) : Field → Text
  | .title => program.title
  | .author => program.author
  | .version => program.version
  | .description => program.description
  | .copyright => program.copyright

def set (program : Program) (field : Field) (text : Text) : Program :=
  match field with
  | .title => { program with title := text }
  | .author => { program with author := text }
  | .version => { program with version := text }
  | .description => { program with description := text }
  | .copyright => { program with copyright := text }

end Program
end Assembler
