import Assembler.Source.Statement

/-! From lines to statements. Which statement a line is depends on the marks in use and on whether a
resource block is open, and on nothing else: faults do not change how later lines are read. -/
namespace Assembler

structure Settings where
  /-- Starts a comment; an empty mark starts none. -/
  commentMark : Text := "//".toList
  /-- Starts a directive; an empty mark starts none. -/
  directiveMark : Text := "#".toList
  tolerant : Bool := false
  /-- Whether the colons inside string resources are dropped. -/
  joinColons : Bool := false
  deriving DecidableEq

namespace Statement

/-- A line without its leading blanks and its comment, if more than blanks is left. -/
def clean? (commentMark line : Text) : Option Text :=
  let start := Text.trimStart line
  let text := if commentMark.isEmpty then start else Text.before commentMark start
  if text.all Text.isBlank then none else some text

def directiveBody? (directiveMark text : Text) : Option Text :=
  if ! directiveMark.isEmpty && directiveMark.isPrefixOf text then
    some (text.drop directiveMark.length)
  else none

/-- A line opens a block if it starts with the keyword, whatever follows. -/
def opensBlock (text : Text) : Bool :=
  Text.upper (text.take 9) = "RESOURCES".toList

def closesBlock (text : Text) : Bool :=
  Text.upper (Text.trim text) = "END".toList

def isComment (commentMark text : Text) : Bool :=
  ! commentMark.isEmpty && commentMark.isPrefixOf text

def outside? (settings : Settings) (line : Text) : Option Statement :=
  (clean? settings.commentMark line).map fun text =>
    match directiveBody? settings.directiveMark text with
    | some body => directive body
    | none => if opensBlock text then opener else instruction text

/-- The statement on a line inside a block. A comment mark further on in the line belongs to the
entry. -/
def inside? (settings : Settings) (line : Text) : Option Statement :=
  let text := Text.trimStart line
  if text.isEmpty || isComment settings.commentMark text then none
  else if closesBlock text then some closer
  else some (entry text)

end Statement

structure NumberedStatement where
  line : Nat
  statement : Statement
  deriving DecidableEq

/-- How far the lines have been read. -/
structure Scan where
  next : Nat := 0
  /-- The line that opened the block in progress. -/
  block : Option Nat := none
  found : List NumberedStatement := []

namespace Scan

def statement? (settings : Settings) (scan : Scan) (line : Text) : Option Statement :=
  if scan.block.isSome then Statement.inside? settings line else Statement.outside? settings line

def read (settings : Settings) (scan : Scan) (line : Text) : Scan :=
  let next := scan.next + 1
  match scan.statement? settings line with
  | none => { scan with next }
  | some statement =>
    let found := ⟨scan.next, statement⟩ :: scan.found
    match statement with
    | .opener => { next, found, block := some scan.next }
    | .closer => { next, found, block := none }
    | _ => { next, found, block := scan.block }

/-- All statements in order, with the one for a block that is still open. -/
def finish (scan : Scan) : List NumberedStatement :=
  match scan.block with
  | none => scan.found.reverse
  | some opener => (⟨opener, .unclosed⟩ :: scan.found).reverse

end Scan

structure Step where
  line : Nat
  statement : Statement
  outcome : Except Fault Effect

namespace Source

def statements (settings : Settings) (lines : List Text) : List NumberedStatement :=
  (lines.foldl (Scan.read settings) {}).finish

/-- The steps of a compilation in the order in which they are taken. -/
def trace (settings : Settings) (lines : List Text) : List Step :=
  (statements settings lines).map fun numbered =>
    ⟨numbered.line, numbered.statement, numbered.statement.meaning settings.joinColons⟩

end Source
end Assembler
