import Assembler.Log

/-! Plain text: what is left of a text once the control sequences of terminals are taken out.

A sequence starts with an escape character. What follows decides its kind, and the kind decides
where it ends. Of the control characters outside of sequences, only those that are blank are
kept. -/
namespace Assembler.Terminal

/-- Where a reader of control sequences stands. Device control strings, operating system commands
and the bodies of all other strings are read up to their ends. -/
inductive ControlState where
  | ground | escape | intermediate | parameters | device | deviceParameters | deviceIntermediate
  | command | body
  deriving DecidableEq

namespace ControlState

def afterEscape (code : Nat) : ControlState :=
  if code < 0x30 then intermediate
  else if code = 0x5B then parameters
  else if code = 0x5D then command
  else if code = 0x50 then device
  else if code = 0x58 ∨ code = 0x5E ∨ code = 0x5F then body
  else ground

/-- The state after a printable ASCII character. A device control string whose start is malformed is
swallowed like one that is not. -/
def afterPrintable (code : Nat) : ControlState → ControlState
  | ground => ground
  | escape => afterEscape code
  | intermediate => if code < 0x30 then intermediate else ground
  | parameters => if code < 0x40 then parameters else ground
  | device =>
    if code < 0x30 then deviceIntermediate else if code < 0x40 then deviceParameters else body
  | deviceParameters =>
    if code < 0x30 then deviceIntermediate else if code < 0x3C then deviceParameters else body
  | deviceIntermediate => if code < 0x30 then deviceIntermediate else body
  | command => command
  | body => body

def afterControl (code : Nat) (state : ControlState) : ControlState :=
  -- Escape starts a new sequence anywhere, cancel and substitute end one, and a bell ends a command.
  if code = 0x1B then escape
  else if code = 0x18 ∨ code = 0x1A then ground
  else if code = 0x07 ∧ state = command then ground
  else state

def passesBlanks : ControlState → Bool
  | ground | escape | intermediate | parameters => true
  | device | deviceParameters | deviceIntermediate | command | body => false

/-- The state after a character outside ASCII, read byte by byte. -/
def afterWide (c : Char) : ControlState → ControlState
  | body => if (String.utf8EncodeChar c).contains 0x9C then ground else body
  | state => state

end ControlState

def isBlankControl (c : Char) : Bool :=
  c == '\t' || c == '\n' || c == '\x0c' || c == '\r'

/-- How far a text has been made plain. Once a character is shown, the ones behind it are shown too,
whatever the state, up to the next control character. -/
structure Plain where
  state : ControlState := .ground
  showing : Bool := false
  -- The latest character comes first.
  shown : Text := []

namespace Plain

def keep (plain : Plain) (c : Char) (state : ControlState) : Plain :=
  { state, showing := true, shown := c :: plain.shown }

def drop (plain : Plain) (state : ControlState) : Plain :=
  { plain with state, showing := false }

def shows (plain : Plain) (c : Char) : Bool :=
  if isBlankControl c then plain.showing || plain.state.passesBlanks
  else if c.toNat < 0x20 || c.toNat = 0x7F then false
  else plain.showing || plain.state == .ground

def read (plain : Plain) (c : Char) : Plain :=
  let isShown := plain.shows c
  if 0x80 ≤ c.toNat then
    if isShown then plain.keep c .ground else plain.drop (plain.state.afterWide c)
  else if isShown then plain.keep c plain.state
  else if c.toNat < 0x20 then plain.drop (plain.state.afterControl c.toNat)
  else if c.toNat = 0x7F then plain.drop plain.state
  else plain.drop (plain.state.afterPrintable c.toNat)

end Plain

/-- A text without control sequences and control characters. -/
def plain (text : Text) : Text :=
  (text.foldl Plain.read {}).shown.reverse

def logLine (record : Record) : Text :=
  plain record.line

end Assembler.Terminal
