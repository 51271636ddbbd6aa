import Assembler.Command.Run

/-! The arguments of the command line.

An option has a word, and some have a letter. A value follows as the next argument, after an equals
sign, or right behind the letter; letters without a value can be bundled. No option may be given
twice, there are no other arguments, and a value that is an argument of its own does not start with
a dash, unless the dash is all of it. -/
namespace Assembler.Terminal

open Command (Invocation Outcome)

/-- Options with a value. -/
inductive Key where
  | input | output | commentMark | directiveMark | copyright
  deriving DecidableEq

/-- Options without a value. -/
inductive Switch where
  | verbose | ignoreErrors | plainVersion | joinColons | listing | help | version
  deriving DecidableEq

inductive Choice where
  | key (key : Key)
  | switch (switch : Switch)
  deriving DecidableEq

def Choice.ofLetter? : Char → Option Choice
  | 'i' => some (.key .input)
  | 'o' => some (.key .output)
  | 'c' => some (.key .commentMark)
  | 'm' => some (.key .directiveMark)
  | 'v' => some (.switch .verbose)
  | 'h' => some (.switch .help)
  | 'V' => some (.switch .version)
  | _ => none

def Choice.words : List (Text × Choice) :=
  [("input".toList, .key .input),
   ("output".toList, .key .output),
   ("comment-prefix".toList, .key .commentMark),
   ("metadata-prefix".toList, .key .directiveMark),
   ("copyright".toList, .key .copyright),
   ("verbose".toList, .switch .verbose),
   ("ignore-errors".toList, .switch .ignoreErrors),
   ("fix-version-field".toList, .switch .plainVersion),
   ("join-string-colons".toList, .switch .joinColons),
   ("disasm".toList, .switch .listing),
   ("help".toList, .switch .help),
   ("version".toList, .switch .version)]

/-- Why arguments do not lead to a run. -/
inductive Stop where
  | misuse | help | version
  deriving DecidableEq

/-- The arguments read so far. An option may wait for its value to be the next one, and two dashes end the
options. -/
structure Arguments where
  values : List (Key × Text) := []
  switches : List Switch := []
  pending : Option Key := none
  ended : Bool := false

namespace Arguments

def provide (arguments : Arguments) (key : Key) (value : Text) : Except Stop Arguments :=
  let isEmptyPath := (key == .input || key == .output) && value.isEmpty
  if (arguments.values.lookup key).isSome || isEmptyPath then .error .misuse
  else .ok { arguments with values := (key, value) :: arguments.values, pending := none }

/-- Help and version are answered at once, whatever follows. -/
def turnOn (arguments : Arguments) (switch : Switch) : Except Stop Arguments :=
  match switch with
  | .help => .error .help
  | .version => .error .version
  | switch =>
    if arguments.switches.contains switch then .error .misuse
    else .ok { arguments with switches := switch :: arguments.switches }

def letters (arguments : Arguments) : Text → Except Stop Arguments
  | [] => .ok arguments
  | letter :: rest =>
    match Choice.ofLetter? letter with
    | none => .error .misuse
    | some (.switch switch) => do
      let arguments ← arguments.turnOn switch
      arguments.letters rest
    | some (.key key) =>
      match rest with
      | [] => .ok { arguments with pending := some key }
      | '=' :: value => arguments.provide key value
      | value => arguments.provide key value

def word (arguments : Arguments) (text : Text) : Except Stop Arguments :=
  let (name, value?) := match Text.cutAt? (· == '=') text with
    | some (name, value) => (name, some value)
    | none => (text, none)
  match Choice.words.lookup name, value? with
  | some (.key key), some value => arguments.provide key value
  | some (.key key), none => .ok { arguments with pending := some key }
  | some (.switch switch), none => arguments.turnOn switch
  | _, _ => .error .misuse

def read (arguments : Arguments) (argument : Text) : Except Stop Arguments :=
  if arguments.ended then .error .misuse
  else match argument, arguments.pending with
    | ['-', '-'], _ => .ok { arguments with ended := true }
    | '-' :: _ :: _, some _ => .error .misuse
    | '-' :: '-' :: text, none => arguments.word text
    | '-' :: letter :: rest, none => arguments.letters (letter :: rest)
    | value, some key => arguments.provide key value
    | _, none => .error .misuse

/-- What the arguments ask for. The input and the output have to be given. -/
def invocation (arguments : Arguments) : Except Stop Invocation :=
  let value (key : Key) := arguments.values.lookup key
  let isOn (switch : Switch) := arguments.switches.contains switch
  match arguments.pending, value .input, value .output with
  | none, some input, some output =>
    let defaults : Invocation := { input, output }
    .ok { defaults with
      commentMark := (value .commentMark).getD defaults.commentMark
      directiveMark := (value .directiveMark).getD defaults.directiveMark
      verbose := isOn .verbose
      ignoreErrors := isOn .ignoreErrors
      plainVersion := isOn .plainVersion
      joinColons := isOn .joinColons
      copyright := value .copyright
      listing := isOn .listing }
  | _, _, _ => .error .misuse

end Arguments

def parse (arguments : List Text) : Except Stop Invocation := do
  let read ← arguments.foldlM Arguments.read {}
  read.invocation

def versionText : Text := "hxmc 0.1.0\n".toList

def usage : Text := "Usage: hxmc [OPTIONS] --input <INPUT> --output <OUTPUT>\n".toList

def helpText : Text :=
  "Compile HXM assembly into an HXM image\n\n".toList ++ usage ++ "
Options:
  -i, --input <INPUT>                      Source file
  -o, --output <OUTPUT>                    Image file to write
  -c, --comment-prefix <COMMENT_PREFIX>    [default: //]
  -m, --metadata-prefix <METADATA_PREFIX>  [default: #]
  -v, --verbose                            Log every compiled line
      --ignore-errors                      Skip lines that fail to compile instead of stopping
      --fix-version-field                  Write the program's own version instead of the legacy author bytes
      --join-string-colons                 Drop the colons inside STRING resources like the legacy toolchain
      --copyright <COPYRIGHT>              Copyright notice stored in the image
      --disasm                             Print a listing of the compiled program
  -h, --help                               Print help
  -V, --version                            Print version
".toList

/-- What is shown when there is no run. -/
def Stop.outcome : Stop → Outcome
  | misuse => { exitCode := 2, error := some ("unexpected arguments\n\n".toList ++ usage) }
  | help => { exitCode := 0, output := helpText }
  | version => { exitCode := 0, output := versionText }

end Assembler.Terminal
