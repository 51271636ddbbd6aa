import Assembler.Command.Files
import Assembler.Image.Writer
import Assembler.Listing
import Assembler.Source.Compile

/-! A run of the command: compile the input, write the image, list the program if asked. Nothing is
written and nothing is printed before everything that can go wrong with the source has been
tried. -/
namespace Assembler.Command

/-- What a run is asked to do. -/
structure Invocation where
  input : Text
  output : Text
  commentMark : Text := "//".toList
  directiveMark : Text := "#".toList
  verbose : Bool := false
  ignoreErrors : Bool := false
  /-- Whether the version slot holds the version of the program, not the author. -/
  plainVersion : Bool := false
  joinColons : Bool := false
  copyright : Option Text := none
  listing : Bool := false
  deriving DecidableEq

structure Product where
  program : Program
  image : Bytes
  deriving DecidableEq

/-- What becomes of the source: a product or a message, and the log up to there. -/
structure Attempt where
  result : Except Text Product
  log : List Record

structure Outcome where
  exitCode : UInt8
  output : Text := []
  log : List Record := []
  error : Option Text := none
  deriving DecidableEq

def about (activity path : Text) (message : Text) : Text :=
  activity ++ ' ' :: path ++ ": ".toList ++ message

namespace Invocation

def settings (invocation : Invocation) : Settings :=
  { commentMark := invocation.commentMark
    directiveMark := invocation.directiveMark
    tolerant := invocation.ignoreErrors
    joinColons := invocation.joinColons }

def slot (invocation : Invocation) : VersionSlot :=
  if invocation.plainVersion then .plain else .legacy

/-- The program that a run makes of a compiled one: a copyright that is given replaces its own. -/
def finished (invocation : Invocation) (program : Program) : Program :=
  match invocation.copyright with
  | some text => program.set .copyright text
  | none => program

/-- Builds the image of a compiled source, after `log`. -/
def package (invocation : Invocation) (compiled : Compiled) (log : List Record) : Attempt :=
  let program := invocation.finished compiled.program
  let skipped := if compiled.skipped.isEmpty then [] else [.linesSkipped compiled.skipped.length]
  match Image.build invocation.slot program with
  | .error error => ⟨.error ("building image: ".toList ++ error.message), log ++ skipped⟩
  | .ok image => ⟨.ok ⟨program, image⟩, log ++ skipped ++ Image.writeLog program none⟩

/-- Takes the source, or why there is none, as far as the image. -/
def assemble (invocation : Invocation) (source : Except FileError Text) : Attempt :=
  let start := [.inputPath invocation.input, .outputPath invocation.output]
  match source with
  | .error error => ⟨.error (about "reading".toList invocation.input error.message), start⟩
  | .ok text =>
    let log := start ++ Source.logText invocation.settings text
    match Source.compileText invocation.settings text with
    | .error error => ⟨.error (about "compiling".toList invocation.input error.message), log⟩
    | .ok compiled => invocation.package compiled log

/-- Debug records are shown on request only. -/
def shown (invocation : Invocation) (log : List Record) : List Record :=
  if invocation.verbose then log else log.filter fun record => record.level != .debug

def failure (invocation : Invocation) (log : List Record) (message : Text) : Outcome :=
  { exitCode := 1, log := invocation.shown log, error := some message }

/-- The outcome with a product, given whether its image could be saved. -/
def conclude (invocation : Invocation) (product : Product) (log : List Record) :
    Except FileError Unit → Outcome
  | .error error => invocation.failure log (about "writing".toList invocation.output error.message)
  | .ok () =>
    let done := .commandDone invocation.output product.image.length
    { exitCode := 0
      output := if invocation.listing then product.program.listing else []
      log := invocation.shown (log ++ [done]) }

section Effects

variable {m : Type → Type} [Monad m]

def deliver (invocation : Invocation) (files : Files m) (attempt : Attempt) : m Outcome :=
  match attempt.result with
  | .error message => return invocation.failure attempt.log message
  | .ok product => do
    let saved ← files.write invocation.output product.image
    return invocation.conclude product attempt.log saved

def run (invocation : Invocation) (files : Files m) : m Outcome := do
  let source ← files.readText invocation.input
  invocation.deliver files (invocation.assemble source)

end Effects
end Invocation
end Assembler.Command
