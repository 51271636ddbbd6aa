import Assembler.Log
import Assembler.Source.Trace

/-! Compilation: the verdict on a trace, the program it leaves and the log of it.

A fault ends the compilation unless errors are tolerated at that step; a tolerated fault is kept
beside the program and has no effect on it. -/
namespace Assembler

namespace Step

def effect? (step : Step) : Option Effect :=
  match step.outcome with
  | .ok effect => some effect
  | .error _ => none

def error? (step : Step) : Option SourceError :=
  match step.outcome with
  | .ok _ => none
  | .error fault => some ⟨step.line, fault⟩

end Step

namespace Effect

/-- Whether errors are tolerated after an effect. -/
def tolerance (tolerant : Bool) : Effect → Bool
  | tolerate on => on
  | _ => tolerant

def resource? : Effect → Option Bytes
  | store bytes => some bytes
  | _ => none

def instruction? : Effect → Option Instruction
  | emit instruction => some instruction
  | _ => none

/-- The text of a field after an effect. -/
def assigned (field : Field) (text : Text) : Effect → Text
  | assign target value => if target = field then value else text
  | _ => text

end Effect

structure Compiled where
  program : Program
  /-- The errors that were tolerated. -/
  skipped : List SourceError
  deriving DecidableEq

namespace Source

/-- The error that ends a compilation: the first one at a step where errors are not tolerated. -/
def fatal? : Bool → List Step → Option SourceError
  | _, [] => none
  | tolerant, step :: rest =>
    match step.outcome with
    | .ok effect => fatal? (effect.tolerance tolerant) rest
    | .error fault => if tolerant then fatal? tolerant rest else some ⟨step.line, fault⟩

/-- The program that effects leave. The last assignment of a field stands. -/
def program (effects : List Effect) : Program :=
  let text (field : Field) := effects.foldl (Effect.assigned field) []
  { title := text .title
    author := text .author
    version := text .version
    description := text .description
    copyright := text .copyright
    resources := effects.filterMap Effect.resource?
    instructions := effects.filterMap Effect.instruction? }

def outcome (tolerant : Bool) (steps : List Step) : Except SourceError Compiled :=
  match fatal? tolerant steps with
  | some error => .error error
  | none => .ok ⟨program (steps.filterMap Step.effect?), steps.filterMap Step.error?⟩

def compile (settings : Settings) (lines : List Text) : Except SourceError Compiled :=
  outcome settings.tolerant (trace settings lines)

def compileText (settings : Settings) (text : Text) : Except SourceError Compiled :=
  compile settings (Text.lines text)

end Source

/-- The log of a compilation in progress. -/
structure Journal where
  tolerant : Bool
  /-- How many resources there are. -/
  stored : Nat := 0
  /-- Set by the error that ends the compilation. -/
  stopped : Bool := false
  /-- The records so far, the latest first. -/
  records : List Record := []

namespace Journal

/-- The record that announces a statement, made whether or not the statement is accepted. -/
def announcement? (step : Step) : Option Record :=
  match step.statement with
  | .directive body => some (.directiveLine step.line body)
  | .instruction text => some (.instructionLine step.line text)
  | .opener => some (.blockOpened step.line)
  | .closer => some (.blockClosed step.line)
  | .entry _ | .unclosed => none

def note (journal : Journal) (record : Record) : Journal :=
  { journal with records := record :: journal.records }

def settle (journal : Journal) (step : Step) : Journal :=
  match step.outcome with
  | .ok (.tolerate on) => { journal with tolerant := on }.note (.toleranceSet on)
  | .ok (.store bytes) =>
    { journal with stored := journal.stored + 1 }.note
      (.resourceStored step.line journal.stored bytes.length)
  | .ok _ => journal
  | .error fault =>
    if journal.tolerant then journal.note (.errorIgnored ⟨step.line, fault⟩)
    else { journal with stopped := true }

def read (journal : Journal) (step : Step) : Journal :=
  if journal.stopped then journal
  else
    match announcement? step with
    | some record => (journal.note record).settle step
    | none => journal.settle step

end Journal

namespace Source

/-- The record that closes the log of a compilation that succeeds. -/
def closing (result : Except SourceError Compiled) : List Record :=
  match result with
  | .error _ => []
  | .ok compiled =>
    [.compiled compiled.program.instructions.length compiled.program.resources.length
      compiled.skipped.length]

def log (settings : Settings) (lines : List Text) : List Record :=
  let steps := trace settings lines
  let journal := steps.foldl Journal.read { tolerant := settings.tolerant }
  .compiling settings.tolerant :: journal.records.reverse
    ++ closing (outcome settings.tolerant steps)

def logText (settings : Settings) (text : Text) : List Record :=
  log settings (Text.lines text)

end Source
end Assembler
