import Assembler.Proofs.Source.Colons
import Assembler.Proofs.Source.Concatenation

/-! The log of a compilation. A step that is passed leaves a record of the mode that it sets, the
resource that it stores or the error that it has, and the step that ends a compilation leaves none;
so the log tells the result. -/
namespace Assembler

namespace Record

/-- Warnings, but for those that the mode has changed. -/
def isWarning : Record → Bool
  | toleranceSet _ => false
  | record => record.level == .warn

def isStored : Record → Bool
  | resourceStored .. => true
  | _ => false

def isClosing : Record → Bool
  | compiled .. => true
  | _ => false

def ignoredLine (error : SourceError) : Text :=
  "WARN ignoring error: ".toList ++ error.message

def storedLine (line id size : Nat) : Text :=
  "DEBUG line ".toList ++ Text.decimal line ++ ": ".toList
    ++ ("resource #".toList ++ Text.decimal id
      ++ " (".toList ++ Text.decimal size ++ " bytes)".toList)

def closingLine (instructions resources ignored : Nat) : Text :=
  "INFO compiled ".toList ++ Text.decimal instructions ++ " instructions, ".toList
    ++ Text.decimal resources ++ " resources, ".toList ++ Text.decimal ignored
    ++ " errors ignored".toList

theorem line_errorIgnored (error : SourceError) :
    (errorIgnored error).line = ignoredLine error := rfl

theorem line_resourceStored (line id size : Nat) :
    (resourceStored line id size).line = storedLine line id size := rfl

theorem line_compiled (instructions resources ignored : Nat) :
    (compiled instructions resources ignored).line =
      closingLine instructions resources ignored := rfl

end Record

structure NumberedBlob where
  line : Nat
  blob : Bytes

def NumberedBlob.record (found : NumberedBlob) (id : Nat) : Record :=
  .resourceStored found.line id found.blob.length

namespace Step

def blob? (step : Step) : Option NumberedBlob :=
  (step.effect?.bind Effect.resource?).map (NumberedBlob.mk step.line)

/-- What a step that is passed adds to a log, with `stored` resources before it. -/
def records (stored : Nat) (step : Step) : List Record :=
  (Journal.announcement? step).toList
    ++ ((step.effect?.bind Effect.toggle?).map .toleranceSet).toList
    ++ (step.blob?.map fun found => found.record stored).toList
    ++ (step.error?.map .errorIgnored).toList

/-- The three kinds of records of one step. A step has an effect or an error, so there is one record
of these kinds at most. -/
theorem filter_records (stored : Nat) (step : Step) :
    (step.records stored).filter Record.isWarning = (step.error?.map .errorIgnored).toList
      ∧ (step.records stored).filter Record.isStored =
        (step.blob?.map fun found => found.record stored).toList
      ∧ (step.records stored).filter Record.isClosing = [] := by
  obtain ⟨line, statement, outcome⟩ := step
  cases outcome with
  | ok effect => cases effect <;> cases statement <;> exact ⟨rfl, rfl, rfl⟩
  | error fault => cases statement <;> exact ⟨rfl, rfl, rfl⟩

theorem filter_announcement (step : Step) :
    (Journal.announcement? step).toList.filter Record.isWarning = []
      ∧ (Journal.announcement? step).toList.filter Record.isStored = []
      ∧ (Journal.announcement? step).toList.filter Record.isClosing = [] := by
  obtain ⟨line, statement, outcome⟩ := step
  cases statement <;> exact ⟨rfl, rfl, rfl⟩

end Step

namespace Journal

theorem read_of_passes {journal : Journal} {step : Step} (running : journal.stopped = false)
    (passes : step.error? = none ∨ journal.tolerant = true) :
    journal.read step =
      { tolerant := step.tolerance journal.tolerant
        stored := journal.stored + step.blob?.toList.length
        stopped := false
        records := (step.records journal.stored).reverse ++ journal.records } := by
  obtain ⟨tolerant, stored, stopped, records⟩ := journal
  obtain ⟨line, statement, outcome⟩ := step
  cases running
  cases outcome with
  | ok effect => cases effect <;> cases statement <;> rfl
  | error fault =>
    rcases passes with accepted | mode
    · cases accepted
    · cases mode
      cases statement <;> rfl

theorem read_of_stops {journal : Journal} {step : Step} {error : SourceError}
    (running : journal.stopped = false) (strict : journal.tolerant = false)
    (failed : step.error? = some error) :
    journal.read step =
      { journal with
        stopped := true
        records := (announcement? step).toList ++ journal.records } := by
  obtain ⟨tolerant, stored, stopped, records⟩ := journal
  obtain ⟨line, statement, outcome⟩ := step
  cases running
  cases strict
  cases outcome with
  | ok effect => cases failed
  | error fault => cases statement <;> rfl

theorem foldl_read_of_stopped {journal : Journal} (stopped : journal.stopped = true)
    (steps : List Step) : steps.foldl read journal = journal := by
  induction steps with
  | nil => rfl
  | cons step steps ih =>
    have same : journal.read step = journal := if_pos stopped
    rw [List.foldl_cons, same, ih]

end Journal

namespace Source
open Statement

def recordsFrom : Nat → List Step → List Record
  | _, [] => []
  | stored, step :: rest =>
    step.records stored ++ recordsFrom (stored + step.blob?.toList.length) rest

/-- The journal of steps that are passed. The mode in it is the one that the verdict goes by. -/
theorem foldl_read_of_passes {journal : Journal} {steps : List Step}
    (running : journal.stopped = false) (passes : fatal? journal.tolerant steps = none) :
    steps.foldl Journal.read journal =
      { tolerant := steps.foldl Step.tolerance journal.tolerant
        stored := journal.stored + (steps.filterMap Step.blob?).length
        stopped := false
        records := (recordsFrom journal.stored steps).reverse ++ journal.records } := by
  induction steps generalizing journal with
  | nil =>
    obtain ⟨tolerant, stored, stopped, records⟩ := journal
    cases running
    rfl
  | cons step steps ih =>
    obtain ⟨here, later⟩ := fatal?_cons_eq_none_iff.mp passes
    have count : (step :: steps).filterMap Step.blob? =
        step.blob?.toList ++ steps.filterMap Step.blob? := by
      cases found : step.blob? <;> simp [found]
    rw [List.foldl_cons, Journal.read_of_passes running here, ih rfl later, count]
    simp only [List.foldl_cons, recordsFrom, List.length_append, List.reverse_append,
      List.append_assoc, Nat.add_assoc]

theorem filter_recordsFrom (stored : Nat) (steps : List Step) :
    (recordsFrom stored steps).filter Record.isWarning =
        (steps.filterMap Step.error?).map .errorIgnored
      ∧ (recordsFrom stored steps).filter Record.isStored =
        ((steps.filterMap Step.blob?).zipIdx stored).map (fun found => found.1.record found.2)
      ∧ (recordsFrom stored steps).filter Record.isClosing = [] := by
  induction steps generalizing stored with
  | nil => exact ⟨rfl, rfl, rfl⟩
  | cons step steps ih =>
    obtain ⟨warned, kept, closed⟩ := step.filter_records stored
    obtain ⟨warnedLater, keptLater, closedLater⟩ := ih (stored + step.blob?.toList.length)
    simp only [recordsFrom, List.filter_append, warned, kept, closed, warnedLater, keptLater,
      closedLater]
    refine ⟨?_, ?_, rfl⟩
    · cases failed : step.error? <;> simp [failed]
    · cases found : step.blob? <;> simp [found, List.zipIdx_cons]

theorem log_of_passes {settings : Settings} {lines : List Text} {compiled : Compiled}
    (succeeds : compile settings lines = .ok compiled) :
    log settings lines =
      .compiling settings.tolerant :: recordsFrom 0 (trace settings lines)
        ++ [.compiled compiled.program.instructions.length compiled.program.resources.length
          compiled.skipped.length] := by
  have passes := (compile_eq_ok_iff.mp succeeds).1
  have result : outcome settings.tolerant (trace settings lines) = .ok compiled := succeeds
  simp only [log, result, closing]
  rw [foldl_read_of_passes rfl passes, List.append_nil, List.reverse_reverse]

/-- The log of a compilation that ends early, of which the last step is announced at most. -/
theorem log_of_stops {settings : Settings} {lines : List Text} {error : SourceError}
    (fails : compile settings lines = .error error) :
    ∃ passed step last, trace settings lines = passed ++ step :: last
      ∧ fatal? settings.tolerant passed = none ∧ step.error? = some error
      ∧ log settings lines =
        .compiling settings.tolerant :: recordsFrom 0 passed
          ++ (Journal.announcement? step).toList := by
  obtain ⟨passed, step, last, split, passes, failed, strict⟩ :=
    split_of_stops (compile_eq_error_iff.mp fails)
  refine ⟨passed, step, last, split, passes, failed, ?_⟩
  have result : outcome settings.tolerant (passed ++ step :: last) = .error error := split ▸ fails
  have before := @foldl_read_of_passes { tolerant := settings.tolerant } passed rfl passes
  simp only [log, split, result, closing]
  rw [List.foldl_append, List.foldl_cons, before, Journal.read_of_stops rfl strict failed,
    Journal.foldl_read_of_stopped rfl]
  cases Journal.announcement? step <;> simp

/-- A blob stands on the line of its number: inside of a block that line is an entry, and it reads
as the blob. -/
def StandsIn (settings : Settings) (lines : List Text) (found : NumberedBlob) : Prop :=
  ∃ opener text, blockFrom settings none 0 (lines.take found.line) = some opener
    ∧ lines[found.line]? = some text ∧ inside? settings text = some (.entry (Text.trimStart text))
    ∧ Resource.parse settings.joinColons (Text.trimStart text) = .ok found.blob

/-- Entries store what they read as, and nothing else stores. -/
theorem blob?_stepOf_eq_some_iff {settings : Settings} {numbered : NumberedStatement}
    {found : NumberedBlob} :
    (stepOf settings numbered).blob? = some found ↔
      found.line = numbered.line ∧ ∃ text, numbered.statement = .entry text
        ∧ Resource.parse settings.joinColons text = .ok found.blob := by
  obtain ⟨line, statement⟩ := numbered
  obtain ⟨place, blob⟩ := found
  rw [Step.blob?, resource?_stepOf]
  cases statement with
  | entry text =>
    cases parsed : Resource.parse settings.joinColons text with
    | ok bytes => simp [entryText?, parsed, Except.toOption, stepOf, eq_comm]
    | error fault => simp [entryText?, parsed, Except.toOption]
  | _ => simp [entryText?]

theorem blobs_trace (settings : Settings) (lines : List Text) :
    (trace settings lines).filterMap Step.blob? =
      ((statementsFrom settings none 0 lines).map (stepOf settings)).filterMap Step.blob? := by
  rw [trace_eq, List.map_append, List.filterMap_append]
  cases blockFrom settings none 0 lines with
  | none => exact List.append_nil _
  | some line => exact List.append_nil _

theorem inside?_eq_entry {settings : Settings} {line text : Text}
    (said : inside? settings line = some (.entry text)) : text = Text.trimStart line := by
  unfold inside? at said
  dsimp only at said
  split at said
  · cases said
  · split at said <;> cases said
    rfl

theorem on?_eq_entry {settings : Settings} {inside : Bool} {line text : Text}
    (said : on? settings inside line = some (.entry text)) :
    inside = true ∧ inside? settings line = some (.entry text) := by
  cases inside with
  | true => exact ⟨rfl, said⟩
  | false =>
    obtain ⟨cleaned, -, same⟩ := Option.map_eq_some_iff.mp said
    split at same
    · cases same
    · split at same <;> cases same

theorem standsIn_of_mem {settings : Settings} {lines : List Text} {found : NumberedBlob}
    (member : found ∈ (trace settings lines).filterMap Step.blob?) :
    StandsIn settings lines found := by
  rw [blobs_trace, List.filterMap_map, List.mem_filterMap] at member
  obtain ⟨numbered, scanned, stores⟩ := member
  obtain ⟨place, text, entry, parsed⟩ := blob?_stepOf_eq_some_iff.mp stores
  obtain ⟨i, line, number, here, said⟩ := getElem?_of_mem_statementsFrom scanned
  rw [Nat.zero_add, ← place] at number
  rw [entry, ← number] at said
  rw [← number] at here
  obtain ⟨opened, within⟩ := on?_eq_entry said
  obtain ⟨opener, inside⟩ := Option.isSome_iff_exists.mp opened
  cases inside?_eq_entry within
  exact ⟨opener, line, inside, here, within, parsed⟩

theorem pairwise_blobs (settings : Settings) (lines : List Text) :
    ((trace settings lines).filterMap Step.blob?).Pairwise fun first second =>
      first.line < second.line := by
  rw [blobs_trace, List.filterMap_map]
  refine List.Pairwise.filterMap _ ?_ (pairwise_statementsFrom settings none 0 lines)
  intro first second before found stores found' stores'
  rw [(blob?_stepOf_eq_some_iff.mp stores).1, (blob?_stepOf_eq_some_iff.mp stores').1]
  exact before

theorem resources_eq (steps : List Step) :
    (program (steps.filterMap Step.effect?)).resources =
      (steps.filterMap Step.blob?).map NumberedBlob.blob := by
  simp only [program, List.filterMap_filterMap, List.map_filterMap]
  congr 1
  funext step
  rw [Step.blob?, Option.map_map]
  exact Option.map_id'.symm

theorem not_closing_recordsFrom (tolerant : Bool) (passed : List Step) :
    (.compiling tolerant :: recordsFrom 0 passed).filter Record.isClosing = [] := by
  rw [List.filter_cons_of_neg Bool.false_ne_true]
  exact (filter_recordsFrom 0 passed).2.2

/-- The warnings and the resources in a log that goes over some steps and ends in records of other
kinds. -/
theorem lines_of_log {tolerant : Bool} {passed : List Step} {last : List Record}
    (warned : last.filter Record.isWarning = []) (kept : last.filter Record.isStored = []) :
    let records := .compiling tolerant :: recordsFrom 0 passed ++ last
    (records.filter Record.isWarning).map Record.line =
        (passed.filterMap Step.error?).map Record.ignoredLine
      ∧ (records.filter Record.isStored).map Record.line =
        (passed.filterMap Step.blob?).zipIdx.map
          (fun found => Record.storedLine found.1.line found.2 found.1.blob.length) := by
  obtain ⟨warnings, stored, -⟩ := filter_recordsFrom 0 passed
  constructor
  · rw [List.filter_append, List.filter_cons_of_neg Bool.false_ne_true, warnings, warned,
      List.append_nil, List.map_map]
    exact List.map_congr_left fun error _ => Record.line_errorIgnored error
  · rw [List.filter_append, List.filter_cons_of_neg Bool.false_ne_true, stored, kept,
      List.append_nil, List.map_map]
    exact List.map_congr_left fun found _ => Record.line_resourceStored _ _ _

/-- The log tells the result. It goes over the steps that are passed, all of them if the source
compiles and else those before the error that ends the compilation. Its warnings are the errors of
these steps, its resources are those that these steps store, numbered in order, each with its size
and the line that it stands on; and it is closed, with the three counts, exactly if the source
compiles. -/
theorem log_faithful (settings : Settings) (lines : List Text) :
    ∃ passed rest, trace settings lines = passed ++ rest
      ∧ fatal? settings.tolerant passed = none
      ∧ ((log settings lines).filter Record.isWarning).map Record.line =
        (passed.filterMap Step.error?).map Record.ignoredLine
      ∧ ((log settings lines).filter Record.isStored).map Record.line =
        (passed.filterMap Step.blob?).zipIdx.map
          (fun found => Record.storedLine found.1.line found.2 found.1.blob.length)
      ∧ (∀ found ∈ passed.filterMap Step.blob?, StandsIn settings lines found)
      ∧ ((passed.filterMap Step.blob?).Pairwise fun first second => first.line < second.line)
      ∧ (∀ compiled, compile settings lines = .ok compiled →
        rest = [] ∧ passed.filterMap Step.error? = compiled.skipped
          ∧ (passed.filterMap Step.blob?).map NumberedBlob.blob = compiled.program.resources
          ∧ ∃ front last, log settings lines = front ++ [last] ∧ front.filter Record.isClosing = []
            ∧ last.line = Record.closingLine compiled.program.instructions.length
              compiled.program.resources.length compiled.skipped.length)
      ∧ ∀ error, compile settings lines = .error error →
        (∃ step last, rest = step :: last ∧ step.error? = some error)
          ∧ (log settings lines).filter Record.isClosing = [] := by
  cases result : compile settings lines with
  | ok compiled =>
    obtain ⟨passes, made⟩ := compile_eq_ok_iff.mp result
    have whole := log_of_passes result
    obtain ⟨warnings, stored⟩ := whole ▸ lines_of_log rfl rfl
    refine ⟨trace settings lines, [], (List.append_nil _).symm, passes, warnings, stored,
      fun found => standsIn_of_mem, pairwise_blobs settings lines, ?_, ?_⟩
    · rintro _ ⟨⟩
      refine ⟨rfl, congrArg Compiled.skipped made.symm, ?_, _, _, whole,
        not_closing_recordsFrom _ _, Record.line_compiled _ _ _⟩
      rw [made, resources_eq]
    · intro error failed
      cases failed
  | error error =>
    obtain ⟨passed, step, last, split, passes, failed, whole⟩ := log_of_stops result
    obtain ⟨noWarning, noResource, noClosing⟩ := step.filter_announcement
    obtain ⟨warnings, stored⟩ := whole ▸ lines_of_log noWarning noResource
    -- What is stored on the way is some of what the whole trace would store.
    have early :
        (passed.filterMap Step.blob?).Sublist ((trace settings lines).filterMap Step.blob?) := by
      rw [split]
      exact (List.sublist_append_left passed (step :: last)).filterMap Step.blob?
    refine ⟨passed, step :: last, split, passes, warnings, stored,
      fun found member => standsIn_of_mem (early.subset member),
      (pairwise_blobs settings lines).sublist early, ?_, ?_⟩
    · intro compiled succeeds
      cases succeeds
    · rintro _ ⟨⟩
      refine ⟨⟨step, last, rfl, failed⟩, ?_⟩
      rw [whole, List.filter_append, not_closing_recordsFrom, noClosing]
      rfl

end Source
end Assembler
