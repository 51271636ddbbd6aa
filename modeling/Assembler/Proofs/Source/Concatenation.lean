import Assembler.Proofs.Source.Effects

/-! Sources one behind the other. If the first leaves no block open, the second means what it means
by itself, in the mode that the first ends in and at larger line numbers. -/
namespace Assembler

def Effect.toggle? : Effect → Option Bool
  | tolerate on => some on
  | _ => none

namespace Source

/-- Whether errors are tolerated at the end of a source: as the last directive on it says, and as at
the start if there is none. -/
def toleranceAfter (settings : Settings) (lines : List Text) : Bool :=
  ((effects settings lines).filterMap Effect.toggle?).getLast?.getD settings.tolerant

def Assigns (settings : Settings) (lines : List Text) (field : Field) : Prop :=
  ∃ text, .assign field text ∈ effects settings lines

theorem foldl_tolerance_eq_last (done : List Effect) (start : Bool) :
    done.foldl Effect.tolerance start = (done.filterMap Effect.toggle?).getLast?.getD start := by
  induction done generalizing start with
  | nil => rfl
  | cons effect done ih =>
    rw [List.foldl_cons, ih]
    cases effect with
    | tolerate on => simp [Effect.tolerance, Effect.toggle?, List.getLast?_cons]
    | _ => rfl

theorem foldl_tolerance_trace (settings : Settings) (lines : List Text) :
    (trace settings lines).foldl Step.tolerance settings.tolerant =
      toleranceAfter settings lines := by
  rw [foldl_tolerance, foldl_tolerance_eq_last]
  rfl

/-- Where the first source passes and leaves no block open, the verdict is on the second. -/
theorem fatal?_trace_append {settings : Settings} {front : List Text}
    (closed : blockFrom settings none 0 front = none)
    (passes : fatal? settings.tolerant (trace settings front) = none) (back : List Text) :
    fatal? settings.tolerant (trace settings (front ++ back)) =
      (fatal? (toleranceAfter settings front) (trace settings back)).map
        (SourceError.shift front.length) := by
  rw [trace_append closed, fatal?_append, passes, Option.none_or, fatal?_shift,
    foldl_tolerance_trace]

/-- An error other than an open block stops a source whatever follows it. -/
theorem fatal?_trace_append_of_stops {settings : Settings} {front : List Text} {error : SourceError}
    (stops : fatal? settings.tolerant (trace settings front) = some error)
    (other : error.fault ≠ .unclosedBlock) (back : List Text) :
    fatal? settings.tolerant (trace settings (front ++ back)) = some error := by
  rw [trace_eq, List.map_append, fatal?_append] at stops
  rw [trace_eq, statementsFrom_append, List.append_assoc, List.map_append, fatal?_append]
  cases early : fatal? settings.tolerant
      ((statementsFrom settings none 0 front).map (stepOf settings)) with
  | some found =>
    rw [early, Option.some_or] at stops
    rw [Option.some_or, stops]
  | none =>
    -- The error is that of the block that is open at the end.
    rw [early, Option.none_or] at stops
    cases opened : blockFrom settings none 0 front with
    | none =>
      rw [opened] at stops
      cases stops
    | some line =>
      rw [opened] at stops
      simp only [unclosed, List.map_cons, List.map_nil, fatal?, stepOf, Statement.meaning] at stops
      split at stops
      · cases stops
      · cases stops
        exact absurd rfl other

theorem get_program_append_of_assigns {last : List Effect} {field : Field} {text : Text}
    (assigned : .assign field text ∈ last) (first : List Effect) :
    (program (first ++ last)).get field = (program last).get field := by
  rw [get_program, get_program, List.foldl_append]
  exact foldl_assigned_of_mem assigned _ _

theorem get_program_append_of_not_assigns {last : List Effect} {field : Field}
    (unassigned : ¬ ∃ text, .assign field text ∈ last) (first : List Effect) :
    (program (first ++ last)).get field = (program first).get field := by
  rw [get_program, get_program, List.foldl_append]
  apply foldl_of_forall
  intro effect member text
  cases effect with
  | assign target value =>
    have different : target ≠ field := by
      rintro rfl
      exact unassigned ⟨value, member⟩
    simp [Effect.assigned, different]
  | _ => rfl

/-- Behind a source that passes and leaves no block open, the result is that of the second source,
with what the first one does in front. -/
theorem compile_append_of_passes {settings : Settings} {front : List Text} {first : Compiled}
    (compiles : compile settings front = .ok first)
    (ended : ∀ error ∈ first.skipped, error.fault ≠ .unclosedBlock) (back : List Text) :
    compile settings (front ++ back) =
      match compile { settings with tolerant := toleranceAfter settings front } back with
      | .ok second => .ok ⟨program (effects settings front ++ effects settings back),
          first.skipped ++ second.skipped.map (SourceError.shift front.length)⟩
      | .error error => .error (error.shift front.length) := by
  have closed := closed_of_skipped compiles ended
  have verdict := fatal?_trace_append closed (compile_eq_ok_iff.mp compiles).1 back
  cases follows : compile { settings with tolerant := toleranceAfter settings front } back with
  | ok second =>
    have passes : fatal? (toleranceAfter settings front) (trace settings back) = none :=
      (compile_eq_ok_iff.mp follows).1
    rw [passes, Option.map_none] at verdict
    dsimp only
    rw [skipped_of_compile compiles, skipped_of_compile follows, compile_eq_ok_iff]
    refine ⟨verdict, ?_⟩
    rw [← effects_append closed]
    exact congrArg (Compiled.mk _) (errors_append closed back).symm
  | error error =>
    have stops : fatal? (toleranceAfter settings front) (trace settings back) = some error :=
      compile_eq_error_iff.mp follows
    rw [stops, Option.map_some] at verdict
    exact compile_eq_error_iff.mpr verdict

/-- A source that passes and leaves no block open can be compiled apart from what follows it. One
that fails, be it not for an open block, fails whatever follows. -/
theorem compile_append (settings : Settings) (front back : List Text) :
    (∀ first, compile settings front = .ok first →
      (∀ error ∈ first.skipped, error.fault ≠ .unclosedBlock) →
      let onwards := { settings with tolerant := toleranceAfter settings front }
      (∀ second, compile onwards back = .ok second →
        ∃ whole, compile settings (front ++ back) = .ok whole
          ∧ whole.program.resources = first.program.resources ++ second.program.resources
          ∧ whole.program.instructions = first.program.instructions ++ second.program.instructions
          ∧ whole.skipped = first.skipped ++ second.skipped.map (SourceError.shift front.length)
          ∧ (∀ field, Assigns onwards back field →
            whole.program.get field = second.program.get field)
          ∧ (∀ field, ¬ Assigns onwards back field →
            whole.program.get field = first.program.get field)
          ∧ whole.program.copyright = [])
      ∧ ∀ error, compile onwards back = .error error →
        compile settings (front ++ back) = .error (error.shift front.length))
    ∧ ∀ error, compile settings front = .error error → error.fault ≠ .unclosedBlock →
      compile settings (front ++ back) = .error error := by
  refine ⟨?_, ?_⟩
  · intro first compiles ended onwards
    have joined := compile_append_of_passes compiles ended back
    refine ⟨?_, ?_⟩
    · intro second follows
      rw [follows] at joined
      refine ⟨_, joined, ?_⟩
      rw [program_of_compile compiles, program_of_compile follows]
      refine ⟨List.filterMap_append, List.filterMap_append, rfl, ?_, ?_,
        copyright_of_compile joined⟩
      · rintro field ⟨text, assigned⟩
        exact get_program_append_of_assigns assigned _
      · intro field unassigned
        exact get_program_append_of_not_assigns unassigned _
    · intro error stops
      rwa [stops] at joined
  · intro error stops other
    rw [compile_eq_error_iff] at stops ⊢
    exact fatal?_trace_append_of_stops stops other back

/-- The tolerance reaches into the second source, and what it assigns replaces what the first
did. -/
theorem compile_append_onwards :
    let front := ["#IGNORE_COMPILER_ERRORS", "#title: a", "#author: b", "#what"].map String.toList
    let back := ["#who", "#title: c"].map String.toList
    let first : Compiled :=
      ⟨{ title := ['a'], author := ['b'] }, [⟨3, .unknownDirective "what".toList⟩]⟩
    let second : Compiled := ⟨{ title := ['c'] }, [⟨0, .unknownDirective "who".toList⟩]⟩
    compile {} front = .ok first ∧ toleranceAfter {} front = true
      ∧ compile { tolerant := true } back = .ok second
      ∧ ∃ whole, compile {} (front ++ back) = .ok whole
        ∧ whole.skipped =
          [⟨3, .unknownDirective "what".toList⟩, ⟨4, .unknownDirective "who".toList⟩]
        ∧ whole.program.title = ['c'] ∧ whole.program.author = ['b'] := by
  intro front back first second
  have compiles : compile {} front = .ok first :=
    compile_eq_ok_iff.mpr ⟨by decide +kernel +zetaReduce, by decide +kernel +zetaReduce⟩
  have on : toleranceAfter {} front = true := by decide +kernel +zetaReduce
  have follows : compile { tolerant := true } back = .ok second :=
    compile_eq_ok_iff.mpr ⟨by decide +kernel +zetaReduce, by decide +kernel +zetaReduce⟩
  have ended : ∀ error ∈ first.skipped, error.fault ≠ .unclosedBlock := by decide +zetaReduce
  obtain ⟨whole, joined, -, -, skipped, assigned, unassigned, -⟩ :=
    ((compile_append {} front back).1 first compiles ended).1 second (by rw [on]; exact follows)
  refine ⟨compiles, on, follows, whole, joined, skipped, ?_, ?_⟩
  · exact assigned .title ⟨['c'], by decide +kernel +zetaReduce⟩
  · refine unassigned .author ?_
    rintro ⟨text, member⟩
    have only : effects { tolerant := toleranceAfter {} front } back = [.assign .title ['c']] := by
      decide +kernel +zetaReduce
    rw [only] at member
    cases List.mem_singleton.mp member

end Source
end Assembler
