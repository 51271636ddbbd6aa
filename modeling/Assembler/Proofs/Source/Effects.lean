import Assembler.Proofs.Source.Accepted

/-! What a source does and what is wrong with it, whether it is compiled or not. -/
namespace Assembler

/-- Effects that leave a program as it is. -/
def Effect.Quiet : Effect → Prop
  | tolerate _ | openBlock | closeBlock => True
  | assign _ _ | store _ | emit _ => False

theorem Effect.Quiet.inert {effect : Effect} (quiet : effect.Quiet) :
    (∀ field text, effect.assigned field text = text) ∧ effect.resource? = none
      ∧ effect.instruction? = none := by
  cases effect with
  | tolerate | openBlock | closeBlock => exact ⟨fun _ _ => rfl, rfl, rfl⟩
  | assign | store | emit => cases quiet

def Effect.Directed : Effect → Prop
  | assign _ _ | tolerate _ => True
  | openBlock | closeBlock | store _ | emit _ => False

/-- A directive that is not carried out has an unknown key. -/
theorem Statement.readDirective_cases (body : Text) :
    (∃ effect, readDirective body = .ok effect ∧ effect.Directed)
      ∨ ∃ key, readDirective body = .error (.unknownDirective key) := by
  simp only [readDirective]
  split
  · rename_i effect known
    refine Or.inl ⟨effect, rfl, ?_⟩
    unfold directiveEffect? at known
    repeat' split at known
    all_goals cases known
    all_goals trivial
  · exact Or.inr ⟨_, rfl⟩

namespace Source

def effects (settings : Settings) (lines : List Text) : List Effect :=
  (trace settings lines).filterMap Step.effect?

/-- What is wrong with a source, whether it is tolerated or not. -/
def errors (settings : Settings) (lines : List Text) : List SourceError :=
  (trace settings lines).filterMap Step.error?

theorem program_of_compile {settings : Settings} {lines : List Text} {compiled : Compiled}
    (compiles : compile settings lines = .ok compiled) :
    compiled.program = program (effects settings lines) := by
  rw [(compile_eq_ok_iff.mp compiles).2]
  rfl

theorem skipped_of_compile {settings : Settings} {lines : List Text} {compiled : Compiled}
    (compiles : compile settings lines = .ok compiled) :
    compiled.skipped = errors settings lines := by
  rw [(compile_eq_ok_iff.mp compiles).2]
  rfl

theorem effects_append {settings : Settings} {front : List Text}
    (closed : blockFrom settings none 0 front = none) (back : List Text) :
    effects settings (front ++ back) = effects settings front ++ effects settings back := by
  rw [effects, trace_append closed, List.filterMap_append, List.filterMap_map]
  rfl

theorem errors_append {settings : Settings} {front : List Text}
    (closed : blockFrom settings none 0 front = none) (back : List Text) :
    errors settings (front ++ back) =
      errors settings front ++ (errors settings back).map (SourceError.shift front.length) := by
  have shifted (step : Step) : (step.shift front.length).error? =
      step.error?.map (SourceError.shift front.length) :=
    step.error?_renumber (· + front.length)
  simp only [errors, trace_append closed, List.filterMap_append, List.filterMap_map,
    List.map_filterMap, Function.comp_def, shifted]

theorem line_lt_of_mem_trace {settings : Settings} {lines : List Text} {step : Step}
    (taken : step ∈ trace settings lines) : step.line < lines.length := by
  rw [trace_eq] at taken
  obtain ⟨numbered, said, rfl⟩ := List.mem_map.mp taken
  rcases List.mem_append.mp said with found | last
  · have bound := line_lt_of_mem_statementsFrom found
    rwa [Nat.zero_add] at bound
  · cases opened : blockFrom settings none 0 lines with
    | none =>
      rw [opened] at last
      cases last
    | some opener =>
      rw [opened] at last
      rw [List.mem_singleton.mp last]
      exact opener_lt_length opened

theorem line_lt_of_mem_errors {settings : Settings} {lines : List Text} {error : SourceError}
    (raised : error ∈ errors settings lines) : error.line < lines.length := by
  obtain ⟨step, taken, failed⟩ := List.mem_filterMap.mp raised
  rw [← (Step.error?_eq_some_iff.mp failed).2]
  exact line_lt_of_mem_trace taken

/-- A block that is open at the end is among the errors that were skipped. -/
theorem closed_of_skipped {settings : Settings} {lines : List Text} {compiled : Compiled}
    (compiles : compile settings lines = .ok compiled)
    (ended : ∀ error ∈ compiled.skipped, error.fault ≠ .unclosedBlock) :
    blockFrom settings none 0 lines = none := by
  rw [skipped_of_compile compiles] at ended
  rw [blockFrom_eq_none_iff]
  intro step taken said
  have outcome : step.outcome = .error .unclosedBlock := by
    obtain ⟨numbered, -, rfl⟩ := List.mem_map.mp taken
    exact congrArg (Statement.meaning settings.joinColons) said
  have failed : step.error? = some ⟨step.line, .unclosedBlock⟩ :=
    Step.error?_eq_some_iff.mpr ⟨outcome, rfl⟩
  exact ended _ (List.mem_filterMap.mpr ⟨step, taken, failed⟩) rfl

theorem Accepts.effects {settings : Settings} {lines : List Text} {done : List Effect}
    (accepts : Accepts settings false lines done false) : effects settings lines = done :=
  (accepted_steps accepts.trace).1

/-- A directive that assigns a field gives it the value as it stands. -/
theorem directiveEffect?_eq_assign {key value text : Text} {field : Field}
    (known : Statement.directiveEffect? key value = some (.assign field text)) :
    field ≠ .copyright ∧ text = value := by
  unfold Statement.directiveEffect? at known
  repeat' split at known
  all_goals cases known
  all_goals exact ⟨by decide, rfl⟩

/-- Only directives assign and set the mode. -/
theorem directive_of_meaning {joinColons : Bool} {statement : Statement} {effect : Effect}
    (meaning : statement.meaning joinColons = .ok effect) (directed : effect.Directed) :
    ∃ body, statement = .directive body ∧ Statement.readDirective body = .ok effect := by
  cases statement with
  | directive body => exact ⟨body, rfl, meaning⟩
  | instruction text =>
    simp only [Statement.meaning] at meaning
    cases read : Statement.readInstruction text <;> rw [read] at meaning <;> cases meaning
    cases directed
  | entry text =>
    simp only [Statement.meaning] at meaning
    cases read : Resource.parse joinColons text <;> rw [read] at meaning <;> cases meaning
    cases directed
  | opener | closer =>
    cases meaning
    cases directed
  | unclosed => cases meaning

/-- The value of a directive is what follows its first colon, without leading blanks. -/
theorem readDirective_eq_assign {body text : Text} {field : Field}
    (read : Statement.readDirective body = .ok (.assign field text)) :
    field ≠ .copyright
      ∧ text = Text.trimStart ((Text.cutAt? (· == ':') body).getD (body, [])).2 := by
  simp only [Statement.readDirective] at read
  split at read
  · rename_i effect known
    cases read
    exact directiveEffect?_eq_assign known
  · cases read

theorem outcome_of_mem_effects {settings : Settings} {lines : List Text} {effect : Effect}
    (member : effect ∈ effects settings lines) :
    ∃ step ∈ trace settings lines, step.outcome = .ok effect := by
  obtain ⟨step, taken, kept⟩ := List.mem_filterMap.mp member
  exact ⟨step, taken, Step.effect?_eq_some_iff.mp kept⟩

/-- An assignment comes from a line outside of blocks that is a directive. -/
theorem directive_of_mem_effects {settings : Settings} {lines : List Text} {field : Field}
    {text : Text} (member : .assign field text ∈ effects settings lines) :
    ∃ line ∈ lines, ∃ body, Statement.outside? settings line = some (.directive body)
      ∧ Statement.readDirective body = .ok (.assign field text) := by
  obtain ⟨step, taken, accepted⟩ := outcome_of_mem_effects member
  obtain ⟨numbered, said, rfl⟩ := List.mem_map.mp taken
  obtain ⟨body, same, read⟩ := directive_of_meaning accepted trivial
  obtain ⟨line, inside, source, found⟩ := on?_of_mem_statements said (by simp [same])
  refine ⟨line, source, body, ?_, read⟩
  rw [same] at found
  cases inside with
  | false => exact found
  | true => exact absurd found (inside?_ne_directive settings line body)

/-- No statement sets the copyright: there is no directive for it. -/
theorem copyright_not_mem_effects (settings : Settings) (lines : List Text) (text : Text) :
    .assign .copyright text ∉ effects settings lines := by
  intro member
  obtain ⟨_, _, _, _, read⟩ := directive_of_mem_effects member
  exact (readDirective_eq_assign read).1 rfl

theorem foldl_of_forall {α β : Type} {f : β → α → β} {items : List α}
    (idle : ∀ item ∈ items, ∀ value, f value item = value) (start : β) :
    items.foldl f start = start := by
  induction items with
  | nil => rfl
  | cons item items ih =>
    obtain ⟨first, later⟩ := List.forall_mem_cons.mp idle
    rw [List.foldl_cons, first, ih later]

theorem get_program (done : List Effect) (field : Field) :
    (program done).get field = done.foldl (Effect.assigned field) [] := by
  cases field <;> rfl

theorem foldl_assigned_of_mem {field : Field} {text : Text} {done : List Effect}
    (member : .assign field text ∈ done) (first second : Text) :
    done.foldl (Effect.assigned field) first = done.foldl (Effect.assigned field) second := by
  obtain ⟨front, back, rfl⟩ := List.append_of_mem member
  simp [List.foldl_append, Effect.assigned]

/-- A field holds what some assignment gave it, if it has changed at all. -/
theorem foldl_assigned_eq_or_mem (field : Field) (done : List Effect) (start : Text) :
    done.foldl (Effect.assigned field) start = start
      ∨ .assign field (done.foldl (Effect.assigned field) start) ∈ done := by
  induction done generalizing start with
  | nil => exact Or.inl rfl
  | cons effect done ih =>
    rw [List.foldl_cons]
    rcases ih (effect.assigned field start) with kept | later
    · rw [kept]
      cases effect with
      | assign target value =>
        by_cases same : target = field
        · subst same
          exact Or.inr (by simp [Effect.assigned])
        · exact Or.inl (by simp [Effect.assigned, same])
      | _ => exact Or.inl rfl
    · exact Or.inr (List.mem_cons_of_mem _ later)

theorem copyright_of_compile {settings : Settings} {lines : List Text} {compiled : Compiled}
    (compiles : compile settings lines = .ok compiled) : compiled.program.copyright = [] := by
  rw [program_of_compile compiles]
  rcases foldl_assigned_eq_or_mem .copyright (effects settings lines) [] with unset | assigned
  · exact unset
  · exact absurd assigned (copyright_not_mem_effects settings lines _)

theorem program_quiet {middle : List Effect} (quiet : ∀ effect ∈ middle, effect.Quiet)
    (front back : List Effect) : program (front ++ (middle ++ back)) = program (front ++ back) := by
  have texts (field : Field) (start : Text) :
      middle.foldl (Effect.assigned field) start = start :=
    foldl_of_forall (fun effect member => (quiet effect member).inert.1 field) start
  have resources : middle.filterMap Effect.resource? = [] :=
    List.filterMap_eq_nil_iff.mpr fun effect member => (quiet effect member).inert.2.1
  have instructions : middle.filterMap Effect.instruction? = [] :=
    List.filterMap_eq_nil_iff.mpr fun effect member => (quiet effect member).inert.2.2
  simp only [program, List.foldl_append, List.filterMap_append, texts, resources, instructions,
    List.nil_append]

/-- Lines that are accepted and do not touch the tolerance leave the verdict to what follows. -/
theorem Accepts.fatal?_append {settings : Settings} {front : List Text} {done : List Effect}
    (accepts : Accepts settings false front done false)
    (steady : ∀ effect ∈ done, ∀ tolerant, effect.tolerance tolerant = tolerant) (tolerant : Bool)
    (back : List Text) :
    fatal? tolerant (Source.trace settings (front ++ back)) =
      (fatal? tolerant (Source.trace settings back)).map (SourceError.shift front.length) := by
  obtain ⟨kept, -, silent⟩ := accepted_steps accepts.trace
  rw [trace_append accepts.closed, Source.fatal?_append, fatal?_of_accepted silent, Option.none_or,
    foldl_tolerance, kept, foldl_of_forall steady, fatal?_shift]

end Source
end Assembler
