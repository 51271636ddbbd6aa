import Assembler.Proofs.Source.Verdict
import Assembler.Proofs.Text.Lines

/-! Source text that is accepted as a whole, stated so that it can be put together from pieces: what
the lines of a piece mean depends only on whether a block is open before them. -/
namespace Assembler.Source

/-- Lines without an error in them. From a place inside or outside of a block they have these
effects, and they lead to a place inside or outside of one. -/
structure Accepts (settings : Settings) (inside : Bool) (lines : List Text) (effects : List Effect)
    (after : Bool) : Prop where
  meanings : ∀ block next, block.isSome = inside →
    (statementsFrom settings block next lines).map (fun numbered =>
      numbered.statement.meaning settings.joinColons) = effects.map .ok
  leaves : ∀ block next, block.isSome = inside →
    (blockFrom settings block next lines).isSome = after

namespace Accepts

variable {settings : Settings} {inside middle after : Bool}

theorem nil : Accepts settings inside [] [] inside :=
  ⟨fun _ _ _ => rfl, fun _ _ same => same⟩

theorem append {front back : List Text} {first last : List Effect}
    (before : Accepts settings inside front first middle)
    (behind : Accepts settings middle back last after) :
    Accepts settings inside (front ++ back) (first ++ last) after := by
  refine ⟨?_, ?_⟩
  · intro block next same
    have between := before.leaves block next same
    rw [statementsFrom_append, List.map_append, before.meanings block next same,
      behind.meanings _ _ between, List.map_append]
  · intro block next same
    rw [blockFrom_append]
    exact behind.leaves _ _ (before.leaves block next same)

theorem silent {line : Text} (nothing : Statement.on? settings inside line = none) :
    Accepts settings inside [line] [] inside := by
  refine ⟨?_, ?_⟩
  · rintro block next rfl
    simp [statementsFrom, nothing]
  · rintro block next rfl
    simp [blockFrom, nothing, Statement.blockAfter]

theorem opener {line : Text} (found : Statement.on? settings inside line = some .opener) :
    Accepts settings inside [line] [.openBlock] true := by
  refine ⟨?_, ?_⟩
  · rintro block next rfl
    simp [statementsFrom, found, Statement.meaning]
  · rintro block next rfl
    simp [blockFrom, found, Statement.blockAfter]

theorem closer {line : Text} (found : Statement.on? settings inside line = some .closer) :
    Accepts settings inside [line] [.closeBlock] false := by
  refine ⟨?_, ?_⟩
  · rintro block next rfl
    simp [statementsFrom, found, Statement.meaning]
  · rintro block next rfl
    simp [blockFrom, found, Statement.blockAfter]

theorem statement {line : Text} {statement : Statement} {effect : Effect}
    (found : Statement.on? settings inside line = some statement)
    (meaning : statement.meaning settings.joinColons = .ok effect)
    (plain : statement ≠ .opener ∧ statement ≠ .closer) :
    Accepts settings inside [line] [effect] inside := by
  refine ⟨?_, ?_⟩
  · rintro block next rfl
    simp [statementsFrom, found, meaning]
  · rintro block next rfl
    cases statement <;> simp_all [blockFrom, Statement.blockAfter]

end Accepts

/-- A text of whole lines that are accepted, whatever follows them. -/
def AcceptsText (settings : Settings) (inside : Bool) (text : Text) (effects : List Effect)
    (after : Bool) : Prop :=
  ∃ rows, (∀ back, Text.lines (text ++ back) = rows ++ Text.lines back)
    ∧ Accepts settings inside rows effects after

namespace AcceptsText

variable {settings : Settings} {inside middle after : Bool}

theorem nil : AcceptsText settings inside [] [] inside :=
  ⟨[], fun _ => rfl, .nil⟩

theorem append {front back : Text} {first last : List Effect}
    (before : AcceptsText settings inside front first middle)
    (behind : AcceptsText settings middle back last after) :
    AcceptsText settings inside (front ++ back) (first ++ last) after := by
  obtain ⟨frontRows, frontLines, frontAccepts⟩ := before
  obtain ⟨backRows, backLines, backAccepts⟩ := behind
  refine ⟨frontRows ++ backRows, ?_, frontAccepts.append backAccepts⟩
  intro rest
  rw [List.append_assoc, frontLines, backLines, List.append_assoc]

theorem row {row : Text} {effects : List Effect} (oneLine : '\n' ∉ row)
    (accepts : Accepts settings inside [Text.dropReturn row] effects after) :
    AcceptsText settings inside (Listing.line row) effects after :=
  ⟨[Text.dropReturn row], fun back => by
    rw [Text.lines_line_append, Text.rowLines_of_not_mem oneLine], accepts⟩

end AcceptsText

theorem accepted_steps {steps : List Step} {effects : List Effect}
    (accepted : steps.map Step.outcome = effects.map .ok) :
    steps.filterMap Step.effect? = effects ∧ steps.filterMap Step.error? = []
      ∧ ∀ step ∈ steps, step.error? = none := by
  induction steps generalizing effects with
  | nil =>
    cases effects with
    | nil => simp
    | cons effect effects => cases accepted
  | cons step steps ih =>
    cases effects with
    | nil => cases accepted
    | cons effect effects =>
      simp only [List.map_cons, List.cons.injEq] at accepted
      obtain ⟨first, later⟩ := accepted
      obtain ⟨rest, errors, none⟩ := ih later
      have kept : step.effect? = some effect := by rw [Step.effect?, first]
      have silent : step.error? = Option.none := by rw [Step.error?, first]
      simp only [List.filterMap_cons, kept, silent, rest, errors, true_and, List.forall_mem_cons]
      exact none

theorem Accepts.closed {settings : Settings} {lines : List Text} {done : List Effect}
    (accepts : Accepts settings false lines done false) :
    blockFrom settings none 0 lines = none := by
  simpa using accepts.leaves none 0 rfl

theorem Accepts.trace {settings : Settings} {lines : List Text} {effects : List Effect}
    (accepts : Accepts settings false lines effects false) :
    (trace settings lines).map Step.outcome = effects.map .ok := by
  rw [trace_of_closed accepts.closed, List.map_map]
  exact accepts.meanings none 0 rfl

theorem Accepts.compile {settings : Settings} {lines : List Text} {effects : List Effect}
    (accepts : Accepts settings false lines effects false) :
    compile settings lines = .ok ⟨program effects, []⟩ := by
  obtain ⟨kept, errors, silent⟩ := accepted_steps accepts.trace
  rw [compile_eq_ok_iff, kept, errors]
  exact ⟨fatal?_of_accepted silent _, rfl⟩

theorem AcceptsText.lines {settings : Settings} {inside after : Bool} {text : Text}
    {effects : List Effect} (accepts : AcceptsText settings inside text effects after) :
    Accepts settings inside (Text.lines text) effects after := by
  obtain ⟨rows, whole, accepts⟩ := accepts
  have same : Text.lines text = rows := by simpa [Text.lines] using whole []
  rwa [same]

end Assembler.Source
