import Assembler.Proofs.Listing.Recompile

/-! Copyrights of several lines. Only the first line of a copyright is in the comment of its
listing; the others are source text like any other. A copyright leaves the program alone exactly if
these lines, taken as a source, do nothing. -/
namespace Assembler.Listing
open Source

/-- Source lines that compile, leave no block open and do nothing to a program. -/
structure Silent (lines : List Text) : Prop where
  compiles : ∃ compiled, compile {} lines = .ok compiled
  closed : ∀ step ∈ trace {} lines, step.statement ≠ .unclosed
  quiet : ∀ effect ∈ effects {} lines, effect.Quiet

theorem silent_nil : Silent [] := by
  refine ⟨⟨_, rfl⟩, ?_, ?_⟩
  · intro step member
    cases member
  · intro effect member
    cases member

theorem steady_metadata (p : Program) :
    ∀ effect ∈ metadataEffects p, ∀ tolerant, effect.tolerance tolerant = tolerant := by
  intro effect member tolerant
  obtain ⟨field, -, inside⟩ := List.mem_flatMap.mp member
  unfold fieldEffects at inside
  split at inside
  · cases List.mem_singleton.mp inside
    rfl
  · cases inside

/-- What becomes of a listing is decided by the lines from the second one of the copyright on. -/
theorem listing_compiles_iff (p result : Program) :
    (∃ compiled, compileText {} p.listing = .ok compiled ∧ compiled.program = result) ↔
      fatal? false (trace {} (overflow p.copyright ++ Text.lines (body p))) = none
        ∧ program (metadataEffects p ++ effects {} (overflow p.copyright ++ Text.lines (body p))) =
          result := by
  obtain ⟨front, lines, accepts⟩ := lines_listing p
  have verdict := accepts.fatal?_append (steady_metadata p) false
    (overflow p.copyright ++ Text.lines (body p))
  have done : effects {} (front ++ (overflow p.copyright ++ Text.lines (body p))) =
      metadataEffects p ++ effects {} (overflow p.copyright ++ Text.lines (body p)) := by
    rw [effects_append accepts.closed, accepts.effects]
  simp only [compileText, lines, compile_eq_ok_iff]
  rw [verdict, Option.map_eq_none_iff, ← done]
  constructor
  · rintro ⟨compiled, ⟨passes, rfl⟩, same⟩
    exact ⟨passes, same⟩
  · rintro ⟨passes, same⟩
    exact ⟨_, ⟨passes, rfl⟩, same⟩

theorem listing_compiles_of_silent {p : Program} (silent : Silent (overflow p.copyright)) :
    ∃ compiled, compileText {} p.listing = .ok compiled ∧ compiled.program = p.expressible := by
  have closed := blockFrom_eq_none_iff.mpr silent.closed
  have rest := accepts_body p
  obtain ⟨compiled, compiles⟩ := silent.compiles
  have passes := (compile_eq_ok_iff.mp compiles).1
  refine (listing_compiles_iff p _).mpr ⟨?_, ?_⟩
  · rw [trace_append closed, fatal?_append, passes, Option.none_or, fatal?_shift,
      fatal?_of_accepted (accepted_steps rest.trace).2.2]
    rfl
  · rw [effects_append closed, rest.effects, program_quiet silent.quiet, program_effects]

/-- An instruction without operands, and a text in every field with a directive. -/
def probe (copyright : Text) : Program :=
  { title := ['t'], author := ['t'], version := ['t'], description := ['t'], copyright
    instructions := [⟨⟨⟨32, by decide +kernel⟩⟩, [], by decide +kernel⟩] }

theorem copyright_probe (copyright : Text) : (probe copyright).copyright = copyright := rfl

theorem lines_body_probe (copyright : Text) :
    Text.lines (body (probe copyright)) = ["noop".toList] := by
  have same : body (probe copyright) = body (probe []) := rfl
  rw [same]
  decide +kernel

theorem effects_open_append {lines : List Text} {line : Nat}
    (opened : blockFrom {} none 0 lines = some line) :
    effects {} (lines ++ ["noop".toList]) = effects {} lines := by
  have entry : Statement.on? {} true "noop".toList = some (.entry "noop".toList) := by decide
  have behind : statementsFrom {} (some line) (0 + lines.length) ["noop".toList] =
      [⟨0 + lines.length, .entry "noop".toList⟩] := by
    simp only [statementsFrom, Option.isSome_some, entry]
    rfl
  have still : blockFrom {} (some line) (0 + lines.length) ["noop".toList] = some line := by
    simp only [blockFrom, Option.isSome_some, entry]
    rfl
  simp only [effects, trace_eq, statementsFrom_append, blockFrom_append, opened, behind, still,
    List.map_append, List.filterMap_append, List.append_assoc]
  -- Neither the entry nor the statement for the open block has an effect.
  congr 1

/-- A program without metadata but for the copyright shows what its lines store and emit. -/
theorem program_effects_overflow {copyright : Text}
    (compiles : ∃ compiled, compileText {} (Program.listing { copyright }) = .ok compiled
      ∧ compiled.program = {}) :
    fatal? false (trace {} (overflow copyright)) = none
      ∧ program (effects {} (overflow copyright)) = {} := by
  have bare := (listing_compiles_iff { copyright } _).mp compiles
  have nothing : Text.lines (body { copyright }) = [] := rfl
  have unset : metadataEffects { copyright } = [] := rfl
  rwa [nothing, unset, List.append_nil, List.nil_append] at bare

/-- A program with an instruction shows whether a block is open where its body starts. -/
theorem closed_of_program_probe {copyright : Text}
    (result : program (metadataEffects (probe copyright)
      ++ effects {} (overflow copyright ++ Text.lines (body (probe copyright)))) =
        (probe copyright).expressible)
    (emits : (effects {} (overflow copyright)).filterMap Effect.instruction? = []) :
    blockFrom {} none 0 (overflow copyright) = none := by
  cases opened : blockFrom {} none 0 (overflow copyright) with
  | none => rfl
  | some line =>
    rw [lines_body_probe, effects_open_append opened] at result
    have instructions := congrArg Program.instructions result
    simp only [program, List.filterMap_append, emits, List.append_nil] at instructions
    cases instructions

/-- A program with a text in a field shows whether the field is assigned. -/
theorem kept_of_program_probe {copyright : Text} {done : List Effect}
    (result :
      program (metadataEffects (probe copyright) ++ (done ++ bodyEffects (probe copyright))) =
      (probe copyright).expressible)
    {field : Field} (directive : field ≠ .copyright) :
    done.foldl (Effect.assigned field) ['t'] = ['t'] := by
  have text := congrArg (Program.get · field) result
  have before : (metadataEffects (probe copyright)).foldl (Effect.assigned field) [] = ['t'] := by
    cases field with
    | copyright => contradiction
    | _ => rfl
  have wanted : (probe copyright).expressible.get field = ['t'] := by
    cases field with
    | copyright => contradiction
    | _ => rfl
  rwa [get_program, wanted, List.foldl_append, List.foldl_append, before,
    foldl_of_forall (assigned_body (probe copyright) field)] at text

theorem silent_of_listing_compiles {copyright : Text}
    (every : ∀ p : Program, p.copyright = copyright →
      ∃ compiled, compileText {} p.listing = .ok compiled ∧ compiled.program = p.expressible) :
    Silent (overflow copyright) := by
  -- Two programs are enough: a bare one for what the lines store and emit, the probe for the rest.
  obtain ⟨passes, empty⟩ := program_effects_overflow (every { copyright } rfl)
  obtain ⟨-, result⟩ := (listing_compiles_iff (probe copyright) _).mp (every (probe copyright) rfl)
  have stores : (effects {} (overflow copyright)).filterMap Effect.resource? = [] :=
    congrArg Program.resources empty
  have emits : (effects {} (overflow copyright)).filterMap Effect.instruction? = [] :=
    congrArg Program.instructions empty
  have closed := closed_of_program_probe result emits
  -- Only now can the effects of the body be told from those of the copyright.
  rw [copyright_probe, effects_append closed, (accepts_body (probe copyright)).effects] at result
  refine ⟨⟨_, compile_eq_ok_iff.mpr ⟨passes, rfl⟩⟩, blockFrom_eq_none_iff.mp closed, ?_⟩
  intro effect member
  cases effect with
  | tolerate | openBlock | closeBlock => trivial
  | store bytes => cases List.filterMap_eq_nil_iff.mp stores _ member
  | emit i => cases List.filterMap_eq_nil_iff.mp emits _ member
  | assign field text =>
    by_cases directive : field = .copyright
    · subst directive
      exact copyright_not_mem_effects {} _ _ member
    · have unset : (effects {} (overflow copyright)).foldl (Effect.assigned field) [] = [] := by
        rw [← get_program, empty]
        cases field <;> rfl
      have kept := kept_of_program_probe result directive
      rw [foldl_assigned_of_mem member ['t'] [], unset] at kept
      cases kept

/-- A copyright leaves every program alone exactly if its lines after the first do nothing. A
copyright of one line always does. -/
theorem copyright_inert_iff (copyright : Text) :
    ((∀ p : Program, ∃ listed plain,
      compileText {} (Program.listing { p with copyright }) = .ok listed
        ∧ compileText {} (Program.listing { p with copyright := [] }) = .ok plain
        ∧ listed.program = plain.program) ↔ Silent (overflow copyright))
      ∧ ('\n' ∉ copyright → Silent (overflow copyright)) := by
  refine ⟨?_, fun oneLine => overflow_of_not_mem oneLine ▸ silent_nil⟩
  have plain (p : Program) :
      compileText {} (Program.listing { p with copyright := [] }) = .ok ⟨p.expressible, []⟩ :=
    compileText_of_overflow_eq_nil rfl
  constructor
  · intro inert
    apply silent_of_listing_compiles
    rintro p rfl
    obtain ⟨listed, other, compiles, expected, same⟩ := inert p
    cases (plain p).symm.trans expected
    exact ⟨listed, compiles, same⟩
  · intro silent p
    obtain ⟨listed, compiles, same⟩ := @listing_compiles_of_silent { p with copyright } silent
    exact ⟨listed, _, compiles, plain p, same⟩

/-- A second line that is an instruction is not inert: it is emitted. -/
theorem copyright_not_inert :
    ¬ ∀ p : Program, ∃ listed plain,
      compileText {} (Program.listing { p with copyright := "x\nnoop".toList }) = .ok listed
        ∧ compileText {} (Program.listing { p with copyright := [] }) = .ok plain
        ∧ listed.program = plain.program := by
  intro inert
  obtain ⟨listed, plain, compiles, expected, same⟩ := inert {}
  have empty : compileText {} (Program.listing {}) = .ok ⟨{}, []⟩ :=
    compileText_of_overflow_eq_nil rfl
  cases empty.symm.trans expected
  have result := (program_effects_overflow ⟨listed, compiles, same⟩).2
  have lines : overflow "x\nnoop".toList = Text.lines (body (probe [])) := by
    rw [lines_body_probe]
    decide
  rw [lines, (accepts_body (probe [])).effects] at result
  cases congrArg Program.instructions result

end Assembler.Listing
