import Assembler.Command.Run
import Assembler.Proofs.Image.Format
import Assembler.Proofs.Source.Verdict

/-! A run of the command over files of any system. Given a source to read and a path to write to, a
run either leaves the image and, if asked, prints the listing, both of one and the same program, or
it leaves everything as it was and prints nothing. Which of the two it is depends on the compiler
and the builder alone. -/
namespace Assembler.Command

/-- What a run is to make of a source: the program that it compiles to, under the copyright that is
given if one is, and the image of that program. -/
structure Invocation.Makes (invocation : Invocation) (source : Text) (product : Product) :
    Prop where
  compiles : ∃ compiled,
    Source.compileText
      { commentMark := invocation.commentMark
        directiveMark := invocation.directiveMark
        tolerant := invocation.ignoreErrors
        joinColons := invocation.joinColons } source = .ok compiled
    ∧ product.program = { compiled.program with
      copyright := invocation.copyright.getD compiled.program.copyright }
  builds :
    Image.build (if invocation.plainVersion then .plain else .legacy) product.program =
      .ok product.image

/-- A path that a system writes to from a state on: any contents are taken, and read back
afterwards. -/
structure Files.Writable {σ : Type} (files : Files (StateM σ)) (state : σ) (path : Text) :
    Prop where
  taken : ∀ contents, ((files.write path contents).run state).1 = .ok ()
  kept : ∀ contents,
    ((files.read path).run ((files.write path contents).run state).2).1 = .ok contents

namespace Invocation

theorem finished_eq (invocation : Invocation) (program : Program) :
    invocation.finished program =
      { program with copyright := invocation.copyright.getD program.copyright } := by
  unfold finished
  cases invocation.copyright <;> rfl

theorem result_package_iff {invocation : Invocation} {compiled : Compiled} {log : List Record}
    {product : Product} :
    (invocation.package compiled log).result = .ok product ↔
      product.program = invocation.finished compiled.program
        ∧ Image.build invocation.slot product.program = .ok product.image := by
  obtain ⟨program, image⟩ := product
  simp only [package]
  constructor
  · intro packed
    split at packed
    · cases packed
    · rename_i built
      cases packed
      exact ⟨rfl, built⟩
  · rintro ⟨rfl, built⟩
    rw [built]

theorem result_assemble_iff {invocation : Invocation} {source : Text} {product : Product} :
    (invocation.assemble (.ok source)).result = .ok product ↔ invocation.Makes source product := by
  simp only [assemble]
  cases compiles : Source.compileText invocation.settings source with
  | error error =>
    constructor
    · intro assembled
      cases assembled
    · rintro ⟨⟨compiled, other, -⟩, -⟩
      cases compiles.symm.trans other
  | ok compiled =>
    rw [result_package_iff, finished_eq]
    constructor
    · rintro ⟨same, built⟩
      exact ⟨⟨compiled, compiles, same⟩, built⟩
    · rintro ⟨⟨other, again, same⟩, built⟩
      cases compiles.symm.trans again
      exact ⟨same, built⟩

section Runs

variable {σ : Type} {files : Files (StateM σ)} {invocation : Invocation} {start opened : σ}
  {source : Text}

theorem run_of_readText
    (readable : (files.readText invocation.input).run start = (.ok source, opened)) :
    (invocation.run files).run start =
      (invocation.deliver files (invocation.assemble (.ok source))).run opened := by
  rw [run, StateT.run_bind, readable]
  rfl

theorem run_of_makes {product : Product}
    (readable : (files.readText invocation.input).run start = (.ok source, opened))
    (makes : invocation.Makes source product) :
    (invocation.run files).run start =
      (invocation.conclude product (invocation.assemble (.ok source)).log
          ((files.write invocation.output product.image).run opened).1,
        ((files.write invocation.output product.image).run opened).2) := by
  rw [run_of_readText readable, deliver, result_assemble_iff.mpr makes]
  rfl

theorem run_of_not_makes
    (readable : (files.readText invocation.input).run start = (.ok source, opened))
    (nothing : ¬ ∃ product, invocation.Makes source product) :
    ∃ log message, (invocation.run files).run start = (invocation.failure log message, opened) := by
  cases assembled : (invocation.assemble (.ok source)).result with
  | ok product => exact absurd ⟨product, result_assemble_iff.mp assembled⟩ nothing
  | error message =>
    refine ⟨(invocation.assemble (.ok source)).log, message, ?_⟩
    rw [run_of_readText readable, deliver, assembled]
    rfl

end Runs
end Invocation

/-- A run is all or nothing, over the files of any system. It exits with zero exactly if the source
compiles and the image of the program, under the copyright that is given, can be built. Then that
image is written to the output path, where it is read afterwards, nothing else is written, and the
listing of that program is printed if it is asked for. Otherwise the run exits with one and prints
nothing, and the system is left as it was once the source had been read. -/
theorem run_all_or_nothing {σ : Type} (files : Files (StateM σ)) (invocation : Invocation)
    (start opened : σ) (source : Text)
    (readable : (files.readText invocation.input).run start = (.ok source, opened))
    (writable : files.Writable opened invocation.output) :
    let outcome := ((invocation.run files).run start).1
    let after := ((invocation.run files).run start).2
    (outcome.exitCode = 0 ↔ ∃ product, invocation.Makes source product)
    ∧ (∀ product, invocation.Makes source product →
      after = ((files.write invocation.output product.image).run opened).2
      ∧ ((files.read invocation.output).run after).1 = .ok product.image
      ∧ outcome.output = if invocation.listing then product.program.listing else [])
    ∧ ((¬ ∃ product, invocation.Makes source product) →
      outcome.exitCode = 1 ∧ after = opened ∧ outcome.output = []) := by
  intro outcome after
  have made (product : Product) (makes : invocation.Makes source product) :
      outcome.exitCode = 0 ∧ after = ((files.write invocation.output product.image).run opened).2
        ∧ outcome.output = if invocation.listing then product.program.listing else [] := by
    have ran := Invocation.run_of_makes readable makes
    rw [writable.taken] at ran
    exact ⟨congrArg (·.1.exitCode) ran, congrArg (·.2) ran, congrArg (·.1.output) ran⟩
  have failed (nothing : ¬ ∃ product, invocation.Makes source product) :
      outcome.exitCode = 1 ∧ after = opened ∧ outcome.output = [] := by
    obtain ⟨log, message, ran⟩ := Invocation.run_of_not_makes readable nothing
    exact ⟨congrArg (·.1.exitCode) ran, congrArg (·.2) ran, congrArg (·.1.output) ran⟩
  refine ⟨⟨?_, ?_⟩, ?_, failed⟩
  · intro succeeds
    apply Classical.byContradiction
    intro nothing
    rw [(failed nothing).1] at succeeds
    exact absurd succeeds (by decide)
  · rintro ⟨product, makes⟩
    exact (made product makes).1
  · intro product makes
    obtain ⟨-, left, printed⟩ := made product makes
    refine ⟨left, ?_, printed⟩
    rw [left]
    exact writable.kept product.image

/-- Files in a table, with the latest on top. -/
def tableFiles : Files (StateM (List (Text × Bytes))) where
  read path := do
    let table ← get
    return (table.lookup path).elim (.error .missing) .ok
  write path contents := do
    modify ((path, contents) :: ·)
    return .ok ()

/-- Two runs on one source. The first one gives it a copyright and asks for the listing; in the
second the copyright has a character that no image can hold. -/
theorem run_all_or_nothing_copyright :
    let input := "src/in".toList
    let output := "out/a.hxm".toList
    let table := [(input, [0x23, 0x54, 0x49, 0x54, 0x4C, 0x45, 0x3A, 0x20, 0x61])]
    let source := "#TITLE: a".toList
    let image : Bytes := [0x48, 0x58, 0x4D, 1, 0x61, 0, 0, 0, 0, 1, 0x63, 0x52, 0x45, 0x53, 0, 0,
      0x45, 0x58, 0x45, 0x43]
    let invocation (copyright : String) : Invocation :=
      { input, output, copyright := some copyright.toList, listing := true }
    let made := ((invocation "c").run tableFiles).run table
    let failed := ((invocation "\u20ac").run tableFiles).run table
    (tableFiles.readText input).run table = (.ok source, table)
      ∧ tableFiles.Writable table output
      ∧ made.1.exitCode = 0 ∧ made.2 = (output, image) :: table
      ∧ made.1.output = "#TITLE: a\n// copyright: c\n".toList
      ∧ failed.1.exitCode = 1 ∧ failed.2 = table ∧ failed.1.output = [] := by
  intro input output table source image invocation made failed
  let program (copyright : String) : Program := { title := ['a'], copyright := copyright.toList }
  have readable : (tableFiles.readText input).run table = (.ok source, table) := rfl
  have writable : tableFiles.Writable table output := ⟨fun _ => rfl, fun _ => rfl⟩
  have compiles : Source.compileText {} source = .ok ⟨program "", []⟩ :=
    Source.compile_eq_ok_iff.mpr (by decide +kernel +zetaReduce)
  have builds : Image.build .legacy (program "c") = .ok image :=
    Image.build_eq_ok_iff_accepted.mpr (by decide +kernel +zetaReduce)
  have makes : (invocation "c").Makes source ⟨program "c", image⟩ := ⟨⟨_, compiles, rfl⟩, builds⟩
  have nothing : ¬ ∃ product, (invocation "\u20ac").Makes source product := by
    rintro ⟨⟨_, bytes⟩, ⟨compiled, again, rfl⟩, built⟩
    cases compiles.symm.trans again
    cases built
  obtain ⟨exits, leaves, -⟩ :=
    run_all_or_nothing tableFiles (invocation "c") table table source readable writable
  obtain ⟨-, -, keeps⟩ :=
    run_all_or_nothing tableFiles (invocation "\u20ac") table table source readable writable
  obtain ⟨left, -, printed⟩ := leaves _ makes
  dsimp only [made, failed]
  exact ⟨readable, writable, exits.mpr ⟨_, makes⟩, left, printed, keeps nothing⟩

end Assembler.Command
