import Assembler.Proofs.Listing.Recompile

/-! From source text to a program, its listing and back. A text in a program that was compiled is
the value of a directive: it has lost its leading blanks, the comment behind it and the end of its
line, and that is all that a directive in a listing asks of a text. So only resources can be lost,
those that no entry gives. -/
namespace Assembler

namespace Source

theorem clean?_eq_some {commentMark line text : Text}
    (cleaned : Statement.clean? commentMark line = some text) :
    text <:+: line ∧ (commentMark ≠ [] → ¬ commentMark <:+: text) := by
  have start : Text.trimStart line <:+: line := (Text.trimStart_isSuffix line).isInfix
  simp only [Statement.clean?, Option.ite_none_left_eq_some, Option.some.injEq] at cleaned
  obtain ⟨-, rfl⟩ := cleaned
  split
  · rename_i unmarked
    exact ⟨start, fun marked => absurd (List.isEmpty_iff.mp unmarked) marked⟩
  · refine ⟨(Text.before_isPrefix _ _).isInfix.trans start, ?_⟩
    intro marked found
    have absent := Text.occurs_before marked (Text.trimStart line)
    rw [Text.occurs_iff.mpr found] at absent
    cases absent

/-- The body of a directive is a part of its line that ends in front of the comment. -/
theorem directive_body {settings : Settings} {line body : Text}
    (found : Statement.outside? settings line = some (.directive body)) :
    body <:+: line ∧ (settings.commentMark ≠ [] → ¬ settings.commentMark <:+: body) := by
  obtain ⟨-, cleaned⟩ := Statement.outside?_eq_directive_iff.mp found
  obtain ⟨part, uncommented⟩ := clean?_eq_some cleaned
  have rest : body <:+: settings.directiveMark ++ body := (List.suffix_append _ _).isInfix
  exact ⟨rest.trans part, fun marked inside => uncommented marked (inside.trans rest)⟩

theorem value_readDirective {body text : Text} {field : Field}
    (read : Statement.readDirective body = .ok (.assign field text)) :
    text <:+: body ∧ ∀ c, text.head? = some c → Text.isBlank c = false := by
  obtain ⟨-, rfl⟩ := readDirective_eq_assign read
  refine ⟨(Text.trimStart_isSuffix _).isInfix.trans ?_, fun c => Text.not_blank_of_head_trimStart⟩
  cases cut : Text.cutAt? (· == ':') body with
  | none => exact List.nil_infix
  | some parts => exact (Text.cutAt?_isSuffix cut).isInfix

theorem directiveText_of_mem_effects {settings : Settings} {lines : List Text}
    (comments : settings.commentMark = "//".toList)
    (whole : ∀ line ∈ lines, '\n' ∉ line ∧ '\r' ∉ line) {field : Field} {text : Text}
    (member : .assign field text ∈ effects settings lines) : DirectiveText text := by
  obtain ⟨line, source, body, found, read⟩ := directive_of_mem_effects member
  obtain ⟨ofLine, uncommented⟩ := directive_body found
  obtain ⟨ofBody, start⟩ := value_readDirective read
  have part : text <:+: line := ofBody.trans ofLine
  rw [comments] at uncommented
  refine ⟨start, ?_, ?_, ?_⟩
  · intro comment
    exact uncommented (by decide) (comment.trans ofBody)
  · intro feed
    exact (whole line source).1 (part.subset feed)
  · intro ret
    exact (whole line source).2 (part.subset ret)

theorem directiveText_of_compile {settings : Settings} {lines : List Text} {compiled : Compiled}
    (comments : settings.commentMark = "//".toList)
    (whole : ∀ line ∈ lines, '\n' ∉ line ∧ '\r' ∉ line)
    (compiles : compile settings lines = .ok compiled) (field : Field) :
    DirectiveText (compiled.program.get field) := by
  rw [program_of_compile compiles, get_program]
  rcases foldl_assigned_eq_or_mem field (effects settings lines) [] with unset | assigned
  · rw [unset]
    decide
  · exact directiveText_of_mem_effects comments whole assigned

end Source

/-- Of a program whose texts a listing can say, only resources are lost. -/
theorem Program.expressible_of_directiveText {program : Program}
    (carried : ∀ field, DirectiveText (program.get field)) (unset : program.copyright = []) :
    program.expressible = { program with resources := program.resources.filter (HasEntry ·) } := by
  have title : DirectiveText program.title := carried .title
  have author : DirectiveText program.author := carried .author
  have version : DirectiveText program.version := carried .version
  have description : DirectiveText program.description := carried .description
  simp only [expressible, title, author, version, description, if_true, unset]

namespace Listing
open Source

/-- A program that was compiled from source text comes back from its listing, apart from resources
that no entry gives. Carriage returns have to be parts of line endings: any other one in a value
makes the value a comment in the listing. -/
theorem compileText_listing_compiled {settings : Settings} {text : Text} {compiled : Compiled}
    (comments : settings.commentMark = "//".toList) (ends : Text.ReturnsEndLines text)
    (compiles : compileText settings text = .ok compiled) :
    ∃ again, compileText {} compiled.program.listing = .ok again
      ∧ again.skipped = []
      ∧ (∀ field, again.program.get field = compiled.program.get field)
      ∧ again.program.instructions = compiled.program.instructions
      ∧ (again.program = compiled.program ↔
        ∀ blob ∈ compiled.program.resources, HasEntry blob) := by
  have whole (line : Text) (member : line ∈ Text.lines text) : '\n' ∉ line ∧ '\r' ∉ line :=
    ⟨Text.feed_not_mem_lines member, Text.return_not_mem_lines ends member⟩
  have carried := directiveText_of_compile comments whole compiles
  have unset := copyright_of_compile compiles
  have again := compileText_of_overflow_eq_nil (congrArg overflow unset)
  rw [Program.expressible_of_directiveText carried unset] at again
  refine ⟨_, again, rfl, ?_, rfl, ?_⟩
  · intro field
    cases field <;> rfl
  · have kept : compiled.program.resources.filter (HasEntry ·) = compiled.program.resources ↔
        ∀ blob ∈ compiled.program.resources, HasEntry blob := by
      simp only [List.filter_eq_self, decide_eq_true_eq]
    rw [← kept]
    constructor
    · intro same
      exact congrArg Program.resources same
    · intro same
      simp only [same]

/-- A comment behind the title, line endings of both kinds, and a resource of three tabs that is
lost. -/
theorem compileText_listing_compiled_tabs :
    let settings : Settings := { directiveMark := "@".toList, tolerant := true, joinColons := true }
    let text := "@title:  a: b// c\r\n@what\nResources\r\nSTR:\t:\t\t\r\nLONG:-1\nend\nvar 7".toList
    let program : Program :=
      { title := "a: b".toList
        resources := [[9, 9, 9], [255, 255, 255, 255, 255, 255, 255, 255]]
        instructions := [⟨⟨⟨1, by decide +kernel⟩⟩, [7, 0, 0, 0], by decide +kernel⟩] }
    Text.ReturnsEndLines text
      ∧ compileText settings text = .ok ⟨program, [⟨1, .unknownDirective "what".toList⟩]⟩
      ∧ ∃ again, compileText {} program.listing = .ok again ∧ again.skipped = []
        ∧ again.program.title = program.title
        ∧ again.program.instructions = program.instructions ∧ again.program ≠ program := by
  intro settings text program
  have ends : Text.ReturnsEndLines text := by decide +kernel +zetaReduce
  have compiles : compileText settings text =
      .ok ⟨program, [⟨1, .unknownDirective "what".toList⟩]⟩ :=
    compile_eq_ok_iff.mpr ⟨by decide +kernel +zetaReduce, by decide +kernel +zetaReduce⟩
  obtain ⟨again, listed, nothing, texts, code, same⟩ :=
    compileText_listing_compiled rfl ends compiles
  refine ⟨ends, compiles, again, listed, nothing, texts .title, code, ?_⟩
  intro kept
  exact absurd (same.mp kept [9, 9, 9] List.mem_cons_self) (by decide)

end Listing
end Assembler
