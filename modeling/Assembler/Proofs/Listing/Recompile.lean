import Assembler.Proofs.Listing.Instructions
import Assembler.Proofs.Listing.Resources
import Assembler.Proofs.Source.Effects

/-! What a listing compiles to. All lines of a listing are accepted, apart from those that a
copyright adds when it has more than one line. So the program comes back but for what the source
language cannot say. -/
namespace Assembler

/-- The part of a program that source text can give. -/
def Program.expressible (program : Program) : Program :=
  let carried (text : Text) : Text := if DirectiveText text then text else []
  { title := carried program.title
    author := carried program.author
    version := carried program.version
    description := carried program.description
    copyright := []
    resources := program.resources.filter (HasEntry ·)
    instructions := program.instructions }

namespace Listing
open Source

def metadataEffects (program : Program) : List Effect :=
  [Field.title, .author, .version, .description].flatMap fun field =>
    fieldEffects field (program.get field)

/-- The resources and the instructions, which stand behind the copyright. -/
def body (program : Program) : Text :=
  resources program.resources ++ program.instructions.flatMap instruction

def bodyEffects (program : Program) : List Effect :=
  blockEffects program.resources ++ program.instructions.map .emit

/-- The lines of a copyright after the first. They are not part of the comment. -/
def overflow (copyright : Text) : List Text :=
  (Text.rowLines copyright).tail

theorem overflow_of_not_mem {copyright : Text} (oneLine : '\n' ∉ copyright) :
    overflow copyright = [] := by
  rw [overflow, Text.rowLines_of_not_mem oneLine]
  rfl

/-- Only the first line of a copyright is in the comment. -/
theorem lines_copyright (text : Text) : ∃ rows,
    (∀ back, Text.lines (copyright text ++ back) = rows ++ (overflow text ++ Text.lines back))
      ∧ Accepts {} false rows [] false := by
  unfold copyright
  split
  · rename_i empty
    obtain rfl := List.isEmpty_iff.mp empty
    exact ⟨[], fun _ => rfl, .nil⟩
  · obtain ⟨first, later, split⟩ := List.exists_cons_of_ne_nil (List.splitOn_ne_nil '\n' text)
    have rows : Text.rowLines ("// copyright: ".toList ++ text) =
        ("//".toList ++ (" copyright: ".toList ++ Text.dropReturn first)) :: overflow text := by
      rw [Text.rowLines, Text.splitOn_append_of_not_mem (by decide), overflow, Text.rowLines, split,
        List.modifyHead_cons, List.map_cons, Text.dropReturn_append (by decide)]
      rfl
    refine ⟨_, fun back => ?_, accepts_comment (" copyright: ".toList ++ Text.dropReturn first)⟩
    rw [Text.lines_line_append, rows]
    rfl

theorem accepts_body (program : Program) :
    Accepts {} false (Text.lines (body program)) (bodyEffects program) false :=
  ((accepts_resources _).append (accepts_instructions _)).lines

theorem accepts_metadata_lines (program : Program) :
    AcceptsText {} false
      (metadata .title program.title ++ metadata .author program.author
        ++ metadata .version program.version ++ metadata .description program.description)
      (metadataEffects program) false := by
  have title := accepts_metadata (by decide : Field.title ≠ .copyright) program.title
  have author := accepts_metadata (by decide : Field.author ≠ .copyright) program.author
  have version := accepts_metadata (by decide : Field.version ≠ .copyright) program.version
  have description := accepts_metadata (by decide : Field.description ≠ .copyright)
    program.description
  have whole := ((title.append author).append version).append description
  simpa only [metadataEffects, Program.get, List.flatMap_cons, List.flatMap_nil, List.append_nil,
    List.append_assoc] using whole

theorem lines_listing (program : Program) : ∃ front,
    Text.lines program.listing = front ++ (overflow program.copyright ++ Text.lines (body program))
      ∧ Accepts {} false front (metadataEffects program) false := by
  obtain ⟨metadataRows, metadataLines, metadataAccepts⟩ := accepts_metadata_lines program
  obtain ⟨comment, copyrightLines, commentAccepts⟩ := lines_copyright program.copyright
  refine ⟨metadataRows ++ comment, ?_, ?_⟩
  · calc Text.lines program.listing
        = Text.lines (_ ++ (copyright program.copyright ++ body program)) := by
          rw [Program.listing, body, List.append_assoc, List.append_assoc]
      _ = metadataRows ++ comment
          ++ (overflow program.copyright ++ Text.lines (body program)) := by
          rw [metadataLines, copyrightLines, List.append_assoc]
  · simpa using metadataAccepts.append commentAccepts

theorem assigned_body (program : Program) (field : Field) :
    ∀ effect ∈ bodyEffects program, ∀ text, effect.assigned field text = text := by
  intro effect member text
  rcases List.mem_append.mp member with block | code
  · unfold blockEffects at block
    split at block
    · cases block
    · simp only [List.cons_append, List.mem_cons, List.mem_append, List.mem_map, List.not_mem_nil,
        or_false] at block
      rcases block with rfl | ⟨bytes, -, rfl⟩ | rfl <;> rfl
  · obtain ⟨i, -, rfl⟩ := List.mem_map.mp code
    rfl

theorem foldl_assigned_fieldEffects (assigned field : Field) (text start : Text) :
    (fieldEffects assigned text).foldl (Effect.assigned field) start =
      if assigned = field ∧ text ≠ [] ∧ DirectiveText text then text else start := by
  unfold fieldEffects
  by_cases listed : text ≠ [] ∧ DirectiveText text
  · simp [listed, Effect.assigned]
  · simp [listed]

theorem carried_eq (text : Text) :
    (if text ≠ [] ∧ DirectiveText text then text else []) =
      if DirectiveText text then text else [] := by
  by_cases empty : text = []
  · simp [empty]
  · simp [empty]

theorem resource?_effects (p : Program) :
    (metadataEffects p ++ bodyEffects p).filterMap Effect.resource? =
      p.resources.filter (HasEntry ·) := by
  have silent (field : Field) (text : Text) :
      (fieldEffects field text).filterMap Effect.resource? = [] := by
    unfold fieldEffects
    split <;> rfl
  have stores (blobs : List Bytes) : (blobs.map .store).filterMap Effect.resource? = blobs := by
    rw [List.filterMap_map]
    exact List.filterMap_some
  have stored : (blockEffects p.resources).filterMap Effect.resource? =
      p.resources.filter (HasEntry ·) := by
    unfold blockEffects
    split
    · rename_i empty
      rw [empty]
      rfl
    · rw [List.filterMap_append, List.filterMap_cons, stores]
      exact List.append_nil _
  have emitted : (p.instructions.map .emit).filterMap Effect.resource? = [] := by
    rw [List.filterMap_map]
    exact List.filterMap_eq_nil_iff.mpr fun _ _ => rfl
  simp only [metadataEffects, bodyEffects, List.flatMap_cons, List.flatMap_nil,
    List.filterMap_append, silent, stored, emitted, List.nil_append, List.append_nil]

theorem instruction?_effects (p : Program) :
    (metadataEffects p ++ bodyEffects p).filterMap Effect.instruction? = p.instructions := by
  have silent (field : Field) (text : Text) :
      (fieldEffects field text).filterMap Effect.instruction? = [] := by
    unfold fieldEffects
    split <;> rfl
  have stores (blobs : List Bytes) : (blobs.map .store).filterMap Effect.instruction? = [] := by
    rw [List.filterMap_map]
    exact List.filterMap_eq_nil_iff.mpr fun _ _ => rfl
  have stored : (blockEffects p.resources).filterMap Effect.instruction? = [] := by
    unfold blockEffects
    split
    · rfl
    · rw [List.filterMap_append, List.filterMap_cons, stores]
      rfl
  have emitted : (p.instructions.map .emit).filterMap Effect.instruction? = p.instructions := by
    rw [List.filterMap_map]
    exact List.filterMap_some
  simp only [metadataEffects, bodyEffects, List.flatMap_cons, List.flatMap_nil,
    List.filterMap_append, silent, stored, emitted, List.nil_append, List.append_nil]

theorem program_effects (p : Program) :
    program (metadataEffects p ++ bodyEffects p) = p.expressible := by
  have texts (field : Field) :
      (metadataEffects p ++ bodyEffects p).foldl (Effect.assigned field) [] =
      p.expressible.get field := by
    rw [List.foldl_append, foldl_of_forall (assigned_body p field)]
    simp only [metadataEffects, List.flatMap_cons, List.flatMap_nil, List.append_nil,
      List.foldl_append, foldl_assigned_fieldEffects]
    cases field <;> simp [Program.get, Program.expressible, ← carried_eq]
  simp only [program, texts, resource?_effects, instruction?_effects]
  rfl

theorem compileText_of_overflow_eq_nil {p : Program} (contained : overflow p.copyright = []) :
    compileText {} p.listing = .ok ⟨p.expressible, []⟩ := by
  obtain ⟨front, lines, accepts⟩ := lines_listing p
  rw [contained, List.nil_append] at lines
  rw [compileText, lines, (accepts.append (accepts_body p)).compile, program_effects]

/-- A listing compiles without an error, to the part of the program that source text can give,
provided that the copyright is one line. -/
theorem compileText_listing (p : Program) (oneLine : '\n' ∉ p.copyright) :
    compileText {} p.listing = .ok ⟨p.expressible, []⟩ :=
  compileText_of_overflow_eq_nil (overflow_of_not_mem oneLine)

/-- Lost are a title that starts with a blank and a resource of three bytes. -/
theorem compileText_listing_mixed :
    '\n' ∉ "2020 // a".toList ∧
      compileText {} (Program.listing
        { title := " a".toList, author := "b: c".toList, copyright := "2020 // a".toList
          resources := [[0, 1, 2], [0, 1], [0x2C, 0x20]]
          instructions :=
            [⟨⟨⟨15, by decide +kernel⟩⟩, [5, 0, 0, 0, 1, 2, 0, 0], by decide +kernel⟩] }) =
      .ok ⟨{ author := "b: c".toList, resources := [[0, 1], [0x2C, 0x20]]
             instructions :=
              [⟨⟨⟨15, by decide +kernel⟩⟩, [5, 0, 0, 0, 1, 2, 0, 0], by decide +kernel⟩] }, []⟩ :=
  ⟨by decide, compileText_listing _ (by decide)⟩

end Listing
end Assembler
