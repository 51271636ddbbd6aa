import Assembler.Image.Reader
import Assembler.Image.Writer
import Assembler.Proofs.Bytes

/-! The bytes of an image, stated apart from the writer and the reader. The builder writes exactly
these bytes, and it does so for exactly the programs that fit. -/
namespace Assembler

/-- The number of bytes that hold the length of a field. -/
def Field.sizeWidth : Field → Nat
  | description => 2
  | title | author | version | copyright => 1

namespace Image
namespace Format

def sized (width : Nat) (data : Bytes) : Bytes :=
  Bytes.littleEndian width data.length ++ data

def preamble (start : Preamble) : Bytes :=
  textBytes headerSignature ++ sized 1 (textBytes start.title) ++ sized 1 (textBytes start.author)
    ++ sized 2 (textBytes start.description) ++ Bytes.littleEndian 1 start.declared

def resources (blobs : List Bytes) : Bytes :=
  Bytes.littleEndian 2 blobs.length ++ blobs.flatMap (sized 2)

def instruction (i : Instruction) : Bytes :=
  i.opcode.code :: Bytes.littleEndian 2 i.opcode.operands.length ++ i.arguments

/-- What follows the declared length of the version, `slot` being the bytes in the version slot. -/
def body (slot : Bytes) (program : Program) : Bytes :=
  slot ++ sized 1 (textBytes program.copyright) ++ textBytes resourceSignature
    ++ resources program.resources ++ textBytes codeSignature
    ++ program.instructions.flatMap instruction

end Format

def preambleOf (program : Program) : Preamble :=
  { title := program.title
    author := program.author
    description := program.description
    declared := program.version.length }

/-- The text in the version slot of an image. -/
def slotText (slot : VersionSlot) (program : Program) : Text :=
  match slot with
  | .legacy => program.author
  | .plain => program.version

def contents (slot : VersionSlot) (program : Program) : Bytes :=
  Format.preamble (preambleOf program) ++ Format.body (textBytes (slotText slot program)) program

/-- The programs that have an image: characters take one byte, and every length fits into the bytes
for it. -/
structure Fits (program : Program) : Prop where
  narrow : ∀ field, Narrow (program.get field)
  size : ∀ field, (program.get field).length < Bytes.capacity field.sizeWidth
  count : program.resources.length < Bytes.capacity 2
  blobs : ∀ blob ∈ program.resources, blob.length < Bytes.capacity 2

def accepted : List Piece → Bytes
  | .ok chunk :: rest => chunk ++ accepted rest
  | _ => []

def failure? : List Piece → Option WriteError
  | [] => none
  | .error error :: _ => some error
  | .ok _ :: rest => failure? rest

theorem writeChunks_none (pieces : List Piece) (done : List Bytes) :
    (writeChunks none pieces done).1.reverse.flatten = done.reverse.flatten ++ accepted pieces
      ∧ (writeChunks none pieces done).2 = failure? pieces := by
  induction pieces generalizing done with
  | nil => simp [writeChunks, accepted, failure?]
  | cons piece rest ih =>
    cases piece with
    | error error => simp [writeChunks, accepted, failure?]
    | ok chunk =>
      obtain ⟨bytes, stop⟩ := ih (chunk :: done)
      simp only [writeChunks, accepted, failure?]
      refine ⟨?_, stop⟩
      rw [bytes]
      simp

theorem write_none (pieces : List Piece) :
    write none pieces = ⟨accepted pieces, failure? pieces⟩ := by
  obtain ⟨bytes, stop⟩ := writeChunks_none pieces []
  simp only [write]
  rw [bytes, stop]
  simp

theorem build_eq_ok_iff_accepted {slot : VersionSlot} {program : Program} {image : Bytes} :
    build slot program = .ok image ↔
      failure? (layout slot program) = none ∧ accepted (layout slot program) = image := by
  simp only [build, write_none]
  cases failure? (layout slot program) <;> simp

theorem failure?_append (front back : List Piece) :
    failure? (front ++ back) = (failure? front).or (failure? back) := by
  induction front with
  | nil => simp [failure?]
  | cons piece rest ih => cases piece <;> simp [failure?, ih]

theorem accepted_append {front : List Piece} (complete : failure? front = none)
    (back : List Piece) : accepted (front ++ back) = accepted front ++ accepted back := by
  induction front with
  | nil => rfl
  | cons piece rest ih =>
    cases piece with
    | error error => simp [failure?] at complete
    | ok chunk => simp [accepted, ih complete]

theorem accepted_append_of_failure {front : List Piece} {error : WriteError}
    (failed : failure? front = some error) (back : List Piece) :
    accepted (front ++ back) = accepted front := by
  induction front with
  | nil => cases failed
  | cons piece rest ih =>
    cases piece with
    | error _ => rfl
    | ok chunk => simp [accepted, ih failed]

/-- Pieces that write `bytes` if a condition is met and fail otherwise. -/
structure Writes (pieces : List Piece) (fits : Prop) (bytes : Bytes) : Prop where
  complete : failure? pieces = none ↔ fits
  accepts : fits → accepted pieces = bytes

namespace Writes

theorem nil : Writes [] True [] :=
  ⟨by simp [failure?], fun _ => rfl⟩

theorem append {front back : List Piece} {first last : Prop} {left right : Bytes}
    (before : Writes front first left) (after : Writes back last right) :
    Writes (front ++ back) (first ∧ last) (left ++ right) := by
  refine ⟨?_, ?_⟩
  · rw [failure?_append, Option.or_eq_none_iff, before.complete, after.complete]
  · rintro ⟨fitsFirst, fitsLast⟩
    rw [accepted_append (before.complete.mpr fitsFirst), before.accepts fitsFirst,
      after.accepts fitsLast]

theorem chunk (bytes : Bytes) : Writes [.ok bytes] True bytes :=
  ⟨by simp [failure?], fun _ => by simp [accepted]⟩

theorem size (item : Item) (width size : Nat) :
    Writes [sizePiece item width size] (size < Bytes.capacity width)
      (Bytes.littleEndian width size) := by
  refine ⟨?_, ?_⟩
  · unfold sizePiece
    split <;> simp_all [failure?]
  · intro fits
    simp [sizePiece, fits, accepted]

theorem sized (item : Item) (width : Nat) (data : Bytes) :
    Writes (Image.sized item width data) (data.length < Bytes.capacity width)
      (Format.sized width data) := by
  simpa only [Image.sized, Format.sized, List.singleton_append, and_true] using
    (size item width data.length).append (chunk data)

theorem blobs (blobs : List Bytes) (start : Nat) :
    Writes ((blobs.zipIdx start).flatMap fun (blob, id) => Image.sized (.resource id) 2 blob)
      (∀ blob ∈ blobs, blob.length < Bytes.capacity 2) (blobs.flatMap (Format.sized 2)) := by
  induction blobs generalizing start with
  | nil => simpa using nil
  | cons blob rest ih =>
    simpa only [List.zipIdx_cons, List.flatMap_cons, List.forall_mem_cons] using
      (sized (.resource start) 2 blob).append (ih (start + 1))

theorem instructions (list : List Instruction) :
    Writes (list.flatMap instructionPieces) True (list.flatMap Format.instruction) := by
  induction list with
  | nil => exact nil
  | cons i rest ih =>
    have head : Writes (instructionPieces i) True (Format.instruction i) := by
      simpa only [instructionPieces, Format.instruction, List.cons_append, List.nil_append,
        and_self] using
        (chunk [i.opcode.code]).append
          ((chunk (Bytes.littleEndian 2 i.opcode.operands.length)).append
          (chunk i.arguments))
    simpa only [List.flatMap_cons, and_self] using head.append ih

end Writes

theorem mem_fieldOrder (field : Field) : field ∈ fieldOrder := by
  cases field <;> decide

theorem wideCharacter?_eq_none_iff (program : Program) :
    wideCharacter? program = none ↔ ∀ field, Narrow (program.get field) := by
  simp only [wideCharacter?, List.findSome?_eq_none_iff, Option.map_eq_none_iff,
    List.find?_eq_none, decide_eq_true_eq, Nat.not_le, Narrow]
  constructor
  · intro narrow field
    exact narrow field (mem_fieldOrder field)
  · intro narrow field _
    exact narrow field

theorem versionPieces_eq (slot : VersionSlot) (program : Program) :
    versionPieces slot program =
      [sizePiece (.field .version) 1 program.version.length]
        ++ [.ok (textBytes (slotText slot program))] := by
  cases slot <;> simp [versionPieces, slotText]

theorem writes_version (slot : VersionSlot) (program : Program) :
    Writes (versionPieces slot program) (program.version.length < Bytes.capacity 1)
      (Bytes.littleEndian 1 program.version.length ++ textBytes (slotText slot program)) := by
  have pair := (Writes.size (.field .version) 1 program.version.length).append
    (Writes.chunk (textBytes (slotText slot program)))
  simpa only [versionPieces_eq, and_true] using pair

/-- The metadata ends inside the body, right before the resources. -/
theorem writes_metadata (slot : VersionSlot) (program : Program) :
    Writes (.ok (textBytes headerSignature) :: metadataPieces slot program)
      (∀ field, (program.get field).length < Bytes.capacity field.sizeWidth)
      (Format.preamble (preambleOf program) ++ textBytes (slotText slot program)
        ++ Format.sized 1 (textBytes program.copyright)) := by
  have whole := (Writes.chunk (textBytes headerSignature)).append
    (((((Writes.sized (.field .title) 1 (textBytes program.title)).append
      (Writes.sized (.field .author) 1 (textBytes program.author))).append
      (Writes.sized (.field .description) 2 (textBytes program.description))).append
      (writes_version slot program)).append
      (Writes.sized (.field .copyright) 1 (textBytes program.copyright)))
  have sizes : (∀ field, (program.get field).length < Bytes.capacity field.sizeWidth) ↔
      True ∧ (((program.title.length < Bytes.capacity 1 ∧ program.author.length < Bytes.capacity 1)
        ∧ program.description.length < Bytes.capacity 2)
          ∧ program.version.length < Bytes.capacity 1)
        ∧ program.copyright.length < Bytes.capacity 1 := by
    constructor
    · intro size
      exact ⟨trivial, ⟨⟨⟨size .title, size .author⟩, size .description⟩, size .version⟩,
        size .copyright⟩
    · rintro ⟨-, ⟨⟨⟨title, author⟩, description⟩, version⟩, copyright⟩ field
      cases field <;> assumption
  rw [sizes]
  simpa only [metadataPieces, Format.preamble, preambleOf, length_textBytes, List.append_assoc,
    List.singleton_append] using whole

theorem writes_layout (slot : VersionSlot) {program : Program}
    (narrow : ∀ field, Narrow (program.get field)) :
    Writes (layout slot program)
      (((∀ field, (program.get field).length < Bytes.capacity field.sizeWidth)
        ∧ program.resources.length < Bytes.capacity 2)
        ∧ ∀ blob ∈ program.resources, blob.length < Bytes.capacity 2)
      (contents slot program) := by
  have wide := (wideCharacter?_eq_none_iff program).mpr narrow
  have whole := ((((writes_metadata slot program).append
    (Writes.chunk (textBytes resourceSignature))).append
    (Writes.size .resourceCount 2 program.resources.length)).append
    (Writes.blobs program.resources 0)).append
    ((Writes.chunk (textBytes codeSignature)).append (Writes.instructions program.instructions))
  simpa only [layout, wide, resourcePieces, contents, Format.body, Format.resources, and_true,
    List.append_assoc, List.cons_append, List.nil_append] using whole

/-- The builder writes the contents of an image for the programs that fit, and for no others. -/
theorem build_eq_ok_iff {slot : VersionSlot} {program : Program} {image : Bytes} :
    build slot program = .ok image ↔ Fits program ∧ image = contents slot program := by
  rw [build_eq_ok_iff_accepted]
  by_cases narrow : ∀ field, Narrow (program.get field)
  · have writes := writes_layout slot narrow
    constructor
    · rintro ⟨complete, rfl⟩
      have fits := writes.complete.mp complete
      exact ⟨⟨narrow, fits.1.1, fits.1.2, fits.2⟩, writes.accepts fits⟩
    · rintro ⟨fits, rfl⟩
      have sizes := And.intro (And.intro fits.size fits.count) fits.blobs
      exact ⟨writes.complete.mpr sizes, writes.accepts sizes⟩
  · have refused : failure? (layout slot program) ≠ none := by
      cases wide : wideCharacter? program with
      | none => exact absurd ((wideCharacter?_eq_none_iff program).mp wide) narrow
      | some error => simp [layout, wide, failure?]
    constructor
    · rintro ⟨complete, _⟩
      exact absurd complete refused
    · rintro ⟨fits, _⟩
      exact absurd fits.narrow narrow

theorem exists_build_iff {slot : VersionSlot} {program : Program} :
    (∃ image, build slot program = .ok image) ↔ Fits program := by
  constructor
  · rintro ⟨image, built⟩
    exact (build_eq_ok_iff.mp built).1
  · intro fits
    exact ⟨_, build_eq_ok_iff.mpr ⟨fits, rfl⟩⟩

end Image
end Assembler
