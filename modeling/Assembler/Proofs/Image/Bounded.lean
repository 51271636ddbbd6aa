import Assembler.Proofs.Image.Legacy

/-! Writing into a buffer of bounded size. There is one byte string that every buffer gets as far as
it has room, and one result for all buffers that have room for it. Where a length does not fit into
its bytes, that string is what stands in front of the length. -/
namespace Assembler.Image

/-- A buffer takes what fits, and is full if there is more. -/
theorem writeChunks_some (room : Nat) (pieces : List Piece) (done : List Bytes) :
    (writeChunks (some room) pieces done).1.reverse.flatten =
        done.reverse.flatten ++ (accepted pieces).take room
      ∧ (writeChunks (some room) pieces done).2 =
        if (accepted pieces).length ≤ room then failure? pieces else some .full := by
  induction pieces generalizing room done with
  | nil => simp [writeChunks, accepted, failure?]
  | cons piece rest ih =>
    cases piece with
    | error error => simp [writeChunks, accepted, failure?]
    | ok chunk =>
      rw [accepted, List.take_append, List.length_append]
      by_cases fits : chunk.length ≤ room
      · obtain ⟨bytes, stop⟩ := ih (room - chunk.length) (chunk :: done)
        have left : (accepted rest).length ≤ room - chunk.length ↔
            chunk.length + (accepted rest).length ≤ room := by omega
        simp only [writeChunks, fits, if_true, bytes, stop, left, failure?, and_true]
        rw [List.take_of_length_le fits]
        simp
      · have more : ¬ chunk.length + (accepted rest).length ≤ room := by omega
        have nothing : room - chunk.length = 0 := by omega
        simp [writeChunks, fits, more, nothing]

theorem write_some (room : Nat) (pieces : List Piece) :
    write (some room) pieces =
      if (accepted pieces).length ≤ room then ⟨accepted pieces, failure? pieces⟩
      else ⟨(accepted pieces).take room, some .full⟩ := by
  obtain ⟨bytes, stop⟩ := writeChunks_some room pieces []
  simp only [write]
  rw [bytes, stop]
  split
  · rename_i fits
    simp [List.take_of_length_le fits]
  · simp

theorem build_eq_error_iff {slot : VersionSlot} {program : Program} {error : WriteError} :
    build slot program = .error error ↔ failure? (layout slot program) = some error := by
  simp only [build, write_none]
  cases failure? (layout slot program) <;> simp

namespace Format

def slotted (slot : VersionSlot) (program : Program) : Bytes :=
  preamble (preambleOf program) ++ textBytes (slotText slot program)

def texts (slot : VersionSlot) (program : Program) : Bytes :=
  slotted slot program ++ sized 1 (textBytes program.copyright) ++ textBytes resourceSignature

/-- What stands in an image in front of the length of an item. -/
def before (slot : VersionSlot) (program : Program) : Item → Bytes
  | .field .title => textBytes headerSignature
  | .field .author => textBytes headerSignature ++ sized 1 (textBytes program.title)
  | .field .description =>
    textBytes headerSignature ++ sized 1 (textBytes program.title)
      ++ sized 1 (textBytes program.author)
  | .field .version => heading (preambleOf program)
  | .field .copyright => slotted slot program
  | .resourceCount => texts slot program
  | .resource id =>
    texts slot program ++ Bytes.littleEndian 2 program.resources.length
      ++ (program.resources.take id).flatMap (sized 2)

end Format

/-- Pieces that come behind `front`, and fail if at all at the length of an item, with just the
bytes in front of it written. -/
def StopsBefore (before : Item → Bytes) (front : Bytes) (pieces : List Piece) : Prop :=
  ∀ error, failure? pieces = some error →
    ∃ item size limit, error = .oversized item size limit ∧ front ++ accepted pieces = before item

namespace StopsBefore

variable {before : Item → Bytes} {front : Bytes}

theorem of_complete {pieces : List Piece} (complete : failure? pieces = none) :
    StopsBefore before front pieces := by
  intro error failed
  rw [complete] at failed
  cases failed

theorem append {first last : List Piece} {fits : Prop} {bytes : Bytes}
    (stops : StopsBefore before front first) (writes : Writes first fits bytes)
    (behind : StopsBefore before (front ++ bytes) last) :
    StopsBefore before front (first ++ last) := by
  intro error failed
  rw [failure?_append] at failed
  cases early : failure? first with
  | none =>
    rw [early, Option.none_or] at failed
    obtain ⟨item, size, limit, rfl, same⟩ := behind error failed
    refine ⟨item, size, limit, rfl, ?_⟩
    rw [accepted_append early, writes.accepts (writes.complete.mp early), ← List.append_assoc, same]
  | some found =>
    rw [early, Option.some_or, Option.some.injEq] at failed
    obtain ⟨item, size, limit, cause, same⟩ := stops found early
    refine ⟨item, size, limit, failed ▸ cause, ?_⟩
    rw [accepted_append_of_failure early, same]

theorem size {item : Item} (here : before item = front) (width size : Nat) :
    StopsBefore before front [sizePiece item width size] := by
  intro error failed
  unfold sizePiece at failed ⊢
  split at failed
  · cases failed
  · rename_i large
    cases failed
    refine ⟨item, size, _, rfl, ?_⟩
    simp [large, accepted, here]

/-- A length and the data behind it, which may be of another size in the version slot. -/
theorem sized {item : Item} (here : before item = front) (width size : Nat) (data : Bytes) :
    StopsBefore before front ([sizePiece item width size] ++ [.ok data]) :=
  (StopsBefore.size here width size).append (Writes.size item width size) (of_complete rfl)

theorem blobs {list : List Bytes} {start : Nat}
    (here : ∀ n, before (.resource (start + n)) = front ++ (list.take n).flatMap (Format.sized 2)) :
    StopsBefore before front
      ((list.zipIdx start).flatMap fun (blob, id) => Image.sized (.resource id) 2 blob) := by
  induction list generalizing start front with
  | nil => exact of_complete rfl
  | cons blob rest ih =>
    have first : before (.resource start) = front := by simpa using here 0
    have later (n : Nat) : before (.resource (start + 1 + n)) =
        front ++ Format.sized 2 blob ++ (rest.take n).flatMap (Format.sized 2) := by
      simpa [Nat.add_assoc, Nat.add_comm 1] using here (n + 1)
    exact (sized first 2 blob.length blob).append (Writes.sized (.resource start) 2 blob) (ih later)

end StopsBefore

/-- A layout without wide characters fails if at all at a length. -/
theorem stopsBefore_layout (slot : VersionSlot) {program : Program}
    (narrow : wideCharacter? program = none) :
    StopsBefore (Format.before slot program) [] (layout slot program) := by
  -- From the last piece to the first: each `have` puts one more in front.
  have code : StopsBefore (Format.before slot program)
      (Format.before slot program .resourceCount
        ++ Bytes.littleEndian 2 program.resources.length
        ++ program.resources.flatMap (Format.sized 2))
      ([.ok (textBytes codeSignature)] ++ program.instructions.flatMap instructionPieces) :=
    .of_complete <|
      ((Writes.chunk _).append (Writes.instructions _)).complete.mpr ⟨trivial, trivial⟩
  have blobs := (StopsBefore.blobs fun n => by rw [Nat.zero_add]; rfl).append
    (Writes.blobs program.resources 0) code
  have count := (StopsBefore.size rfl 2 program.resources.length).append
    (Writes.size .resourceCount 2 program.resources.length) blobs
  have mark := (StopsBefore.of_complete rfl).append
    (Writes.chunk (textBytes resourceSignature)) count
  have copyright := (StopsBefore.sized rfl 1 _ _).append
    (Writes.sized (.field .copyright) 1 (textBytes program.copyright)) mark
  have slotted : Format.before slot program (.field .copyright) =
      Format.before slot program (.field .version)
        ++ (Bytes.littleEndian 1 program.version.length ++ textBytes (slotText slot program)) := by
    simp only [Format.before, Format.slotted, Format.preamble, Format.heading, preambleOf,
      List.append_assoc]
  have version := (StopsBefore.sized rfl 1 _ _).append
    (versionPieces_eq slot program ▸ writes_version slot program) (slotted ▸ copyright)
  have description := (StopsBefore.sized rfl 2 _ _).append
    (Writes.sized (.field .description) 2 (textBytes program.description)) version
  have author := (StopsBefore.sized rfl 1 _ _).append
    (Writes.sized (.field .author) 1 (textBytes program.author)) description
  have title := (StopsBefore.sized rfl 1 _ _).append
    (Writes.sized (.field .title) 1 (textBytes program.title)) author
  have whole : StopsBefore (Format.before slot program) [] _ :=
    (StopsBefore.of_complete rfl).append (Writes.chunk (textBytes headerSignature)) title
  simpa only [layout, narrow, metadataPieces, resourcePieces, versionPieces_eq, sized,
    List.append_assoc, List.cons_append, List.nil_append] using whole

/-- Why a layout fails, and what is written before it does. -/
theorem failure?_layout_cases {slot : VersionSlot} {program : Program} {error : WriteError}
    (failed : failure? (layout slot program) = some error) :
    (∃ field c, error = .wideCharacter field c ∧ accepted (layout slot program) = [])
      ∨ ∃ item size limit, error = .oversized item size limit
        ∧ accepted (layout slot program) = Format.before slot program item := by
  cases wide : wideCharacter? program with
  | some found =>
    obtain ⟨field, -, character⟩ := List.exists_of_findSome?_eq_some wide
    obtain ⟨c, -, rfl⟩ := Option.map_eq_some_iff.mp character
    have only : layout slot program = [.error (.wideCharacter field c)] := by rw [layout, wide]
    rw [only] at failed ⊢
    cases failed
    exact Or.inl ⟨field, c, rfl, rfl⟩
  | none => exact Or.inr (stopsBefore_layout slot wide error failed)

/-- Every buffer gets a first part of one and the same byte string: the image where there is one,
nothing where a character is too wide, and the bytes in front of the first length that does not fit
otherwise. A buffer that has room for the string leaves the result to the program, any other is
full. -/
theorem writeInto_bounded (slot : VersionSlot) (program : Program) :
    ∃ (bytes : Bytes) (failure : Option WriteError),
      (∀ room, writeInto slot room program =
        if bytes.length ≤ room then ⟨bytes, failure⟩ else ⟨bytes.take room, some .full⟩)
      ∧ (∀ image, build slot program = .ok image → bytes = image ∧ failure = none)
      ∧ (∀ field c, build slot program = .error (.wideCharacter field c) →
        bytes = [] ∧ failure = some (.wideCharacter field c))
      ∧ (∀ item size limit, build slot program = .error (.oversized item size limit) →
        bytes = Format.before slot program item ∧ failure = some (.oversized item size limit))
      ∧ build slot program ≠ .error .full := by
  refine ⟨accepted (layout slot program), failure? (layout slot program),
    fun room => write_some room _, ?_, ?_, ?_, ?_⟩
  · intro image built
    exact (build_eq_ok_iff_accepted.mp built).symm
  · intro field c refused
    have failed := build_eq_error_iff.mp refused
    refine ⟨?_, failed⟩
    rcases failure?_layout_cases failed with ⟨_, _, _, nothing⟩ | ⟨_, _, _, other, _⟩
    · exact nothing
    · cases other
  · intro item size limit refused
    have failed := build_eq_error_iff.mp refused
    refine ⟨?_, failed⟩
    rcases failure?_layout_cases failed with ⟨_, _, other, _⟩ | ⟨_, _, _, same, before⟩
    · cases other
    · cases same
      exact before
  · intro refused
    rcases failure?_layout_cases (build_eq_error_iff.mp refused) with
      ⟨_, _, other, _⟩ | ⟨_, _, _, other, _⟩ <;> cases other

end Assembler.Image
