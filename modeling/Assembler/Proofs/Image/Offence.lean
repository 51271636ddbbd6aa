import Assembler.Proofs.Image.Slots
import Assembler.Proofs.Image.Truncation

/-! Why a program has no image. All characters are looked at before any length is, both in the order
of the image, and the first that does not fit is what the builder reports. -/
namespace Assembler

/-- The first element of a list with a property. -/
def First {α : Type} (p : α → Prop) (list : List α) (a : α) : Prop :=
  ∃ before after, list = before ++ a :: after ∧ (∀ b ∈ before, ¬ p b) ∧ p a

theorem findSome?_cons_or {α β : Type} (f : α → Option β) (a : α) (list : List α) :
    (a :: list).findSome? f = (f a).or (list.findSome? f) := by
  rw [List.findSome?_cons]
  cases f a <;> rfl

/-- A search gives the result of the first element with a property, if it has a result for just
those. -/
theorem findSome?_eq_some_iff_first {α β : Type} {p : α → Prop} {f : α → Option β}
    (searches : ∀ a, f a = none ↔ ¬ p a) {list : List α} {b : β} :
    list.findSome? f = some b ↔ ∃ a, First p list a ∧ f a = some b := by
  rw [List.findSome?_eq_some_iff]
  constructor
  · rintro ⟨before, a, after, whole, found, none⟩
    have property : p a := by
      apply Classical.byContradiction
      intro without
      rw [(searches a).mpr without] at found
      cases found
    have earlier : ∀ b ∈ before, ¬ p b := fun b member => (searches b).mp (none b member)
    exact ⟨a, ⟨before, after, whole, earlier, property⟩, found⟩
  · rintro ⟨a, ⟨before, after, whole, none, -⟩, found⟩
    exact ⟨before, a, after, whole, found, fun b member => (searches b).mpr (none b member)⟩

namespace Image

/-- Something whose size is stored in an image, with its size and the greatest one that can be
stored. -/
structure Measure where
  item : Item
  size : Nat
  limit : Nat
  deriving DecidableEq

/-- What is measured, in the order of the image. -/
def measures (program : Program) : List Measure :=
  [⟨.field .title, program.title.length, 255⟩,
    ⟨.field .author, program.author.length, 255⟩,
    ⟨.field .description, program.description.length, 65535⟩,
    ⟨.field .version, program.version.length, 255⟩,
    ⟨.field .copyright, program.copyright.length, 255⟩,
    ⟨.resourceCount, program.resources.length, 65535⟩]
    ++ program.resources.zipIdx.map fun (blob, id) => ⟨.resource id, blob.length, 65535⟩

/-- What the builder has to report of a program without an image. -/
inductive Offence (program : Program) : WriteError → Prop where
  /-- The first wide character of the first field with one. -/
  | wide {field : Field} {c : Char}
      (inOrder : First (fun field => ¬ Narrow (program.get field)) fieldOrder field)
      (inField : First (fun c => 0xFF < c.toNat) (program.get field) c) :
      Offence program (.wideCharacter field c)
  /-- The first size above its limit, if no character is wide. -/
  | oversized {measure : Measure} (narrow : ∀ field, Narrow (program.get field))
      (inOrder : First (fun measure => measure.limit < measure.size) (measures program) measure) :
      Offence program (.oversized measure.item measure.size measure.limit)

def Measure.offence? (measure : Measure) : Option WriteError :=
  if measure.limit < measure.size then some (.oversized measure.item measure.size measure.limit)
  else none

theorem failure?_sizePiece_cons (item : Item) (width size : Nat) (rest : List Piece) :
    failure? (sizePiece item width size :: rest) =
      (Measure.offence? ⟨item, size, Bytes.capacity width - 1⟩).or (failure? rest) := by
  have positive : 0 < Bytes.capacity width := by
    rw [Bytes.capacity_eq]
    exact Nat.two_pow_pos _
  unfold sizePiece Measure.offence?
  split
  · rename_i fits
    rw [if_neg (by dsimp only; omega)]
    rfl
  · rename_i large
    rw [if_pos (by dsimp only; omega)]
    rfl

theorem failure?_sized (item : Item) (width : Nat) (data : Bytes) :
    failure? (sized item width data) =
      Measure.offence? ⟨item, data.length, Bytes.capacity width - 1⟩ := by
  rw [sized, failure?_sizePiece_cons]
  exact Option.or_none

theorem failure?_blobs (blobs : List Bytes) (start : Nat) :
    failure? ((blobs.zipIdx start).flatMap fun (blob, id) => sized (.resource id) 2 blob) =
      ((blobs.zipIdx start).map fun (blob, id) =>
        (⟨.resource id, blob.length, 65535⟩ : Measure)).findSome? Measure.offence? := by
  induction blobs generalizing start with
  | nil => rfl
  | cons blob blobs ih =>
    simp only [List.zipIdx_cons, List.flatMap_cons, List.map_cons, failure?_append, failure?_sized,
      findSome?_cons_or, ih]
    rfl

theorem failure?_layout_eq (slot : VersionSlot) (program : Program) :
    failure? (layout slot program) =
      (wideCharacter? program).or ((measures program).findSome? Measure.offence?) := by
  cases wide : wideCharacter? program with
  | some error => simp only [layout, wide, failure?, Option.some_or]
  | none =>
    have code : failure? (program.instructions.flatMap instructionPieces) = none :=
      (Writes.instructions program.instructions).complete.mpr trivial
    simp only [layout, wide, metadataPieces, resourcePieces, measures, List.cons_append,
      List.nil_append, List.append_assoc, failure?, failure?_append, failure?_sized,
      failure?_versionPieces, failure?_sizePiece_cons, failure?_blobs, length_textBytes, code,
      findSome?_cons_or, Option.or_none, Option.none_or]
    rfl

theorem find?_wide_eq_some_iff {text : Text} {c : Char} :
    (text.find? fun c => 256 ≤ c.toNat) = some c ↔ First (fun c => 0xFF < c.toNat) text c := by
  rw [List.find?_eq_some_iff_append]
  constructor
  · rintro ⟨wide, before, after, whole, narrow⟩
    refine ⟨before, after, whole, ?_, of_decide_eq_true wide⟩
    intro b member
    have small := narrow b member
    rw [Bool.not_eq_true', decide_eq_false_iff_not] at small
    exact small
  · rintro ⟨before, after, whole, narrow, wide⟩
    refine ⟨decide_eq_true wide, before, after, whole, ?_⟩
    intro b member
    rw [Bool.not_eq_true', decide_eq_false_iff_not]
    exact narrow b member

theorem wideCharacter?_eq_some_iff {program : Program} {error : WriteError} :
    wideCharacter? program = some error ↔
      ∃ field, First (fun field => ¬ Narrow (program.get field)) fieldOrder field
        ∧ ∃ c, First (fun c => 0xFF < c.toNat) (program.get field) c
          ∧ .wideCharacter field c = error := by
  have searches (field : Field) :
      ((program.get field).find? fun c => 256 ≤ c.toNat).map (.wideCharacter field) =
          (none : Option WriteError) ↔
        ¬ ¬ Narrow (program.get field) := by
    rw [Option.map_eq_none_iff, List.find?_eq_none, Classical.not_not]
    simp only [Narrow, decide_eq_true_eq, Nat.not_le]
  rw [wideCharacter?, findSome?_eq_some_iff_first searches]
  simp only [Option.map_eq_some_iff, find?_wide_eq_some_iff]

theorem findSome?_offence?_eq_some_iff {list : List Measure} {error : WriteError} :
    list.findSome? Measure.offence? = some error ↔
      ∃ measure, First (fun measure => measure.limit < measure.size) list measure
        ∧ .oversized measure.item measure.size measure.limit = error := by
  have searches (measure : Measure) :
      measure.offence? = none ↔ ¬ measure.limit < measure.size := by
    unfold Measure.offence?
    split <;> simp_all
  rw [findSome?_eq_some_iff_first searches]
  apply exists_congr
  intro measure
  apply and_congr_right
  rintro ⟨-, -, -, -, large⟩
  rw [Measure.offence?, if_pos large, Option.some.injEq]

theorem build_eq_error_iff_offence {slot : VersionSlot} {program : Program} {error : WriteError} :
    build slot program = .error error ↔ Offence program error := by
  rw [build_eq_error_iff, failure?_layout_eq, Option.or_eq_some_iff, wideCharacter?_eq_some_iff,
    wideCharacter?_eq_none_iff, findSome?_offence?_eq_some_iff]
  constructor
  · rintro (⟨field, inOrder, c, inField, rfl⟩ | ⟨narrow, measure, inOrder, rfl⟩)
    · exact .wide inOrder inField
    · exact .oversized narrow inOrder
  · rintro (⟨inOrder, inField⟩ | ⟨narrow, inOrder⟩)
    · exact Or.inl ⟨_, inOrder, _, inField, rfl⟩
    · exact Or.inr ⟨narrow, _, inOrder, rfl⟩

/-- The programs that have an image, in numbers. -/
theorem fits_iff {program : Program} :
    Fits program ↔
      (∀ field, ∀ c ∈ program.get field, c.toNat ≤ 0xFF)
        ∧ program.title.length ≤ 255 ∧ program.author.length ≤ 255 ∧ program.version.length ≤ 255
        ∧ program.copyright.length ≤ 255 ∧ program.description.length ≤ 65535
        ∧ program.resources.length ≤ 65535 ∧ ∀ blob ∈ program.resources, blob.length ≤ 65535 := by
  constructor
  · intro fits
    exact ⟨fun field c member => Nat.le_of_lt_succ (fits.narrow field c member),
      Nat.le_of_lt_succ (fits.size .title), Nat.le_of_lt_succ (fits.size .author),
      Nat.le_of_lt_succ (fits.size .version), Nat.le_of_lt_succ (fits.size .copyright),
      Nat.le_of_lt_succ (fits.size .description), Nat.le_of_lt_succ fits.count,
      fun blob member => Nat.le_of_lt_succ (fits.blobs blob member)⟩
  · rintro ⟨narrow, title, author, version, copyright, description, count, blobs⟩
    refine ⟨fun field c member => Nat.lt_succ_of_le (narrow field c member), ?_,
      Nat.lt_succ_of_le count, fun blob member => Nat.lt_succ_of_le (blobs blob member)⟩
    intro field
    cases field with
    | title => exact Nat.lt_succ_of_le title
    | author => exact Nat.lt_succ_of_le author
    | version => exact Nat.lt_succ_of_le version
    | description => exact Nat.lt_succ_of_le description
    | copyright => exact Nat.lt_succ_of_le copyright

theorem length_contents (slot : VersionSlot) (program : Program) :
    (contents slot program).length =
      18 + program.title.length + program.author.length + program.description.length
        + program.copyright.length + (slotText slot program).length
        + resourceSize program.resources + codeSize program.instructions := by
  have signatures :
      (textBytes resourceSignature).length = 3 ∧ (textBytes codeSignature).length = 4 := by
    decide
  rw [contents_eq, codeSize_eq_length, ← Format.length_blobs]
  simp only [List.length_append, List.length_cons, Format.length_heading, slotOffset, Format.body,
    Format.sized, Format.resources, Bytes.length_littleEndian, length_textBytes, List.length_nil,
    signatures]
  omega

theorem names_measures (program : Program) :
    (measures program).map (·.item.name) =
      ["title", "author", "description", "version", "copyright", "resource count"].map String.toList
        ++ (List.range program.resources.length).map
          fun id => "resource #".toList ++ Text.decimal id := by
  have numbers : program.resources.zipIdx.map Prod.snd = List.range program.resources.length := by
    rw [List.zipIdx_map_snd, List.range_eq_range']
  rw [measures, List.map_append, ← numbers, List.map_map, List.map_map]
  rfl

/-- The builder fails exactly if something does not fit, and reports the first thing that does not:
all characters come before all lengths, and among each the order is that of the image. Nothing is
ever cut to fit, so the size of an image is known from the program. The names of what is measured
are those that an error gives. -/
theorem build_first_offence (slot : VersionSlot) (program : Program) :
    ((∃ image, build slot program = .ok image) ↔
      (∀ field, ∀ c ∈ program.get field, c.toNat ≤ 0xFF)
        ∧ program.title.length ≤ 255 ∧ program.author.length ≤ 255 ∧ program.version.length ≤ 255
        ∧ program.copyright.length ≤ 255 ∧ program.description.length ≤ 65535
        ∧ program.resources.length ≤ 65535 ∧ ∀ blob ∈ program.resources, blob.length ≤ 65535)
    ∧ (∀ error, build slot program = .error error ↔ Offence program error)
    ∧ (measures program).map (·.item.name) =
      ["title", "author", "description", "version", "copyright", "resource count"].map String.toList
        ++ (List.range program.resources.length).map
          (fun id => "resource #".toList ++ Text.decimal id)
    ∧ ∀ image, build slot program = .ok image →
      image.length = 18 + program.title.length + program.author.length + program.description.length
        + program.copyright.length
        + (if slot = .legacy then program.author.length else program.version.length)
        + resourceSize program.resources + codeSize program.instructions := by
  refine ⟨exists_build_iff.trans fits_iff, fun _ => build_eq_error_iff_offence,
    names_measures program, ?_⟩
  intro image built
  rw [(build_eq_ok_iff.mp built).2, length_contents]
  cases slot <;> rfl

end Image
end Assembler
