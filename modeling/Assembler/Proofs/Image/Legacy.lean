import Assembler.Proofs.Image.RoundTrip

/-! Images in the legacy format. The version slot holds the author behind the declared length of the
version, so the version is lost when an image is read back, and the declared length is the one thing
in an image that the reader takes no account of. Everything outside of the slot survives. -/
namespace Assembler.Image

def Format.heading (start : Preamble) : Bytes :=
  textBytes headerSignature ++ sized 1 (textBytes start.title) ++ sized 1 (textBytes start.author)
    ++ sized 2 (textBytes start.description)

/-- Where the version slot with its length starts, right behind the description. -/
def slotOffset (program : Program) : Nat :=
  3 + (1 + program.title.length) + (1 + program.author.length) + (2 + program.description.length)

theorem Format.length_heading (program : Program) :
    (heading (preambleOf program)).length = slotOffset program := by
  simp only [heading, sized, preambleOf, slotOffset, List.length_append, Bytes.length_littleEndian,
    length_textBytes]
  rfl

theorem Format.length_slot (declared : Nat) (text : Text) :
    (Bytes.littleEndian 1 declared ++ textBytes text).length = 1 + text.length := by
  rw [List.length_append, Bytes.length_littleEndian, length_textBytes]

theorem Format.preamble_append_body (start : Preamble) (slot : Bytes) (program : Program) :
    preamble start ++ body slot program =
      heading start ++ (Bytes.littleEndian 1 start.declared ++ slot) ++ body [] program := by
  simp only [preamble, heading, body, List.append_assoc, List.nil_append]

/-- Byte strings of one length that differ at most in the `size` bytes from `start` on. -/
structure AgreeOutside (start size : Nat) (first second : Bytes) : Prop where
  length : first.length = second.length
  bytes : ∀ i, i < start ∨ start + size ≤ i → first[i]? = second[i]?

theorem AgreeOutside.of_window {first second : Bytes} (same : first.length = second.length)
    (front back : Bytes) :
    AgreeOutside front.length first.length (front ++ first ++ back) (front ++ second ++ back) := by
  refine ⟨by simp only [List.length_append, same], ?_⟩
  intro i outside
  rcases outside with before | behind
  · have inFront : i < (front ++ first).length := by
      rw [List.length_append]
      omega
    have inFront' : i < (front ++ second).length := by
      rw [List.length_append]
      omega
    rw [List.getElem?_append_left inFront, List.getElem?_append_left inFront',
      List.getElem?_append_left before, List.getElem?_append_left before]
  · have past : (front ++ first).length ≤ i := by
      rw [List.length_append]
      exact behind
    have past' : (front ++ second).length ≤ i := by
      rw [List.length_append, ← same]
      exact behind
    rw [List.getElem?_append_right past, List.getElem?_append_right past', List.length_append,
      List.length_append, same]

theorem Fits.version_author {program : Program} (fits : Fits program) :
    Fits { program with version := program.author } where
  narrow
    | .version | .author => fits.narrow .author
    | .title => fits.narrow .title
    | .description => fits.narrow .description
    | .copyright => fits.narrow .copyright
  size
    | .version | .author => fits.size .author
    | .title => fits.size .title
    | .description => fits.size .description
    | .copyright => fits.size .copyright
  count := fits.count
  blobs := fits.blobs

/-- The legacy reader takes any declared length, and gives a version as long as the author. -/
theorem read_legacy_eq_ok_iff {image : Bytes} {program : Program} :
    read .legacy image = .ok program ↔
      Fits program ∧ program.version.length = program.author.length
        ∧ ∃ declared < Bytes.capacity 1,
          image = Format.preamble { preambleOf program with declared }
            ++ Format.body (textBytes program.version) program := by
  rw [read_eq_ok_iff]
  constructor
  · rintro ⟨⟨_, _, _, declared⟩, startFits, ⟨rfl, rfl, rfl⟩, bodyFits, rfl⟩
    have length : program.version.length = program.author.length := bodyFits.version.2
    have short : program.version.length < Bytes.capacity 1 := length ▸ startFits.author.2
    have start : (preambleOf program).Fits :=
      ⟨startFits.title, startFits.author, startFits.description, short⟩
    have body : BodyFits program.version.length program :=
      ⟨⟨bodyFits.version.1, rfl⟩, bodyFits.copyright, bodyFits.count, bodyFits.blobs⟩
    exact ⟨fits_of_parts start body, length, declared, startFits.declared, rfl⟩
  · rintro ⟨fits, length, declared, small, rfl⟩
    have start := preambleOf_fits fits
    have body := bodyFits_of_fits fits
    exact ⟨{ preambleOf program with declared },
      ⟨start.title, start.author, start.description, small⟩, ⟨rfl, rfl, rfl⟩,
      ⟨⟨body.version.1, length⟩, body.copyright, body.count, body.blobs⟩, rfl⟩

/-- An image that is read and built again differs at most in the version slot. -/
theorem contents_legacy_agree {program : Program}
    (length : program.version.length = program.author.length) (declared : Nat) :
    AgreeOutside (slotOffset program) (1 + program.author.length) (contents .legacy program)
      (Format.preamble { preambleOf program with declared }
        ++ Format.body (textBytes program.version) program) := by
  have same : (Bytes.littleEndian 1 program.version.length ++ textBytes program.author).length =
      (Bytes.littleEndian 1 declared ++ textBytes program.version).length := by
    rw [Format.length_slot, Format.length_slot, length]
  have agree := AgreeOutside.of_window same (Format.heading (preambleOf program))
    (Format.body [] program)
  rw [Format.length_heading, Format.length_slot] at agree
  rw [contents, Format.preamble_append_body, Format.preamble_append_body]
  exact agree

theorem slot_contents_legacy {program : Program}
    (length : program.version.length = program.author.length) :
    ((contents .legacy program).drop (slotOffset program)).take (1 + program.author.length) =
      Bytes.littleEndian 1 program.author.length ++ textBytes program.author := by
  have declared : (preambleOf program).declared = program.author.length := length
  rw [contents, Format.preamble_append_body, List.append_assoc, ← Format.length_heading,
    List.drop_left, declared, ← Format.length_slot program.author.length]
  exact List.take_left

/-- In the legacy format an image is read back with the author as the version. What is read builds
an image again, the same one but for the version slot; there stand the length of the author and the
author. The last part says that this is no empty statement. -/
theorem legacy_round_trip :
    (∀ (program : Program) (image : Bytes), build .legacy program = .ok image →
      read .legacy image = .ok { program with version := program.author })
    ∧ (∀ (image : Bytes) (program : Program), read .legacy image = .ok program →
      ∃ rebuilt, build .legacy program = .ok rebuilt
        ∧ rebuilt.length = image.length
        ∧ (∀ i, i < slotOffset program ∨ slotOffset program + (1 + program.author.length) ≤ i →
          rebuilt[i]? = image[i]?)
        ∧ ∃ size : UInt8, size.toNat = program.author.length
          ∧ (rebuilt.drop (slotOffset program)).take (1 + program.author.length) =
            size :: textBytes program.author)
    ∧ ∀ program : Program, (∃ image, build .legacy program = .ok image) ↔ Fits program := by
  refine ⟨?_, ?_, fun program => exists_build_iff⟩
  · intro program image built
    obtain ⟨fits, rfl⟩ := build_eq_ok_iff.mp built
    exact read_legacy_eq_ok_iff.mpr
      ⟨fits.version_author, rfl, program.version.length, fits.size .version, rfl⟩
  · intro image program done
    obtain ⟨fits, length, declared, -, rfl⟩ := read_legacy_eq_ok_iff.mp done
    have agree := contents_legacy_agree length declared
    refine ⟨_, build_eq_ok_iff.mpr ⟨fits, rfl⟩, agree.length, agree.bytes,
      UInt8.ofNat program.author.length, ?_, slot_contents_legacy length⟩
    exact UInt8.toNat_ofNat_of_lt' (fits.size .author)

end Assembler.Image
