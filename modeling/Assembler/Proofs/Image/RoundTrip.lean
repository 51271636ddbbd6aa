import Assembler.Proofs.Image.Reading

/-! Images and programs. In the plain format the builder and the reader are inverse to each other on
the programs that fit: an image is read back as the program it was built from, and every byte string
that is read at all is the image of what is read. -/
namespace Assembler.Image

/-- The declared length of the version is free in so far as the slot does not depend on it. -/
theorem read_eq_ok_iff {slot : VersionSlot} {image : Bytes} {program : Program} :
    read slot image = .ok program ↔ ∃ start : Preamble, start.Fits
      ∧ (program.title = start.title ∧ program.author = start.author
        ∧ program.description = start.description)
      ∧ BodyFits (start.slotSize slot) program
      ∧ image = Format.preamble start ++ Format.body (textBytes program.version) program := by
  simp only [read, Access.read, bind_eq_ok_iff, Prod.exists, readPreamble_eq_ok_iff,
    readBody_eq_ok_iff]
  constructor
  · rintro ⟨start, next, ⟨fits, passes⟩, texts, bodyFits, rest⟩
    refine ⟨start, fits, texts, bodyFits, ?_⟩
    rw [← rest]
    exact passes.rest
  · rintro ⟨start, fits, texts, bodyFits, rfl⟩
    exact ⟨start, ⟨_, _⟩, ⟨fits, rfl, rfl⟩, texts, bodyFits, rfl⟩

theorem preambleOf_fits {program : Program} (fits : Fits program) : (preambleOf program).Fits :=
  ⟨⟨fits.narrow .title, fits.size .title⟩, ⟨fits.narrow .author, fits.size .author⟩,
    ⟨fits.narrow .description, fits.size .description⟩, fits.size .version⟩

theorem bodyFits_of_fits {program : Program} (fits : Fits program) :
    BodyFits program.version.length program :=
  ⟨⟨fits.narrow .version, rfl⟩, ⟨fits.narrow .copyright, fits.size .copyright⟩, fits.count,
    fits.blobs⟩

theorem fits_of_parts {program : Program} (start : (preambleOf program).Fits)
    (body : BodyFits program.version.length program) : Fits program where
  narrow
    | .title => start.title.1
    | .author => start.author.1
    | .version => body.version.1
    | .description => start.description.1
    | .copyright => body.copyright.1
  size
    | .title => start.title.2
    | .author => start.author.2
    | .version => start.declared
    | .description => start.description.2
    | .copyright => body.copyright.2
  count := body.count
  blobs := body.blobs

theorem read_plain_eq_ok_iff {image : Bytes} {program : Program} :
    read .plain image = .ok program ↔ Fits program ∧ image = contents .plain program := by
  rw [read_eq_ok_iff]
  constructor
  · rintro ⟨start, startFits, ⟨title, author, description⟩, bodyFits, rfl⟩
    have declared : program.version.length = start.declared := bodyFits.version.2
    have same : start = preambleOf program := by
      cases start
      simp_all [preambleOf]
    subst same
    exact ⟨fits_of_parts startFits bodyFits, rfl⟩
  · rintro ⟨fits, rfl⟩
    exact ⟨preambleOf program, preambleOf_fits fits, ⟨rfl, rfl, rfl⟩, bodyFits_of_fits fits, rfl⟩

/-- Building and reading are inverse in the plain format. The second part says that this is no empty
statement: every program that fits has an image. -/
theorem build_plain_iff_read_plain :
    (∀ (program : Program) (image : Bytes),
      build .plain program = .ok image ↔ read .plain image = .ok program)
    ∧ ∀ program : Program, (∃ image, build .plain program = .ok image) ↔ Fits program := by
  refine ⟨?_, fun program => exists_build_iff⟩
  intro program image
  rw [build_eq_ok_iff, read_plain_eq_ok_iff]

end Assembler.Image
