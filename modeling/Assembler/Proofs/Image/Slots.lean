import Assembler.Proofs.Image.Bounded

/-! The two formats side by side. What stands in the version slot is written without a check of its
own, be it the author or the version, and the checks around it are the same. So the builders of the
two formats refuse the same programs with the same error, and where they do not, their images differ
in the slot alone. -/
namespace Assembler.Image

theorem textBytes_inj {first second : Text} (narrow : Narrow first) (narrow' : Narrow second) :
    textBytes first = textBytes second ↔ first = second := by
  constructor
  · intro same
    rw [← toText_textBytes narrow, same, toText_textBytes narrow']
  · rintro rfl
    rfl

theorem failure?_versionPieces (slot : VersionSlot) (program : Program) :
    failure? (versionPieces slot program) =
      failure? [sizePiece (.field .version) 1 program.version.length] := by
  rw [versionPieces_eq, failure?_append]
  exact Option.or_none

/-- Where and why a layout stops is the same in both formats. -/
theorem failure?_layout (slot : VersionSlot) (program : Program) :
    failure? (layout slot program) = failure? (layout .plain program) := by
  cases wide : wideCharacter? program with
  | some error => simp only [layout, wide]
  | none =>
    simp only [layout, wide, metadataPieces, failure?, List.cons_append, failure?_append,
      failure?_versionPieces]

/-- An image around its version slot, in which the size of the version comes first. -/
theorem contents_eq (slot : VersionSlot) (program : Program) :
    contents slot program =
      Format.heading (preambleOf program)
        ++ UInt8.ofNat program.version.length :: textBytes (slotText slot program)
        ++ Format.body [] program := by
  rw [contents, Format.preamble_append_body]
  rfl

/-- The builders of the two formats fail together, with the same error, on the programs that do not
fit. On all others their images are the same up to the size of the version, which is the last byte
in front of the slot, and from the end of the slot on. The legacy one has the author in the slot and
the plain one the version, so they are one image exactly if author and version are the same text. -/
theorem build_legacy_plain (program : Program) :
    (¬ Fits program
      ∧ ∃ error, build .legacy program = .error error ∧ build .plain program = .error error)
    ∨ Fits program
      ∧ ∃ (legacy plain front back : Bytes) (size : UInt8),
        build .legacy program = .ok legacy ∧ build .plain program = .ok plain
        ∧ legacy = front ++ size :: textBytes program.author ++ back
        ∧ plain = front ++ size :: textBytes program.version ++ back
        ∧ front.length = slotOffset program ∧ size.toNat = program.version.length
        ∧ (legacy = plain ↔ program.author = program.version) := by
  cases failed : failure? (layout .plain program) with
  | some error =>
    have refused : build .plain program = .error error := build_eq_error_iff.mpr failed
    refine Or.inl ⟨?_, error, build_eq_error_iff.mpr ?_, refused⟩
    · intro fits
      obtain ⟨image, built⟩ := exists_build_iff.mpr fits
      cases refused.symm.trans built
    · rw [failure?_layout, failed]
  | none =>
    have fits : Fits program := exists_build_iff.mp ⟨_, build_eq_ok_iff_accepted.mpr ⟨failed, rfl⟩⟩
    refine Or.inr ⟨fits, contents .legacy program, contents .plain program,
      Format.heading (preambleOf program), Format.body [] program,
      UInt8.ofNat program.version.length, build_eq_ok_iff.mpr ⟨fits, rfl⟩,
      build_eq_ok_iff.mpr ⟨fits, rfl⟩, contents_eq .legacy program, contents_eq .plain program,
      Format.length_heading program, UInt8.toNat_ofNat_of_lt' (fits.size .version), ?_⟩
    rw [contents_eq, contents_eq, List.append_left_inj, List.append_right_inj, List.cons_inj_right]
    exact textBytes_inj (fits.narrow .author) (fits.narrow .version)

end Assembler.Image
