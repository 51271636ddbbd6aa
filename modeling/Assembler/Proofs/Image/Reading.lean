import Assembler.Proofs.Image.Format
import Assembler.Proofs.Opcode

/-! What the reader accepts. Each reader passes over exactly the bytes that its result has in an
image, so it neither skips a byte nor takes one that belongs to what follows. -/
namespace Assembler.Image

namespace Cursor

@[simp] theorem access_take (cursor : Cursor) (n : Nat) :
    access.take cursor n = cursor.take n := rfl

@[simp] theorem access_signature (cursor : Cursor) (mark : Text) :
    access.signature cursor mark = cursor.signature mark := rfl

/-- From one cursor to another there are exactly these bytes. -/
structure Passes (cursor : Cursor) (bytes : Bytes) (next : Cursor) : Prop where
  rest : cursor.rest = bytes ++ next.rest
  offset : next.offset = cursor.offset + bytes.length

namespace Passes

theorem eq_skip {cursor next : Cursor} {bytes : Bytes} (passes : Passes cursor bytes next) :
    next = cursor.skip bytes.length := by
  obtain ⟨rest, offset⟩ := passes
  cases next
  simp_all [skip]

theorem append_iff {cursor next : Cursor} {front back : Bytes} :
    Passes cursor (front ++ back) next ↔
      ∃ middle, Passes cursor front middle ∧ Passes middle back next := by
  constructor
  · rintro ⟨rest, offset⟩
    rw [List.length_append] at offset
    refine ⟨⟨back ++ next.rest, cursor.offset + front.length⟩, ⟨?_, rfl⟩, ⟨rfl, ?_⟩⟩
    · rw [rest, List.append_assoc]
    · rw [offset, Nat.add_assoc]
  · rintro ⟨middle, ⟨rest, offset⟩, ⟨rest', offset'⟩⟩
    refine ⟨?_, ?_⟩
    · rw [rest, rest', List.append_assoc]
    · rw [offset', offset, List.length_append, Nat.add_assoc]

theorem nil_iff {cursor next : Cursor} : Passes cursor [] next ↔ cursor = next := by
  constructor
  · rintro ⟨rest, offset⟩
    cases cursor
    cases next
    simp_all
  · rintro rfl
    exact ⟨rfl, rfl⟩

end Passes

theorem take_eq_ok_iff {cursor next : Cursor} {n : Nat} {bytes : Bytes} :
    cursor.take n = .ok (bytes, next) ↔ bytes.length = n ∧ Passes cursor bytes next := by
  simp only [take]
  constructor
  · intro taken
    split at taken
    · rename_i length
      cases taken
      exact ⟨length, (List.take_append_drop n cursor.rest).symm, by simp only [skip, length]⟩
    · cases taken
  · rintro ⟨rfl, passes⟩
    have front : cursor.rest.take bytes.length = bytes := by
      rw [passes.rest, List.take_left]
    rw [front, if_pos rfl, passes.eq_skip]

theorem number_eq_ok_iff {cursor next : Cursor} {width n : Nat} :
    access.number cursor width = .ok (n, next) ↔
      n < Bytes.capacity width ∧ Passes cursor (Bytes.littleEndian width n) next := by
  simp only [Access.number, access_take, bind_eq_ok_iff, Prod.exists, take_eq_ok_iff, pure,
    Except.pure, Except.ok.injEq, Prod.mk.injEq]
  constructor
  · rintro ⟨bytes, after, ⟨rfl, passes⟩, rfl, rfl⟩
    rw [Bytes.littleEndian_toNat]
    exact ⟨Bytes.toNat_lt bytes, passes⟩
  · rintro ⟨fits, passes⟩
    exact ⟨_, next, ⟨Bytes.length_littleEndian width n, passes⟩, Bytes.toNat_littleEndian fits, rfl⟩

theorem text_eq_ok_iff {cursor next : Cursor} {size : Nat} {text : Text} :
    access.text cursor size = .ok (text, next) ↔
      (Narrow text ∧ text.length = size) ∧ Passes cursor (textBytes text) next := by
  simp only [Access.text, access_take, bind_eq_ok_iff, Prod.exists, take_eq_ok_iff, pure,
    Except.pure, Except.ok.injEq, Prod.mk.injEq]
  constructor
  · rintro ⟨bytes, after, ⟨length, passes⟩, rfl, rfl⟩
    rw [textBytes_toText, Bytes.length_toText]
    exact ⟨⟨Bytes.narrow_toText bytes, length⟩, passes⟩
  · rintro ⟨⟨narrow, length⟩, passes⟩
    exact ⟨textBytes text, next, ⟨by simpa using length, passes⟩, toText_textBytes narrow, rfl⟩

theorem sizedText_eq_ok_iff {cursor next : Cursor} {width : Nat} {text : Text} :
    access.sizedText cursor width = .ok (text, next) ↔
      (Narrow text ∧ text.length < Bytes.capacity width)
        ∧ Passes cursor (Format.sized width (textBytes text)) next := by
  simp only [Access.sizedText, bind_eq_ok_iff, Prod.exists, number_eq_ok_iff, text_eq_ok_iff,
    Format.sized, Passes.append_iff, length_textBytes]
  constructor
  · rintro ⟨size, middle, ⟨fits, length⟩, ⟨narrow, rfl⟩, body⟩
    exact ⟨⟨narrow, fits⟩, middle, length, body⟩
  · rintro ⟨⟨narrow, fits⟩, middle, length, body⟩
    exact ⟨text.length, middle, ⟨fits, length⟩, ⟨narrow, rfl⟩, body⟩

theorem signature_eq_ok_iff {cursor next : Cursor} {mark : Text} :
    cursor.signature mark = .ok next ↔ Passes cursor (textBytes mark) next := by
  unfold signature
  constructor
  · intro found
    split at found
    · rename_i front
      cases found
      refine ⟨?_, by simp [skip]⟩
      rw [← front]
      exact (List.take_append_drop _ _).symm
    · cases found
  · intro passes
    have front : cursor.rest.take mark.length = textBytes mark := by
      rw [passes.rest, ← length_textBytes mark, List.take_left]
    rw [if_pos front, passes.eq_skip, length_textBytes]

theorem resources_eq_ok_iff {count : Nat} {cursor next : Cursor} {done blobs : List Bytes} :
    access.resources count cursor done = .ok (blobs, next) ↔
      ∃ more, blobs = done.reverse ++ more ∧ more.length = count
        ∧ (∀ blob ∈ more, blob.length < Bytes.capacity 2)
        ∧ Passes cursor (more.flatMap (Format.sized 2)) next := by
  induction count generalizing cursor done with
  | zero =>
    simp only [Access.resources, Except.ok.injEq, Prod.mk.injEq, List.length_eq_zero_iff]
    constructor
    · rintro ⟨rfl, rfl⟩
      exact ⟨[], by simp, rfl, by simp, Passes.nil_iff.mpr rfl⟩
    · rintro ⟨_, rfl, rfl, -, passes⟩
      exact ⟨by simp, Passes.nil_iff.mp passes⟩
  | succ count ih =>
    simp only [Access.resources, access_take, bind_eq_ok_iff, Prod.exists, number_eq_ok_iff,
      take_eq_ok_iff, ih]
    constructor
    · rintro ⟨_, middle, ⟨fits, size⟩, blob, after, ⟨rfl, body⟩, more, rfl, rfl, rest, passes⟩
      refine ⟨blob :: more, by simp, rfl, List.forall_mem_cons.mpr ⟨fits, rest⟩, ?_⟩
      rw [List.flatMap_cons, Passes.append_iff]
      exact ⟨after, Passes.append_iff.mpr ⟨middle, size, body⟩, passes⟩
    · rintro ⟨more, rfl, length, rest, passes⟩
      cases more with
      | nil => cases length
      | cons blob more =>
        obtain ⟨fits, rest⟩ := List.forall_mem_cons.mp rest
        rw [List.flatMap_cons, Passes.append_iff] at passes
        obtain ⟨after, first, passes⟩ := passes
        obtain ⟨middle, size, body⟩ := Passes.append_iff.mp first
        exact ⟨blob.length, middle, ⟨fits, size⟩, blob, after, ⟨rfl, body⟩, more, by simp,
          Nat.succ.inj length, rest, passes⟩

theorem ofBytes?_eq_some_iff {opcode : Opcode} {arguments : Bytes} {i : Instruction} :
    Instruction.ofBytes? opcode arguments = some i ↔
      opcode = i.opcode ∧ arguments = i.arguments := by
  unfold Instruction.ofBytes?
  constructor
  · intro made
    split at made
    · cases made
      exact ⟨rfl, rfl⟩
    · contradiction
  · rintro ⟨rfl, rfl⟩
    rw [dif_pos i.fits]

theorem instruction_eq_ok_iff {cursor next : Cursor} {i : Instruction} :
    access.instruction cursor = .ok (i, next) ↔ Passes cursor (Format.instruction i) next := by
  have split : Format.instruction i = [i.opcode.code]
      ++ (Bytes.littleEndian 2 i.opcode.operands.length ++ i.arguments) := rfl
  rw [split, Passes.append_iff]
  simp only [Access.instruction, Access.instructionFrom, access_take, bind_eq_ok_iff, Prod.exists,
    take_eq_ok_iff]
  constructor
  · rintro ⟨head, afterCode, ⟨length, code⟩, read⟩
    obtain ⟨b, rfl⟩ := List.length_eq_one_iff.mp length
    refine ⟨afterCode, ?_⟩
    cases known : Opcode.ofCode? b with
    | none => simp [known] at read
    | some opcode =>
      simp only [List.headD_cons, known, bind_eq_ok_iff, Prod.exists, number_eq_ok_iff] at read
      obtain ⟨found, afterCount, ⟨-, count⟩, read⟩ := read
      split at read
      · rename_i declared
        simp only [bind_eq_ok_iff, Prod.exists, take_eq_ok_iff] at read
        obtain ⟨arguments, last, ⟨-, body⟩, read⟩ := read
        split at read
        · rename_i made
          cases read
          obtain ⟨rfl, rfl⟩ := ofBytes?_eq_some_iff.mp made
          rw [Opcode.ofCode?_eq_some_iff.mp known] at code
          exact ⟨code, Passes.append_iff.mpr ⟨afterCount, declared ▸ count, body⟩⟩
        · cases read
      · cases read
  · rintro ⟨afterCode, code, rest⟩
    obtain ⟨afterCount, count, body⟩ := Passes.append_iff.mp rest
    have known : Opcode.ofCode? i.opcode.code = some i.opcode := Opcode.ofCode?_eq_some_iff.mpr rfl
    refine ⟨[i.opcode.code], afterCode, ⟨rfl, code⟩, ?_⟩
    simp only [List.headD_cons, known, bind_eq_ok_iff, Prod.exists, number_eq_ok_iff]
    refine ⟨_, afterCount, ⟨i.opcode.length_operands_lt, count⟩, ?_⟩
    simp only [if_true, bind_eq_ok_iff, Prod.exists, take_eq_ok_iff]
    refine ⟨i.arguments, next, ⟨i.fits, body⟩, ?_⟩
    rw [ofBytes?_eq_some_iff.mpr ⟨rfl, rfl⟩]

/-- Instructions are read to the end: what lies ahead of the cursor is their bytes and no more. -/
theorem instructions_eq_ok_iff {cursor : Cursor} {done list : List Instruction} :
    access.instructions cursor done = .ok list ↔
      ∃ more, list = done.reverse ++ more ∧ cursor.rest = more.flatMap Format.instruction := by
  -- A cursor with something ahead stands before the first of the instructions, if there are any.
  have first {cursor : Cursor} {more : List Instruction} (ahead : ¬ cursor.rest.isEmpty = true)
      (rest : cursor.rest = more.flatMap Format.instruction) :
      ∃ i tail after, more = i :: tail ∧ access.instruction cursor = .ok (i, after)
        ∧ after.rest = tail.flatMap Format.instruction := by
    cases more with
    | nil => simp [rest] at ahead
    | cons i tail =>
      rw [List.flatMap_cons] at rest
      exact ⟨i, tail, ⟨_, _⟩, rfl, instruction_eq_ok_iff.mpr ⟨rest, rfl⟩, rfl⟩
  fun_induction Access.instructions access cursor done with
  | case1 cursor done empty =>
    have nothing : cursor.rest = [] := List.isEmpty_iff.mp empty
    rw [Except.ok.injEq, nothing]
    constructor
    · rintro rfl
      exact ⟨[], by simp, rfl⟩
    · rintro ⟨more, rfl, rest⟩
      cases more with
      | nil => simp
      | cons i more => cases rest
  | case2 cursor done ahead error failed =>
    constructor
    · intro read
      cases read
    · rintro ⟨more, -, rest⟩
      obtain ⟨i, tail, after, -, read, -⟩ := first ahead rest
      rw [failed] at read
      cases read
  | case3 cursor done ahead i after read _ ih =>
    refine Iff.trans ih ?_
    constructor
    · rintro ⟨more, rfl, rest⟩
      refine ⟨i :: more, by simp, ?_⟩
      rw [(instruction_eq_ok_iff.mp read).rest, rest, List.flatMap_cons]
    · rintro ⟨more, rfl, rest⟩
      obtain ⟨j, tail, next, rfl, same, rest⟩ := first ahead rest
      rw [read] at same
      cases same
      exact ⟨tail, by simp, rest⟩

end Cursor

structure Preamble.Fits (start : Preamble) : Prop where
  title : Narrow start.title ∧ start.title.length < Bytes.capacity 1
  author : Narrow start.author ∧ start.author.length < Bytes.capacity 1
  description : Narrow start.description ∧ start.description.length < Bytes.capacity 2
  declared : start.declared < Bytes.capacity 1

theorem readPreamble_eq_ok_iff {image : Bytes} {start : Preamble} {next : Cursor} :
    Cursor.access.readPreamble ⟨image, 0⟩ = .ok (start, next) ↔
      start.Fits ∧ Cursor.Passes ⟨image, 0⟩ (Format.preamble start) next := by
  simp only [Access.readPreamble, Cursor.access_signature, bind_eq_ok_iff, Prod.exists,
    Cursor.signature_eq_ok_iff, Cursor.sizedText_eq_ok_iff, Cursor.number_eq_ok_iff, pure,
    Except.pure, Except.ok.injEq, Prod.mk.injEq, Format.preamble, Cursor.Passes.append_iff]
  constructor
  · rintro ⟨c₁, mark, title, c₂, ⟨fitsTitle, p₁⟩, author, c₃, ⟨fitsAuthor, p₂⟩,
      description, c₄, ⟨fitsDescription, p₃⟩, declared, c₅, ⟨fitsDeclared, p₄⟩, rfl, rfl⟩
    exact ⟨⟨fitsTitle, fitsAuthor, fitsDescription, fitsDeclared⟩,
      c₄, ⟨c₃, ⟨c₂, ⟨c₁, mark, p₁⟩, p₂⟩, p₃⟩, p₄⟩
  · rintro ⟨fits, c₄, ⟨c₃, ⟨c₂, ⟨c₁, mark, p₁⟩, p₂⟩, p₃⟩, p₄⟩
    exact ⟨c₁, mark, _, c₂, ⟨fits.title, p₁⟩, _, c₃, ⟨fits.author, p₂⟩, _, c₄,
      ⟨fits.description, p₃⟩, _, next, ⟨fits.declared, p₄⟩, rfl, rfl⟩

/-- What the reader of the body can fit into a program. The version has the size of its slot. -/
structure BodyFits (slotSize : Nat) (program : Program) : Prop where
  version : Narrow program.version ∧ program.version.length = slotSize
  copyright : Narrow program.copyright ∧ program.copyright.length < Bytes.capacity 1
  count : program.resources.length < Bytes.capacity 2
  blobs : ∀ blob ∈ program.resources, blob.length < Bytes.capacity 2

theorem readBody_eq_ok_iff {slot : VersionSlot} {start : Preamble} {cursor : Cursor}
    {program : Program} :
    Cursor.access.readBody slot start cursor = .ok program ↔
      (program.title = start.title ∧ program.author = start.author
        ∧ program.description = start.description)
      ∧ BodyFits (start.slotSize slot) program
      ∧ cursor.rest = Format.body (textBytes program.version) program := by
  simp only [Access.readBody, Cursor.access_signature, bind_eq_ok_iff, Prod.exists,
    Cursor.text_eq_ok_iff, Cursor.sizedText_eq_ok_iff, Cursor.signature_eq_ok_iff,
    Cursor.number_eq_ok_iff, Cursor.resources_eq_ok_iff, Cursor.instructions_eq_ok_iff,
    List.reverse_nil, List.nil_append, pure, Except.pure, Except.ok.injEq]
  constructor
  · rintro ⟨version, c₁, ⟨fitsVersion, p₁⟩, copyright, c₂, ⟨fitsCopyright, p₂⟩, c₃, mark,
      count, c₄, ⟨fitsCount, p₃⟩, _, c₅, ⟨blobs, rfl, rfl, fitsBlobs, p₄⟩, c₆, code,
      _, ⟨list, rfl, rest⟩, rfl⟩
    refine ⟨⟨rfl, rfl, rfl⟩, ⟨fitsVersion, fitsCopyright, fitsCount, fitsBlobs⟩, ?_⟩
    rw [p₁.rest, p₂.rest, mark.rest, p₃.rest, p₄.rest, code.rest, rest]
    simp only [Format.body, Format.resources, List.append_assoc]
  · rintro ⟨⟨title, author, description⟩, fits, rest⟩
    have ahead : Cursor.Passes cursor (textBytes program.version
        ++ (Format.sized 1 (textBytes program.copyright) ++ (textBytes resourceSignature
        ++ (Bytes.littleEndian 2 program.resources.length
        ++ (program.resources.flatMap (Format.sized 2) ++ textBytes codeSignature)))))
        ⟨program.instructions.flatMap Format.instruction, cursor.offset + _⟩ :=
      ⟨by rw [rest]; simp only [Format.body, Format.resources, List.append_assoc], rfl⟩
    obtain ⟨c₁, p₁, ahead⟩ := Cursor.Passes.append_iff.mp ahead
    obtain ⟨c₂, p₂, ahead⟩ := Cursor.Passes.append_iff.mp ahead
    obtain ⟨c₃, mark, ahead⟩ := Cursor.Passes.append_iff.mp ahead
    obtain ⟨c₄, p₃, ahead⟩ := Cursor.Passes.append_iff.mp ahead
    obtain ⟨c₅, p₄, code⟩ := Cursor.Passes.append_iff.mp ahead
    refine ⟨program.version, c₁, ⟨fits.version, p₁⟩, program.copyright, c₂, ⟨fits.copyright, p₂⟩,
      c₃, mark, program.resources.length, c₄, ⟨fits.count, p₃⟩, program.resources, c₅,
      ⟨program.resources, rfl, rfl, fits.blobs, p₄⟩, _, code, program.instructions,
      ⟨program.instructions, rfl, rfl⟩, ?_⟩
    rw [← title, ← author, ← description]

end Assembler.Image
