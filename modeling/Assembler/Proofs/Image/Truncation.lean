import Assembler.Proofs.Image.Extension
import Assembler.Proofs.Image.Legacy

/-! Images that are cut short. A cut between two instructions gives an image of the instructions in
front of it. Any other cut is noticed: as a signature that is not there if it falls on one, and for
want of bytes otherwise. -/
namespace Assembler.Image

/-- The size of instructions in an image: a code, the number of the operands, and the operands. -/
def codeSize : List Instruction → Nat
  | [] => 0
  | i :: rest => 3 + i.opcode.width + codeSize rest

def resourceSize : List Bytes → Nat
  | [] => 0
  | blob :: rest => 2 + blob.length + resourceSize rest

/-- Where the signature of the resources starts in the image that a program was read from. -/
def resourceOffset (program : Program) : Nat :=
  slotOffset program + (1 + program.version.length) + (1 + program.copyright.length)

def codeOffset (program : Program) : Nat :=
  resourceOffset program + resourceSignature.length + 2 + resourceSize program.resources

/-- The cuts that leave a signature out or take it apart. -/
def CutsSignature (program : Program) (k : Nat) : Prop :=
  k < headerSignature.length
    ∨ resourceOffset program ≤ k ∧ k < resourceOffset program + resourceSignature.length
    ∨ codeOffset program ≤ k ∧ k < codeOffset program + codeSignature.length

theorem not_cutsSignature_of_le {program : Program} {k : Nat}
    (behind : codeOffset program + codeSignature.length ≤ k) : ¬ CutsSignature program k := by
  have header : headerSignature.length = 3 := rfl
  unfold CutsSignature
  unfold codeOffset resourceOffset slotOffset at *
  omega

namespace Cursor

variable {α β : Type}

/-- Cut short, a reader without signatures fails for want of bytes: it cannot do with less than it
took before, and any other error would have been there before. -/
theorem Composed.truncated {reader : Cursor → Except ReadError (α × Cursor)}
    (composed : Composed false reader) {bytes : Bytes} {offset : Nat} {value : α} {next : Cursor}
    (whole : reader ⟨bytes, offset⟩ = .ok (value, next)) (ended : next.rest = []) {k : Nat}
    (short : k < bytes.length) :
    ∃ needed place, reader ⟨bytes.take k, offset⟩ = .error (.truncated needed place) := by
  have split : (Cursor.mk (bytes.take k) offset).extend (bytes.drop k) = ⟨bytes, offset⟩ := by
    rw [extend, List.take_append_drop]
  have persists := composed.steady.persists (List.replicate offset 0 ++ bytes.take k) (bytes.drop k)
    ⟨bytes.take k, offset⟩ (by simp)
  rw [split, whole] at persists
  cases read : reader ⟨bytes.take k, offset⟩ with
  | ok pair =>
    have again := composed.steady.extended read (bytes.drop k)
    rw [split, whole] at again
    cases again
    have nothing := (List.append_eq_nil_iff.mp ended).2
    rw [List.drop_eq_nil_iff] at nothing
    omega
  | error error =>
    cases error with
    | truncated needed place => exact ⟨needed, place, rfl⟩
    | badSignature mark place => exact absurd read (composed.ne_badSignature _ mark place)
    | unknownCode code place => cases persists.lasting _ read trivial
    | operandCount opcode found place => cases persists.lasting _ read trivial

/-- A reader that fails on every part of `bytes` that is cut short, with an error of which `P` holds
for the place of the cut. -/
def FailsShort (P : Nat → ReadError → Prop) (reader : Cursor → Except ReadError β) (offset : Nat)
    (bytes : Bytes) : Prop :=
  ∀ k < bytes.length, ∃ error, reader ⟨bytes.take k, offset⟩ = .error error ∧ P (offset + k) error

namespace FailsShort

variable {P : Nat → ReadError → Prop} {offset : Nat}

theorem nil {reader : Cursor → Except ReadError β} : FailsShort P reader offset [] :=
  nofun

theorem bind {reader : Cursor → Except ReadError (α × Cursor)}
    {f : α × Cursor → Except ReadError β} {front back : Bytes} {value : α} {next : Nat}
    (first : FailsShort P reader offset front) (moved : next = offset + front.length)
    (whole : ∀ rest, reader ⟨front ++ rest, offset⟩ = .ok (value, ⟨rest, next⟩))
    (second : FailsShort P (fun cursor => f (value, cursor)) next back) :
    FailsShort P (fun cursor => reader cursor >>= f) offset (front ++ back) := by
  subst moved
  intro k short
  dsimp only
  by_cases inside : k < front.length
  · obtain ⟨error, failed, expected⟩ := first k inside
    rw [List.take_append_of_le_length (Nat.le_of_lt inside), failed]
    exact ⟨error, rfl, expected⟩
  · rw [List.length_append] at short
    obtain ⟨error, failed, expected⟩ := second (k - front.length) (by omega)
    have place : offset + front.length + (k - front.length) = offset + k := by omega
    rw [List.take_append, List.take_of_length_le (Nat.le_of_not_lt inside), whole]
    exact ⟨error, failed, place ▸ expected⟩

theorem signed {mark : Text}
    (marked : ∀ k < mark.length, P (offset + k) (.badSignature mark offset)) :
    FailsShort P (access.signed mark) offset (textBytes mark) := by
  intro k short
  have absent : ¬ textBytes mark <+: (textBytes mark).take k := by
    intro present
    have length := present.length_le
    rw [List.length_take] at length
    omega
  rw [length_textBytes] at short
  exact ⟨_, map_eq_error_iff.mpr (signature_eq_error_iff.mpr ⟨absent, rfl⟩), marked k short⟩

theorem composed {reader : Cursor → Except ReadError (α × Cursor)} {bytes : Bytes} {value : α}
    {next : Nat} (plain : Composed false reader)
    (whole : ∀ rest, reader ⟨bytes ++ rest, offset⟩ = .ok (value, ⟨rest, next⟩))
    (unmarked : ∀ k < bytes.length, ∀ needed place, P (offset + k) (.truncated needed place)) :
    FailsShort P reader offset bytes := by
  intro k short
  have all := whole []
  rw [List.append_nil] at all
  obtain ⟨needed, place, failed⟩ := plain.truncated all rfl short
  exact ⟨_, failed, unmarked k short needed place⟩

end FailsShort
end Cursor

theorem steady_readTexts (slot : VersionSlot) : Cursor.Steady (Cursor.access.readTexts slot) := by
  have composed : Cursor.Composed false (Cursor.access.readTexts slot) := composed_readTexts slot
  exact composed.steady

theorem steady_readResources : Cursor.Steady Cursor.access.readResources := by
  have composed : Cursor.Composed false Cursor.access.readResources := composed_readResources
  exact composed.steady

theorem offset_of_readTexts {slot : VersionSlot} {cursor next : Cursor} {program : Program}
    (read : Cursor.access.readTexts slot cursor = .ok (program, next)) :
    next.offset + headerSignature.length = cursor.offset + resourceOffset program := by
  simp only [Access.readTexts, bind_eq_ok_iff, Prod.exists, Cursor.sizedText_eq_ok_iff,
    Cursor.number_eq_ok_iff, Cursor.text_eq_ok_iff, pure, Except.pure, Except.ok.injEq,
    Prod.mk.injEq] at read
  obtain ⟨title, c₁, ⟨-, p₁⟩, author, c₂, ⟨-, p₂⟩, description, c₃, ⟨-, p₃⟩,
    declared, c₄, ⟨-, p₄⟩, version, c₅, ⟨-, p₅⟩, copyright, c₆, ⟨-, p₆⟩, rfl, rfl⟩ := read
  have header : headerSignature.length = 3 := rfl
  rw [p₆.offset, p₅.offset, p₄.offset, p₃.offset, p₂.offset, p₁.offset]
  simp only [Format.sized, List.length_append, Bytes.length_littleEndian, length_textBytes,
    resourceOffset, slotOffset]
  omega

theorem Format.length_blobs (blobs : List Bytes) :
    (blobs.flatMap (sized 2)).length = resourceSize blobs := by
  induction blobs with
  | nil => rfl
  | cons blob rest ih =>
    rw [List.flatMap_cons, List.length_append, ih, sized, List.length_append,
      Bytes.length_littleEndian, resourceSize]

theorem offset_of_readResources {cursor next : Cursor} {blobs : List Bytes}
    (read : Cursor.access.readResources cursor = .ok (blobs, next)) :
    next.offset = cursor.offset + 2 + resourceSize blobs := by
  simp only [Access.readResources, bind_eq_ok_iff, Prod.exists, Cursor.number_eq_ok_iff,
    Cursor.resources_eq_ok_iff, List.reverse_nil, List.nil_append] at read
  obtain ⟨count, c₁, ⟨-, p₁⟩, more, rfl, -, -, p₂⟩ := read
  rw [p₂.offset, p₁.offset, Bytes.length_littleEndian, Format.length_blobs]

/-- The error to expect of an image that is cut at `k`. -/
def CutError (program : Program) (k : Nat) (error : ReadError) : Prop :=
  ((∃ mark offset, error = .badSignature mark offset) ↔ CutsSignature program k)
    ∧ ((∃ needed offset, error = .truncated needed offset) ↔ ¬ CutsSignature program k)

theorem CutError.badSignature {program : Program} {k : Nat} (cut : CutsSignature program k)
    (mark : Text) (offset : Nat) : CutError program k (.badSignature mark offset) :=
  ⟨iff_of_true ⟨mark, offset, rfl⟩ cut, iff_of_false nofun (absurd cut)⟩

theorem CutError.truncated {program : Program} {k : Nat} (other : ¬ CutsSignature program k)
    (needed offset : Nat) : CutError program k (.truncated needed offset) :=
  ⟨iff_of_false nofun other, iff_of_true ⟨needed, offset, rfl⟩ other⟩

/-- The parts in front of the instructions, each at the place that the program tells for it. -/
theorem parts_of_readHead {slot : VersionSlot} {image : Bytes} {program : Program} {cursor : Cursor}
    (read : Cursor.access.readHead slot ⟨image, 0⟩ = .ok (program, cursor)) :
    ∃ texts blobs c₁ c₂ c₃ c₄,
      (Cursor.Passes ⟨image, 0⟩ (textBytes headerSignature) c₁
        ∧ Cursor.access.readTexts slot c₁ = .ok (texts, c₂)
        ∧ Cursor.Passes c₂ (textBytes resourceSignature) c₃
        ∧ Cursor.access.readResources c₃ = .ok (blobs, c₄)
        ∧ Cursor.Passes c₄ (textBytes codeSignature) cursor)
      ∧ c₁.offset = headerSignature.length
      ∧ c₂.offset = resourceOffset program
      ∧ c₃.offset = resourceOffset program + resourceSignature.length
      ∧ c₄.offset = codeOffset program
      ∧ cursor.offset = codeOffset program + codeSignature.length := by
  obtain ⟨⟨_, c₁⟩, header, read⟩ := bind_eq_ok_iff.mp read
  obtain ⟨⟨texts, c₂⟩, metadata, read⟩ := bind_eq_ok_iff.mp read
  obtain ⟨⟨_, c₃⟩, mark, read⟩ := bind_eq_ok_iff.mp read
  obtain ⟨⟨blobs, c₄⟩, resources, read⟩ := bind_eq_ok_iff.mp read
  obtain ⟨⟨_, c₅⟩, code, same⟩ := bind_eq_ok_iff.mp read
  cases same
  have p₁ := Cursor.signed_eq_ok_iff.mp header
  have p₃ := Cursor.signed_eq_ok_iff.mp mark
  have p₅ := Cursor.signed_eq_ok_iff.mp code
  have o₁ : c₁.offset = headerSignature.length := by
    rw [p₁.offset, length_textBytes, Nat.zero_add]
  have o₂ : c₂.offset = resourceOffset texts := by
    have past := offset_of_readTexts metadata
    omega
  have o₃ : c₃.offset = resourceOffset texts + resourceSignature.length := by
    rw [p₃.offset, length_textBytes, o₂]
  have o₄ : c₄.offset = codeOffset { texts with resources := blobs } := by
    rw [offset_of_readResources resources, o₃]
    rfl
  have o₅ :
      cursor.offset = codeOffset { texts with resources := blobs } + codeSignature.length := by
    rw [p₅.offset, length_textBytes, o₄]
  exact ⟨texts, blobs, c₁, c₂, c₃, c₄, ⟨p₁, metadata, p₃, resources, p₅⟩,
    o₁, o₂, o₃, o₄, o₅⟩

theorem signatures_of_read {slot : VersionSlot} {image : Bytes} {program : Program}
    (accepted : read slot image = .ok program) :
    textBytes headerSignature <+: image
      ∧ textBytes resourceSignature <+: image.drop (resourceOffset program)
      ∧ textBytes codeSignature <+: image.drop (codeOffset program) := by
  rw [read, Access.read_eq] at accepted
  obtain ⟨⟨start, cursor⟩, head, body⟩ := bind_eq_ok_iff.mp accepted
  obtain ⟨list, -, rfl⟩ := map_eq_ok_iff.mp body
  obtain ⟨texts, blobs, c₁, c₂, c₃, c₄, ⟨p₁, metadata, p₃, resources, p₅⟩,
    -, o₂, -, o₄, -⟩ := parts_of_readHead head
  obtain ⟨_, p₂, -⟩ := (steady_readTexts slot).reads c₁ texts c₂ metadata
  obtain ⟨_, p₄, -⟩ := steady_readResources.reads c₃ blobs c₄ resources
  have place₂ : c₂.rest = image.drop c₂.offset := p₂.drop (p₁.drop List.drop_zero.symm)
  have place₄ : c₄.rest = image.drop c₄.offset := p₄.drop (p₃.drop place₂)
  rw [o₂, p₃.rest] at place₂
  rw [o₄, p₅.rest] at place₄
  exact ⟨⟨_, p₁.rest.symm⟩, ⟨_, place₂⟩, ⟨_, place₄⟩⟩

/-- What stands in front of the instructions is read in full or not at all. -/
theorem readHead_fails_short {slot : VersionSlot} {image : Bytes} {program : Program}
    {cursor : Cursor} (read : Cursor.access.readHead slot ⟨image, 0⟩ = .ok (program, cursor))
    {front : Bytes} (passes : Cursor.Passes ⟨image, 0⟩ front cursor) :
    front.length = codeOffset program + codeSignature.length
      ∧ Cursor.FailsShort (CutError program) (Cursor.access.readHead slot) 0 front := by
  obtain ⟨texts, blobs, c₁, c₂, c₃, c₄, ⟨p₁, metadata, p₃, resources, p₅⟩,
    o₁, o₂, o₃, o₄, o₅⟩ := parts_of_readHead read
  obtain ⟨T, p₂, whole₂⟩ := (steady_readTexts slot).reads c₁ texts c₂ metadata
  obtain ⟨B, p₄, whole₄⟩ := steady_readResources.reads c₃ blobs c₄ resources
  have parts := Cursor.Passes.append_iff.mpr ⟨c₁, p₁, Cursor.Passes.append_iff.mpr ⟨c₂, p₂,
    Cursor.Passes.append_iff.mpr ⟨c₃, p₃, Cursor.Passes.append_iff.mpr ⟨c₄, p₄, p₅⟩⟩⟩⟩
  have m₂ := p₂.offset
  have m₄ := p₄.offset
  have length : cursor.offset = front.length := by
    rw [passes.offset, Nat.zero_add]
  refine ⟨length ▸ o₅, ?_⟩
  -- A part is cut only when those in front of it are whole. What is left in each part is to place the
  -- cut inside or outside of the signatures.
  rw [List.append_cancel_right (passes.rest.symm.trans parts.rest)]
  refine .bind (.signed fun k short => .badSignature (Or.inl ?_) _ _) p₁.offset
    (fun rest => Cursor.signed_eq_ok_iff.mpr ⟨rfl, p₁.offset⟩) ?_
  · omega
  refine .bind (.composed (composed_readTexts slot) whole₂ fun k short => .truncated ?_)
    p₂.offset whole₂ ?_
  · unfold CutsSignature
    omega
  refine .bind (.signed fun k short => .badSignature (Or.inr (Or.inl ?_)) _ _) p₃.offset
    (fun rest => Cursor.signed_eq_ok_iff.mpr ⟨rfl, p₃.offset⟩) ?_
  · omega
  refine .bind (.composed composed_readResources whole₄ fun k short => .truncated ?_)
    p₄.offset whole₄ ?_
  · unfold CutsSignature
    omega
  rw [← List.append_nil (textBytes codeSignature)]
  refine .bind (.signed fun k short => .badSignature (Or.inr (Or.inr ?_)) _ _) p₅.offset
    (fun rest => Cursor.signed_eq_ok_iff.mpr ⟨rfl, p₅.offset⟩) .nil
  omega

theorem Format.length_instruction (i : Instruction) :
    (instruction i).length = 3 + i.opcode.width := by
  rw [instruction, List.length_append, List.length_cons, Bytes.length_littleEndian, i.fits]

theorem codeSize_cons (i : Instruction) (rest : List Instruction) :
    codeSize (i :: rest) = (Format.instruction i).length + codeSize rest := by
  rw [Format.length_instruction, codeSize]

theorem codeSize_eq_length (list : List Instruction) :
    codeSize list = (list.flatMap Format.instruction).length := by
  induction list with
  | nil => rfl
  | cons i rest ih => rw [codeSize_cons, ih, List.flatMap_cons, List.length_append]

theorem codeSize_take_add_drop (list : List Instruction) (n : Nat) :
    codeSize (list.take n) + codeSize (list.drop n) = codeSize list := by
  simp only [codeSize_eq_length, ← List.length_append, ← List.flatMap_append, List.take_append_drop]

theorem Format.take_instructions (list : List Instruction) (n : Nat) :
    (list.flatMap instruction).take (codeSize (list.take n)) =
      (list.take n).flatMap instruction := by
  have split : list.flatMap instruction =
      (list.take n).flatMap instruction ++ (list.drop n).flatMap instruction := by
    rw [← List.flatMap_append, List.take_append_drop]
  rw [split, codeSize_eq_length, List.take_left]

/-- A cut inside an instruction is noticed when the reader gets there. -/
theorem Cursor.instructions_truncated (list done : List Instruction) (offset : Nat) {k : Nat}
    (short : k < codeSize list) (inside : ∀ n, k ≠ codeSize (list.take n)) :
    ∃ needed place,
      access.instructions ⟨(list.flatMap Format.instruction).take k, offset⟩ done =
        .error (.truncated needed place) := by
  induction list generalizing done offset k with
  | nil => cases short
  | cons i rest ih =>
    have positive : k ≠ 0 := inside 0
    rw [codeSize_cons] at short
    have ahead : (List.flatMap Format.instruction (i :: rest)).take k ≠ [] := by
      rw [← List.length_pos_iff, List.length_take, ← codeSize_eq_length, codeSize_cons]
      omega
    rw [Cursor.instructions_of_ne_nil ahead, List.flatMap_cons]
    by_cases first : k < (Format.instruction i).length
    · have whole : access.instructionFrom offset ⟨Format.instruction i, offset⟩ =
          .ok (i, ⟨[], offset + (Format.instruction i).length⟩) := by
        rw [← Cursor.instruction_eq ⟨Format.instruction i, offset⟩]
        exact Cursor.instruction_eq_ok_iff.mpr ⟨(List.append_nil _).symm, rfl⟩
      obtain ⟨needed, place, failed⟩ := (Composed.instructionFrom offset).truncated whole rfl first
      rw [List.take_append_of_le_length (Nat.le_of_lt first), Cursor.instruction_eq, failed]
      exact ⟨needed, place, rfl⟩
    · have behind (n : Nat) : k - (Format.instruction i).length ≠ codeSize (rest.take n) := by
        have cut := inside (n + 1)
        rw [List.take_succ_cons, codeSize_cons] at cut
        omega
      have passed (tail : Bytes) :
          access.instruction ⟨Format.instruction i ++ tail, offset⟩ =
            .ok (i, ⟨tail, offset + (Format.instruction i).length⟩) :=
        Cursor.instruction_eq_ok_iff.mpr ⟨rfl, rfl⟩
      rw [List.take_append, List.take_of_length_le (Nat.le_of_not_lt first), passed]
      exact ih (i :: done) _ (by omega) behind

/-- An image is what stands in front of the instructions, and then the instructions. With the front
whole, only these are read anew. -/
theorem head_of_read {slot : VersionSlot} {image : Bytes} {program : Program}
    (accepted : read slot image = .ok program) :
    ∃ front, image = front ++ program.instructions.flatMap Format.instruction
      ∧ front.length = codeOffset program + codeSignature.length
      ∧ Cursor.FailsShort (CutError program) (Cursor.access.readHead slot) 0 front
      ∧ ∀ rest, read slot (front ++ rest) =
        (Cursor.access.instructions ⟨rest, front.length⟩ []).map
          fun instructions => { program with instructions } := by
  rw [read, Access.read_eq] at accepted
  obtain ⟨⟨start, cursor⟩, head, body⟩ := bind_eq_ok_iff.mp accepted
  obtain ⟨front, passes, whole⟩ := (composed_readHead slot).steady.reads _ start cursor head
  obtain ⟨length, short⟩ := readHead_fails_short head passes
  have place : cursor.offset = front.length := by
    rw [passes.offset, Nat.zero_add]
  obtain ⟨_, code, rfl⟩ := map_eq_ok_iff.mp body
  obtain ⟨_, rfl, rest⟩ := Cursor.instructions_eq_ok_iff.mp code
  refine ⟨front, rest ▸ passes.rest, length, short, fun tail => ?_⟩
  rw [read, Access.read_eq, whole, place]
  rfl

/-- Cutting an image short. Right behind an instruction, or in front of them all, the instructions
behind the cut are gone and nothing else is. Everywhere else the cut is an error: of the signature,
if the cut leaves one out or takes it apart, and else for want of bytes. -/
theorem read_take {slot : VersionSlot} {image : Bytes} {program : Program}
    (accepted : read slot image = .ok program) {k : Nat} (bound : k ≤ image.length) :
    (∀ m, k = image.length
        - codeSize (program.instructions.drop (program.instructions.length - m)) →
      read slot (image.take k) = .ok { program with
        instructions := program.instructions.take (program.instructions.length - m) })
    ∧ ((∀ m, k ≠ image.length
        - codeSize (program.instructions.drop (program.instructions.length - m))) →
      ∃ error, read slot (image.take k) = .error error
        ∧ ((∃ mark offset, error = .badSignature mark offset) ↔ CutsSignature program k)
        ∧ ((∃ needed offset, error = .truncated needed offset) ↔ ¬ CutsSignature program k)) := by
  obtain ⟨front, rfl, length, short, continues⟩ := head_of_read accepted
  rw [List.length_append, ← codeSize_eq_length] at bound ⊢
  refine ⟨?_, ?_⟩
  · intro m boundary
    generalize program.instructions.length - m = n at boundary ⊢
    have sizes := codeSize_take_add_drop program.instructions n
    have behind : k = front.length + codeSize (program.instructions.take n) := by omega
    rw [behind, List.take_length_add_append, Format.take_instructions, continues,
      Cursor.instructions_eq_ok_iff.mpr ⟨program.instructions.take n, rfl, rfl⟩]
    rfl
  · intro inside
    by_cases early : k < front.length
    · obtain ⟨error, failed, expected⟩ := short k early
      rw [Nat.zero_add] at expected
      refine ⟨error, ?_, expected⟩
      rw [List.take_append_of_le_length (Nat.le_of_lt early), read, Access.read_eq, failed]
      rfl
    · have last : k ≠ front.length + codeSize program.instructions := by
        simpa [codeSize] using inside 0
      have within (n : Nat) : k - front.length ≠ codeSize (program.instructions.take n) := by
        intro same
        have sizes := codeSize_take_add_drop program.instructions n
        have cut := inside (program.instructions.length - n)
        by_cases all : n ≤ program.instructions.length
        · rw [Nat.sub_sub_self all] at cut
          omega
        · rw [List.take_of_length_le (Nat.le_of_not_le all)] at same
          omega
      obtain ⟨needed, place, failed⟩ := Cursor.instructions_truncated program.instructions []
        front.length (by omega) within
      have other := not_cutsSignature_of_le (length ▸ Nat.le_of_not_lt early)
      refine ⟨.truncated needed place, ?_, CutError.truncated other needed place⟩
      rw [List.take_append, List.take_of_length_le (Nat.le_of_not_lt early), continues, failed]
      rfl

/-- Cut between its instructions, in the signature in front of them, and inside the second one. -/
theorem read_take_wait :
    let first : Instruction := ⟨⟨⟨2, by decide +kernel⟩⟩, [1, 0, 0, 0], by decide +kernel⟩
    let wait : Instruction := ⟨⟨⟨53, by decide +kernel⟩⟩, [], by decide +kernel⟩
    let program : Program :=
      { title := "t".toList, resources := [[7]], instructions := [first, wait] }
    let image := contents .plain program
    read .plain image = .ok program
      ∧ read .plain (image.take 29) = .ok { program with instructions := [first] }
      ∧ (∃ mark offset, read .plain (image.take 19) = .error (.badSignature mark offset))
      ∧ ∃ needed offset, read .plain (image.take 30) = .error (.truncated needed offset) := by
  intro first wait program image
  have built : build .plain program = .ok image :=
    build_eq_ok_iff_accepted.mpr ⟨by decide +kernel +zetaReduce, by decide +kernel +zetaReduce⟩
  have accepted : read .plain image = .ok program :=
    read_plain_eq_ok_iff.mpr (build_eq_ok_iff.mp built)
  have boundaries : ∀ n < 3,
      image.length - codeSize (program.instructions.drop n) ∈ [22, 29, 32] := by
    decide +kernel +zetaReduce
  have apart {k : Nat} (inside : k ∉ [22, 29, 32]) (m : Nat) :
      k ≠ image.length - codeSize (program.instructions.drop (2 - m)) := by
    rintro rfl
    exact inside (boundaries _ (by omega))
  refine ⟨accepted, (read_take accepted (by decide +kernel)).1 1 (by decide +kernel), ?_, ?_⟩
  · obtain ⟨error, failed, marked, -⟩ :=
      (read_take accepted (k := 19) (by decide +kernel)).2 (apart (by decide))
    obtain ⟨mark, offset, rfl⟩ := marked.mpr (Or.inr (Or.inr (by decide +kernel)))
    exact ⟨mark, offset, failed⟩
  · obtain ⟨error, failed, -, short⟩ :=
      (read_take accepted (k := 30) (by decide +kernel)).2 (apart (by decide))
    obtain ⟨needed, offset, rfl⟩ := short.mpr (not_cutsSignature_of_le (by decide +kernel))
    exact ⟨needed, offset, failed⟩

end Assembler.Image
