import Assembler.Instruction
import Assembler.Proofs.Opcode
import Assembler.Proofs.Scalar.Denotation

/-! Operands as scalars and as bytes. The values of an instruction are all that its bytes hold, and
literals that spell the values denote the instruction. -/
namespace Assembler.Instruction

/-- Enough bytes are read as scalars of the kinds asked for, and the scalars have those bytes. -/
theorem decodeOperands_of_length_eq {kinds : List ScalarKind} {stored : Bytes}
    (size : stored.length = ScalarKind.totalWidth kinds) :
    (decodeOperands kinds stored).map Scalar.kind = kinds
      ∧ (decodeOperands kinds stored).flatMap Scalar.bytes = stored := by
  induction kinds generalizing stored with
  | nil =>
    obtain rfl := List.length_eq_zero_iff.mp size
    exact ⟨rfl, rfl⟩
  | cons kind kinds ih =>
    have total : stored.length = kind.width + ScalarKind.totalWidth kinds := size
    have rest : (stored.drop kind.width).length = ScalarKind.totalWidth kinds := by
      rw [List.length_drop, total, Nat.add_sub_cancel_left]
    have enough : kind.width ≤ stored.length := by omega
    obtain ⟨s, read, same, front⟩ := Scalar.decode?_of_length_le enough
    obtain ⟨later, back⟩ := ih rest
    simp only [decodeOperands, read, List.map_cons, List.flatMap_cons, same, later, front, back,
      List.take_append_drop, and_self]

theorem kind_values (i : Instruction) : i.values.map Scalar.kind = i.opcode.operands :=
  (decodeOperands_of_length_eq i.fits).1

theorem bytes_values (i : Instruction) : i.values.flatMap Scalar.bytes = i.arguments :=
  (decodeOperands_of_length_eq i.fits).2

theorem unsigned_values (i : Instruction) : ∀ s ∈ i.values, s.kind.form = .unsigned := by
  intro s member
  apply i.opcode.unsigned_operands
  rw [← kind_values]
  exact List.mem_map_of_mem member

theorem decodeOperands_bytes (scalars : List Scalar) :
    decodeOperands (scalars.map Scalar.kind) (scalars.flatMap Scalar.bytes) = scalars := by
  induction scalars with
  | nil => rfl
  | cons s scalars ih =>
    rw [List.map_cons, List.flatMap_cons, decodeOperands, Scalar.decode?_bytes_append]
    dsimp only
    rw [← s.length_bytes, List.drop_left, ih]

theorem encodeOperands_cons_of_error {kind : ScalarKind} {literal : Text} {bad : BadLiteral}
    (refused : Scalar.parse kind literal = .error bad) (pairs : List (ScalarKind × Text)) :
    encodeOperands ((kind, literal) :: pairs) = .error bad := by
  rw [encodeOperands, Scalar.encode, refused]
  rfl

theorem encodeOperands_cons_of_ok {kind : ScalarKind} {literal : Text} {s : Scalar}
    (read : Scalar.parse kind literal = .ok s) (pairs : List (ScalarKind × Text)) :
    encodeOperands ((kind, literal) :: pairs) = (encodeOperands pairs).map (s.bytes ++ ·) := by
  rw [encodeOperands, Scalar.encode, read]
  cases encodeOperands pairs <;> rfl

/-- Literals are encoded exactly if each of them can be read, as the bytes of what is read. -/
theorem encodeOperands_eq_ok_iff {pairs : List (ScalarKind × Text)} {bytes : Bytes} :
    encodeOperands pairs = .ok bytes ↔
      ∃ scalars : List Scalar, pairs.map (Function.uncurry Scalar.parse) = scalars.map .ok
        ∧ bytes = scalars.flatMap Scalar.bytes := by
  induction pairs generalizing bytes with
  | nil =>
    constructor
    · rintro ⟨⟩
      exact ⟨[], rfl, rfl⟩
    · rintro ⟨scalars, none, rfl⟩
      rw [List.map_eq_nil_iff.mp none.symm]
      rfl
  | cons pair pairs ih =>
    obtain ⟨kind, literal⟩ := pair
    cases read : Scalar.parse kind literal with
    | error bad =>
      rw [encodeOperands_cons_of_error read]
      constructor
      · rintro ⟨⟩
      · rintro ⟨scalars, all, -⟩
        cases scalars <;> simp [read] at all
    | ok s =>
      rw [encodeOperands_cons_of_ok read]
      constructor
      · intro encoded
        cases later : encodeOperands pairs with
        | error bad =>
          rw [later] at encoded
          cases encoded
        | ok rest =>
          rw [later] at encoded
          cases encoded
          obtain ⟨scalars, all, rfl⟩ := ih.mp later
          exact ⟨s :: scalars, by simp [read, all], rfl⟩
      · rintro ⟨scalars, all, rfl⟩
        cases scalars with
        | nil => cases all
        | cons first scalars =>
          simp only [List.map_cons, Function.uncurry_apply_pair, read, List.cons.injEq,
            Except.ok.injEq] at all
          obtain ⟨rfl, all⟩ := all
          rw [ih.mpr ⟨scalars, all, rfl⟩]
          rfl

/-- The first literal that cannot be read is the one that is reported. -/
theorem encodeOperands_eq_error_iff {pairs : List (ScalarKind × Text)} {bad : BadLiteral} :
    encodeOperands pairs = .error bad ↔
      ∃ front kind literal back, pairs = front ++ (kind, literal) :: back
        ∧ (∀ pair ∈ front, ∃ s, Scalar.parse pair.1 pair.2 = .ok s)
        ∧ Scalar.parse kind literal = .error bad := by
  induction pairs with
  | nil => simp [encodeOperands]
  | cons pair pairs ih =>
    obtain ⟨kind, literal⟩ := pair
    cases read : Scalar.parse kind literal with
    | error cause =>
      rw [encodeOperands_cons_of_error read]
      constructor
      · rintro ⟨⟩
        exact ⟨[], kind, literal, pairs, rfl, List.forall_mem_nil _, read⟩
      · rintro ⟨front, other, text, back, split, readable, refused⟩
        cases front with
        | nil =>
          cases split
          rw [read] at refused
          cases refused
          rfl
        | cons first front =>
          cases split
          obtain ⟨s, fine⟩ := readable _ List.mem_cons_self
          rw [read] at fine
          cases fine
    | ok s =>
      rw [encodeOperands_cons_of_ok read]
      constructor
      · intro failed
        cases later : encodeOperands pairs with
        | ok rest =>
          rw [later] at failed
          cases failed
        | error cause =>
          rw [later] at failed
          cases failed
          obtain ⟨front, other, text, back, rfl, readable, refused⟩ := ih.mp later
          exact ⟨(kind, literal) :: front, other, text, back, rfl,
            List.forall_mem_cons.mpr ⟨⟨s, read⟩, readable⟩, refused⟩
      · rintro ⟨front, other, text, back, split, readable, refused⟩
        cases front with
        | nil =>
          cases split
          rw [read] at refused
          cases refused
        | cons first front =>
          cases split
          rw [ih.mpr ⟨front, other, text, back, rfl, (List.forall_mem_cons.mp readable).2, refused⟩]
          rfl

/-- Literals are refused one by one, each for the kind beside it. -/
theorem encodeOperands_eq_error {pairs : List (ScalarKind × Text)} {bad : BadLiteral}
    (refused : encodeOperands pairs = .error bad) :
    ∃ pair ∈ pairs, bad = ⟨pair.2, .scalar pair.1⟩ := by
  obtain ⟨front, kind, literal, back, rfl, -, cause⟩ := encodeOperands_eq_error_iff.mp refused
  exact ⟨(kind, literal), by simp, Scalar.parse_eq_error cause⟩

theorem kind_of_parses {pairs : List (ScalarKind × Text)} {scalars : List Scalar}
    (read : pairs.map (Function.uncurry Scalar.parse) = scalars.map .ok) :
    scalars.map Scalar.kind = pairs.map Prod.fst := by
  induction pairs generalizing scalars with
  | nil => rw [List.map_eq_nil_iff.mp read.symm, List.map_nil, List.map_nil]
  | cons pair pairs ih =>
    cases scalars with
    | nil => cases read
    | cons s scalars =>
      simp only [List.map_cons, List.cons.injEq] at read ⊢
      exact ⟨Scalar.kind_of_parse read.1, ih read.2⟩

theorem encode_eq_ok_iff_operands {opcode : Opcode} {literals : List Text} {i : Instruction} :
    encode opcode literals = .ok i ↔
      i.opcode = opcode ∧ literals.length = opcode.operands.length
        ∧ encodeOperands (opcode.operands.zip literals) = .ok i.arguments := by
  unfold encode
  constructor
  · intro encoded
    split at encoded
    · rename_i count
      split at encoded
      · cases encoded
      · rename_i bytes read
        cases encoded
        exact ⟨rfl, count, read⟩
    · cases encoded
  · rintro ⟨rfl, count, read⟩
    rw [dif_pos count]
    split
    · rename_i failed
      rw [read] at failed
      cases failed
    · rename_i bytes same
      rw [read] at same
      cases same
      rfl

/-- Literals denote an instruction exactly if there is one for each operand and each of them can be
read; what is read are the values of the instruction. -/
theorem encode_eq_ok_iff {opcode : Opcode} {literals : List Text} {i : Instruction} :
    encode opcode literals = .ok i ↔
      i.opcode = opcode ∧ literals.length = opcode.operands.length
        ∧ List.zipWith Scalar.parse opcode.operands literals = i.values.map .ok := by
  rw [encode_eq_ok_iff_operands, encodeOperands_eq_ok_iff, ← List.map_uncurry_zip_eq_zipWith]
  constructor
  · rintro ⟨rfl, count, scalars, read, bytes⟩
    refine ⟨rfl, count, ?_⟩
    have kinds : scalars.map Scalar.kind = i.opcode.operands := by
      rw [kind_of_parses read, List.map_fst_zip (Nat.le_of_eq count.symm)]
    rw [read, values, bytes, ← kinds, decodeOperands_bytes]
  · rintro ⟨rfl, count, read⟩
    exact ⟨rfl, count, i.values, read, i.bytes_values.symm⟩

theorem encode_eq_error_iff {opcode : Opcode} {literals : List Text} {fault : Fault} :
    encode opcode literals = .error fault ↔
      literals.length ≠ opcode.operands.length ∧ fault = .literalCount opcode literals.length
      ∨ literals.length = opcode.operands.length
        ∧ ∃ bad, encodeOperands (opcode.operands.zip literals) = .error bad
          ∧ fault = .badLiteral bad := by
  unfold encode
  constructor
  · intro failed
    split at failed
    · rename_i count
      split at failed
      · rename_i bad refused
        cases failed
        exact Or.inr ⟨count, bad, refused, rfl⟩
      · cases failed
    · rename_i count
      cases failed
      exact Or.inl ⟨count, rfl⟩
  · rintro (⟨count, rfl⟩ | ⟨count, bad, refused, rfl⟩)
    · rw [dif_neg count]
    · rw [dif_pos count]
      split
      · rename_i cause same
        rw [refused] at same
        cases same
        rfl
      · rename_i read
        rw [refused] at read
        cases read

theorem encodeOperands_of_trim_eq_text {scalars : List Scalar}
    (unsigned : ∀ s ∈ scalars, s.kind.form = .unsigned) {literals : List Text}
    (spelled : literals.map Text.trim = scalars.map Scalar.text) :
    encodeOperands ((scalars.map Scalar.kind).zip literals) =
      .ok (scalars.flatMap Scalar.bytes) := by
  induction scalars generalizing literals with
  | nil => rfl
  | cons s scalars ih =>
    cases literals with
    | nil => cases spelled
    | cons literal literals =>
      simp only [List.map_cons, List.cons.injEq] at spelled
      have front := Scalar.encode_of_trim_eq_text (unsigned s (by simp)) spelled.1
      have back := ih (fun s member => unsigned s (by simp [member])) spelled.2
      simp only [List.map_cons, List.zip_cons_cons, encodeOperands, front, back, List.flatMap_cons]
      rfl

theorem encode_of_trim_eq_text {i : Instruction} {literals : List Text}
    (spelled : literals.map Text.trim = i.values.map Scalar.text) :
    encode i.opcode literals = .ok i := by
  have count : literals.length = i.opcode.operands.length := by
    have lengths := congrArg List.length spelled
    simp only [List.length_map] at lengths
    rw [← kind_values, List.length_map, lengths]
  have bytes : encodeOperands (i.opcode.operands.zip literals) = .ok i.arguments := by
    rw [← kind_values, ← bytes_values]
    exact encodeOperands_of_trim_eq_text i.unsigned_values spelled
  exact encode_eq_ok_iff_operands.mpr ⟨rfl, count, bytes⟩

end Assembler.Instruction
