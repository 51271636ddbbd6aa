import Assembler.Bytes
import Assembler.Opcode

/-! Facts about the instruction set as a whole. Each is checked once on the table and then holds of
every opcode. -/
namespace Assembler.Opcode

theorem size_instructionSet : instructionSet.size = 143 := by decide +kernel

theorem operation_mem (opcode : Opcode) : opcode.operation ∈ instructionSet.toList :=
  Array.getElem_mem_toList _

theorem ofCode?_eq_some_iff {code : UInt8} {opcode : Opcode} :
    ofCode? code = some opcode ↔ code = opcode.code := by
  have bound : opcode.index.val < 256 :=
    Nat.lt_of_lt_of_le opcode.index.isLt (by rw [size_instructionSet]; decide)
  have number : opcode.code.toNat = opcode.index.val := by
    rw [Opcode.code, UInt8.toNat_ofNat_of_lt' bound]
  unfold ofCode?
  constructor
  · intro found
    split at found
    · cases found
      exact (UInt8.ofNat_toNat).symm
    · contradiction
  · rintro rfl
    have inside : opcode.code.toNat < instructionSet.size := by
      rw [number]
      exact opcode.index.isLt
    rw [dif_pos inside]
    congr

theorem length_operands_lt (opcode : Opcode) : opcode.operands.length < Bytes.capacity 2 := by
  have table : ∀ operation ∈ instructionSet.toList,
      operation.operands.length < Bytes.capacity 2 := by
    decide +kernel
  exact table _ opcode.operation_mem

theorem unsigned_operands (opcode : Opcode) : ∀ kind ∈ opcode.operands, kind.form = .unsigned := by
  have table : ∀ operation ∈ instructionSet.toList, ∀ kind ∈ operation.operands,
      kind.form = .unsigned := by
    decide +kernel
  exact table _ opcode.operation_mem

def mnemonics : List Text :=
  instructionSet.toList.map fun operation => Text.lower operation.name.toList

theorem getElem?_mnemonics (opcode : Opcode) :
    mnemonics[opcode.index.val]? = some opcode.mnemonic := by
  have here : instructionSet.toList[opcode.index.val]? = some opcode.operation := by
    rw [Array.getElem?_toList]
    exact Array.getElem?_eq_getElem opcode.index.isLt
  rw [mnemonics, List.getElem?_map, here]
  rfl

/-- A number for each word, as comparing numbers is quick. -/
def key (word : Text) : Nat :=
  word.foldl (fun n c => 256 * n + c.toNat) 0

-- One pass over the table for all facts about its words: most of the work is to spell them.
theorem mnemonics_table :
    (∀ word ∈ mnemonics, word ≠ [] ∧ word.all (fun c => 0x30 ≤ c.toNat && c.toNat < 0x7F)
      ∧ Text.upper (word.take 9) ≠ "RESOURCES".toList.take word.length)
      ∧ (mnemonics.map key).Nodup := by
  decide +kernel

theorem mnemonic_mem (opcode : Opcode) : opcode.mnemonic ∈ mnemonics :=
  List.mem_of_getElem? opcode.getElem?_mnemonics

theorem mnemonic_ne_nil (opcode : Opcode) : opcode.mnemonic ≠ [] :=
  (mnemonics_table.1 _ opcode.mnemonic_mem).1

/-- Mnemonics hold no blank and none of the marks of the source language. -/
theorem range_mnemonic (opcode : Opcode) :
    ∀ c ∈ opcode.mnemonic, 0x30 ≤ c.toNat ∧ c.toNat < 0x7F := by
  intro c member
  have range := List.all_eq_true.mp (mnemonics_table.1 _ opcode.mnemonic_mem).2.1 c member
  simpa using range

/-- No mnemonic can be taken for the first line of a resource block, whatever follows it. -/
theorem mnemonic_not_opener (opcode : Opcode) :
    Text.upper (opcode.mnemonic.take 9) ≠ "RESOURCES".toList.take opcode.mnemonic.length :=
  (mnemonics_table.1 _ opcode.mnemonic_mem).2.2

theorem mnemonic_injective {first second : Opcode} (same : first.mnemonic = second.mnemonic) :
    first = second := by
  have distinct : mnemonics.Nodup :=
    List.Pairwise.of_map key (fun _ _ different equal => different (congrArg key equal))
      mnemonics_table.2
  have inside : first.index.val < mnemonics.length := by
    rw [mnemonics, List.length_map, Array.length_toList]
    exact first.index.isLt
  have index : first.index.val = second.index.val := by
    rw [← List.getElem?_inj inside distinct, first.getElem?_mnemonics, second.getElem?_mnemonics,
      same]
  cases first
  cases second
  exact congrArg mk (Fin.ext index)

/-- A mnemonic belongs to at most one opcode, and every opcode has one. -/
theorem ofMnemonic?_eq_some_iff {word : Text} {opcode : Opcode} :
    ofMnemonic? word = some opcode ↔ word = opcode.mnemonic := by
  have sound {other : Opcode} (found : ofMnemonic? word = some other) : word = other.mnemonic := by
    obtain ⟨front, back, split, -⟩ := List.lookup_eq_some_iff.mp found
    have member : (word, other) ∈ dictionary := by simp [split]
    obtain ⟨named, -, pair⟩ := List.mem_map.mp member
    cases pair
    rfl
  constructor
  · exact sound
  · rintro rfl
    have listed : (opcode.mnemonic, opcode) ∈ dictionary :=
      List.mem_map.mpr ⟨opcode, List.mem_map.mpr ⟨opcode.index, List.mem_finRange _, rfl⟩, rfl⟩
    have known : (ofMnemonic? opcode.mnemonic).isSome :=
      List.lookup_isSome_iff.mpr ⟨_, listed, BEq.rfl⟩
    obtain ⟨other, found⟩ := Option.isSome_iff_exists.mp known
    rw [found, mnemonic_injective (sound found)]

end Assembler.Opcode
