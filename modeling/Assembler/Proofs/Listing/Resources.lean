import Assembler.Proofs.BinaryByte
import Assembler.Proofs.Listing.Metadata
import Assembler.Proofs.Scalar.Denotation

/-! Resource blocks in listings. A resource that some entry gives back is listed as that entry; any
other is listed as a comment, so its line stores nothing. -/
namespace Assembler

theorem Listing.all_isShown_iff {blob : Bytes} :
    blob.all isShown = true ↔ ∀ b ∈ blob, 0x20 ≤ b ∧ b ≤ 0x7E := by
  simp [isShown]

/-- The resources that an entry can give: ASCII characters from the space to the tilde, or as many
bytes as a scalar has. -/
def HasEntry (blob : Bytes) : Prop :=
  (∀ b ∈ blob, 0x20 ≤ b ∧ b ≤ 0x7E) ∨ blob.length ∈ [1, 2, 4, 8]

instance (blob : Bytes) : Decidable (HasEntry blob) :=
  decidable_of_iff (blob.all Listing.isShown = true ∨ blob.length ∈ [1, 2, 4, 8])
    (or_congr_left Listing.all_isShown_iff)

namespace ResourceKind

def word (kind : ResourceKind) : Text :=
  kind.words.headD []

theorem ofWord?_word (kind : ResourceKind) : ofWord? kind.word = some kind := by
  cases kind <;> decide

theorem visible_word (kind : ResourceKind) : Text.Visible kind.word := by
  cases kind <;> decide

theorem colon_not_mem_word (kind : ResourceKind) : ':' ∉ kind.word := by
  cases kind <;> decide

theorem word_eq_cons (kind : ResourceKind) : ∃ c rest, kind.word = c :: rest
    ∧ Text.isBlank c = false ∧ c ≠ '/' ∧ c.toUpper ≠ 'E' := by
  cases kind <;> exact ⟨_, _, rfl, by decide, by decide, by decide⟩

theorem encode_string_toText {blob : Bytes} (shown : ∀ b ∈ blob, 0x20 ≤ b ∧ b ≤ 0x7E) :
    string.encode (Bytes.toText blob) = .ok blob := by
  have ascii : (Bytes.toText blob).all (fun c => c.toNat < 128) = true := by
    rw [List.all_eq_true]
    intro c member
    obtain ⟨b, inside, rfl⟩ := List.mem_map.mp member
    have upper := UInt8.le_iff_toNat_le.mp (shown b inside).2
    rw [Bytes.toNat_ofNat_byte, decide_eq_true_eq]
    exact Nat.lt_of_le_of_lt upper (by decide)
  rw [encode, encodeString, if_pos ascii]
  exact congrArg Except.ok (Image.textBytes_toText blob)

theorem encode_decimal {kind : ResourceKind} {scalar : ScalarKind}
    (as : ∀ text, kind.encode text = Scalar.encode scalar text) (unsigned : scalar.form = .unsigned)
    {blob : Bytes} (size : blob.length = scalar.width) :
    kind.encode (Text.decimal (Bytes.toNat blob)) = .ok blob := by
  have fits : Bytes.toNat blob < Bytes.capacity scalar.width := size ▸ Bytes.toNat_lt blob
  rw [as, Scalar.encode_of_trim_eq_decimal unsigned fits (Scalar.trim_decimal _), ← size,
    Bytes.littleEndian_toNat]

end ResourceKind

namespace Listing
open Source

theorem visible_decimal (n : Nat) : Text.Visible (Text.decimal n) := by
  intro c member
  have range := Text.digit_range (Text.isDigit_of_mem_decimal member)
  omega

theorem visible_hexByte (b : UInt8) : Text.Visible (Text.hexByte b) := by
  intro c member
  have digit : ∀ d < 16, 0x20 ≤ (Nat.digitChar d).toUpper.toNat := by decide
  have bound := b.toNat_lt
  simp only [Text.hexByte, List.map_cons, List.map_nil, List.mem_cons, List.not_mem_nil,
    or_false] at member
  rcases member with rfl | rfl
  · exact digit _ (by omega)
  · exact digit _ (by omega)

theorem exists_ofFn {blob : Bytes} {size : Nat} (sized : blob.length = size) :
    ∃ byteAt : Fin size → UInt8, blob = List.ofFn byteAt := by
  subst sized
  exact ⟨fun i => blob[i], List.ofFn_getElem.symm⟩

/-- A resource with an entry is listed as a kind, a colon and a value that denotes its bytes. -/
theorem entry_of_hasEntry {blob : Bytes} (possible : HasEntry blob) :
    ∃ kind value, entry blob = ResourceKind.word kind ++ ':' :: value
      ∧ kind.encode value = .ok blob ∧ Text.Visible value := by
  unfold entry
  split
  · rename_i shown
    have shown := all_isShown_iff.mp shown
    refine ⟨.string, Bytes.toText blob, rfl, ResourceKind.encode_string_toText shown, ?_⟩
    intro c member
    obtain ⟨b, inside, rfl⟩ := List.mem_map.mp member
    rw [Bytes.toNat_ofNat_byte]
    exact UInt8.le_iff_toNat_le.mp (shown b inside).1
  · rename_i hidden
    split
    · rename_i b
      refine ⟨.byte, BinaryByte.toText b, rfl, ?_, BinaryByte.visible_toText b⟩
      simp only [ResourceKind.encode, BinaryByte.parse, BinaryByte.ofText?_toText, Except.map]
    · exact ⟨.ushort, _, rfl, ResourceKind.encode_decimal (fun _ => rfl) rfl rfl,
        visible_decimal _⟩
    · exact ⟨.uint, _, rfl, ResourceKind.encode_decimal (fun _ => rfl) rfl rfl,
        visible_decimal _⟩
    · exact ⟨.ulong, _, rfl, ResourceKind.encode_decimal (fun _ => rfl) rfl rfl,
        visible_decimal _⟩
    · rename_i notOne notTwo notFour notEight
      have sized := possible.resolve_left fun shown => hidden (all_isShown_iff.mpr shown)
      simp only [List.mem_cons, List.not_mem_nil, or_false] at sized
      exfalso
      rcases sized with one | two | four | eight
      · obtain ⟨_, rfl⟩ := exists_ofFn one
        exact notOne _ rfl
      · obtain ⟨_, rfl⟩ := exists_ofFn two
        exact notTwo _ _ rfl
      · obtain ⟨_, rfl⟩ := exists_ofFn four
        exact notFour _ _ _ _ rfl
      · obtain ⟨_, rfl⟩ := exists_ofFn eight
        exact notEight _ _ _ _ _ _ _ _ rfl

theorem entry_of_not_hasEntry {blob : Bytes} (impossible : ¬ HasEntry blob) :
    ∃ rest, entry blob = "//".toList ++ rest ∧ Text.Visible rest := by
  rw [HasEntry, not_or, ← all_isShown_iff] at impossible
  obtain ⟨hidden, unsized⟩ := impossible
  unfold entry
  rw [if_neg hidden]
  split
  case h_5 =>
    refine ⟨" raw:".toList ++ blob.flatMap fun b => ' ' :: Text.hexByte b, rfl, ?_⟩
    refine (by decide : Text.Visible " raw:".toList).append ?_
    intro c member
    obtain ⟨b, _, inside⟩ := List.mem_flatMap.mp member
    exact ((by decide : Text.Visible [' ']).append (visible_hexByte b)) c inside
  all_goals simp at unsized

/-- A row of visible characters after a tab is one line. -/
theorem row_of_visible {body : Text} (visible : Text.Visible body) :
    '\n' ∉ '\t' :: body ∧ Text.dropReturn ('\t' :: body) = '\t' :: body := by
  have absent {mark : Char} (control : mark.toNat < 0x20) (other : mark ≠ '\t') :
      mark ∉ '\t' :: body := by
    intro member
    rcases List.mem_cons.mp member with same | inside
    · exact other same
    · exact Nat.not_lt.mpr (visible mark inside) control
  exact ⟨absent (by decide) (by decide),
    Text.dropReturn_of_not_mem (absent (by decide) (by decide))⟩

/-- Inside of blocks too, a line that starts with the comment mark says nothing. -/
theorem accepts_indented_comment {rest : Text} (visible : Text.Visible rest) :
    AcceptsText {} true (line ('\t' :: ("//".toList ++ rest))) [] true := by
  obtain ⟨oneLine, kept⟩ := row_of_visible ((by decide : Text.Visible "//".toList).append visible)
  apply AcceptsText.row oneLine
  rw [kept]
  apply Accepts.silent
  have start : Text.trimStart ('\t' :: ("//".toList ++ rest)) = "//".toList ++ rest := by
    rw [Text.trimStart_blank_cons (by decide), Text.trimStart_of_head (by simp; decide)]
  simp only [Statement.on?, Statement.inside?, start]
  rfl

theorem parse_entry {kind : ResourceKind} {value : Text} {blob : Bytes}
    (encoded : kind.encode value = .ok blob) :
    Resource.parse false (kind.word ++ ':' :: value) = .ok blob := by
  have cut : Text.cutAt? (· == ':') (kind.word ++ ':' :: value) = some (kind.word, value) :=
    Text.cutAt?_mark_append kind.colon_not_mem_word value
  simp only [Resource.parse, cut, kind.ofWord?_word, Bool.false_and, Bool.false_eq_true, if_false,
    encoded]
  rfl

/-- A line that starts with none of the characters that start a comment or a closer is an entry. -/
theorem inside?_entry {first : Char} (solid : Text.isBlank first = false) (noMark : first ≠ '/')
    (notEnd : first.toUpper ≠ 'E') (rest : Text) :
    Statement.inside? {} ('\t' :: first :: rest) = some (.entry (first :: rest)) := by
  have start : Text.trimStart ('\t' :: first :: rest) = first :: rest := by
    rw [Text.trimStart_blank_cons (by decide), Text.trimStart_of_head (by simpa using solid)]
  have noComment : Statement.isComment "//".toList (first :: rest) = false := by
    have different : ('/' == first) = false := beq_false_of_ne noMark.symm
    simp [Statement.isComment, List.isPrefixOf, different]
  have notCloser : Statement.closesBlock (first :: rest) = false := by
    obtain ⟨body, trimmed⟩ := Text.trim_cons_of_not_blank solid rest
    rw [Statement.closesBlock, trimmed, decide_eq_false_iff_not]
    intro closes
    exact notEnd (List.cons.inj closes).1
  simp only [Statement.inside?, start, noComment, notCloser, List.isEmpty_cons, Bool.or_false,
    Bool.false_eq_true, if_false]

theorem accepts_entry {kind : ResourceKind} {value : Text} {blob : Bytes}
    (encoded : kind.encode value = .ok blob) (visible : Text.Visible value) :
    AcceptsText {} true (line ('\t' :: (kind.word ++ ':' :: value))) [.store blob] true := by
  have shown : Text.Visible (kind.word ++ ':' :: value) :=
    kind.visible_word.append ((by decide : Text.Visible [':']).append visible)
  have found : Statement.on? {} true ('\t' :: (kind.word ++ ':' :: value)) =
      some (.entry (kind.word ++ ':' :: value)) := by
    obtain ⟨first, letters, spelled, solid, noMark, notEnd⟩ := kind.word_eq_cons
    rw [spelled]
    exact inside?_entry solid noMark notEnd (letters ++ ':' :: value)
  obtain ⟨oneLine, kept⟩ := row_of_visible shown
  apply AcceptsText.row oneLine
  rw [kept]
  refine Accepts.statement found ?_ (by simp)
  simp only [Statement.meaning, parse_entry encoded]
  rfl

/-- A resource is listed as the entry that stores it, if there is one, and else without effect. -/
theorem accepts_resource (blob : Bytes) (id : Nat) :
    AcceptsText {} true (resource blob id) (if HasEntry blob then [.store blob] else []) true := by
  have number : AcceptsText {} true (line ("\t// #".toList ++ Text.decimal id)) [] true := by
    exact accepts_indented_comment
      ((by decide : Text.Visible " #".toList).append (visible_decimal id))
  by_cases possible : HasEntry blob
  · obtain ⟨kind, value, spelled, encoded, visible⟩ := entry_of_hasEntry possible
    rw [if_pos possible, resource, spelled]
    exact number.append (accepts_entry encoded visible)
  · obtain ⟨rest, spelled, visible⟩ := entry_of_not_hasEntry possible
    rw [if_neg possible, resource, spelled]
    exact number.append (accepts_indented_comment visible)

theorem accepts_entries (blobs : List Bytes) (first : Nat) :
    AcceptsText {} true ((blobs.zipIdx first).flatMap fun (blob, id) => resource blob id)
      ((blobs.filter (HasEntry ·)).map .store) true := by
  induction blobs generalizing first with
  | nil => exact AcceptsText.nil
  | cons blob blobs ih =>
    have both := (accepts_resource blob first).append (ih (first + 1))
    rw [List.zipIdx_cons, List.flatMap_cons, List.filter_cons]
    by_cases possible : HasEntry blob
    · simpa [possible] using both
    · simpa [possible] using both

def blockEffects (blobs : List Bytes) : List Effect :=
  if blobs = [] then []
  else .openBlock :: (blobs.filter (HasEntry ·)).map .store ++ [.closeBlock]

theorem accepts_resources (blobs : List Bytes) :
    AcceptsText {} false (resources blobs) (blockEffects blobs) false := by
  unfold resources blockEffects
  cases blobs with
  | nil => exact AcceptsText.nil
  | cons blob blobs =>
    have opens : AcceptsText {} false (line "RESOURCES".toList) [.openBlock] true :=
      AcceptsText.row (by decide) (Accepts.opener (by decide))
    have closes : AcceptsText {} true (line "END".toList) [.closeBlock] false :=
      AcceptsText.row (by decide) (Accepts.closer (by decide))
    exact (opens.append (accepts_entries (blob :: blobs) 0)).append closes

end Listing
end Assembler
