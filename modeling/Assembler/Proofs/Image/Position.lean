import Assembler.Proofs.Image.Extension

/-! Reading by position. A reader that keeps the whole image and the place where it stands has to
subtract and to slice, and either can go out of range. With every access checked it gives what the
reader over the rest of the image gives, so no access does; and what it reports is told from the
bytes at that place. -/
namespace Assembler.Image

/-- Why reading by position ends early: an error of the image, or an access beyond its ends. -/
inductive Halt where
  | reported (error : ReadError)
  | outOfRange
  deriving DecidableEq

structure Reader where
  image : Bytes
  position : Nat

namespace Reader

/-- The difference of two numbers of which the first must not be the smaller one. -/
def difference (large small : Nat) : Except Halt Nat :=
  if small ≤ large then .ok (large - small) else .error .outOfRange

def slice (image : Bytes) (start stop : Nat) : Except Halt Bytes :=
  if start ≤ stop ∧ stop ≤ image.length then .ok ((image.take stop).drop start)
  else .error .outOfRange

def take (reader : Reader) (n : Nat) : Except Halt (Bytes × Reader) := do
  let left ← difference reader.image.length reader.position
  if left < n then
    let needed ← difference n left
    .error (.reported (.truncated needed reader.position))
  else
    let bytes ← slice reader.image reader.position (reader.position + n)
    return (bytes, { reader with position := reader.position + n })

/-- A signature that is cut short is a bad one too. -/
def signature (reader : Reader) (mark : Text) : Except Halt Reader :=
  match reader.take mark.length with
  | .ok (found, next) =>
    if found = textBytes mark then .ok next
    else .error (.reported (.badSignature mark reader.position))
  | .error (.reported _) => .error (.reported (.badSignature mark reader.position))
  | .error .outOfRange => .error .outOfRange

theorem left_of_take {reader next : Reader} {n : Nat} {bytes : Bytes}
    (taken : reader.take n = .ok (bytes, next)) :
    next.image.length - next.position + n = reader.image.length - reader.position := by
  obtain ⟨left, counted, taken⟩ := bind_eq_ok_iff.mp taken
  have same : reader.image.length - reader.position = left := by
    unfold difference at counted
    split at counted <;> cases counted
    rfl
  split at taken
  · obtain ⟨needed, -, failed⟩ := bind_eq_ok_iff.mp taken
    cases failed
  · obtain ⟨_, -, moved⟩ := bind_eq_ok_iff.mp taken
    cases moved
    dsimp only
    omega

def access : Access Halt Reader where
  take := take
  signature := signature
  atEnd reader := reader.image.length ≤ reader.position
  offset := position
  report := .reported
  left reader := reader.image.length - reader.position
  left_of_take := left_of_take

def read (slot : VersionSlot) (image : Bytes) : Except Halt Program :=
  access.read slot ⟨image, 0⟩

end Reader

/-- What an error says of an image. Errors in an instruction are reported where it starts, at an
offset of which `clean` tells that all is well in front of it. -/
def ReadError.Exact (image : Bytes) (clean : Nat → Prop) : ReadError → Prop
  | badSignature mark offset => offset ≤ image.length ∧ ¬ textBytes mark <+: image.drop offset
  | unknownCode code offset =>
    image[offset]? = some code ∧ (∀ opcode : Opcode, opcode.code ≠ code) ∧ clean offset
  | operandCount opcode found offset =>
    image[offset]? = some opcode.code ∧ offset + 3 ≤ image.length
      ∧ found = Bytes.toNat ((image.drop (offset + 1)).take 2)
      ∧ found ≠ opcode.operands.length ∧ clean offset
  | truncated needed offset => offset ≤ image.length ∧ 0 < needed

theorem ReadError.Exact.mono {image : Bytes} {clean clean' : Nat → Prop} {error : ReadError}
    (told : error.Exact image clean) (weaker : ∀ offset, clean offset → clean' offset) :
    error.Exact image clean' := by
  cases error with
  | badSignature | truncated => exact told
  | unknownCode code offset =>
    obtain ⟨here, none, front⟩ := told
    exact ⟨here, none, weaker offset front⟩
  | operandCount opcode found offset =>
    obtain ⟨here, room, declared, other, front⟩ := told
    exact ⟨here, room, declared, other, weaker offset front⟩

/-- The outcomes of both readers: related results, or the same error with `P`. -/
inductive Agrees {α β : Type} (R : α → β → Prop) (P : ReadError → Prop) :
    Except Halt α → Except ReadError β → Prop where
  | ok {x : α} {y : β} (related : R x y) : Agrees R P (.ok x) (.ok y)
  | error {error : ReadError} (holds : P error) :
      Agrees R P (.error (.reported error)) (.error error)

namespace Agrees

variable {α β γ δ : Type} {R : α → β → Prop} {S : γ → δ → Prop} {P Q : ReadError → Prop}

theorem bind {checked : Except Halt α} {plain : Except ReadError β} {f : α → Except Halt γ}
    {g : β → Except ReadError δ} (first : Agrees R P checked plain)
    (second : ∀ x y, R x y → Agrees S P (f x) (g y)) :
    Agrees S P (checked >>= f) (plain >>= g) := by
  cases first with
  | ok related => exact second _ _ related
  | error holds => exact .error holds

theorem mono {checked : Except Halt α} {plain : Except ReadError β} {R' : α → β → Prop}
    (agrees : Agrees R P checked plain) (looser : ∀ x y, R x y → R' x y)
    (weaker : ∀ error, P error → Q error) : Agrees R' Q checked plain := by
  cases agrees with
  | ok related => exact .ok (looser _ _ related)
  | error holds => exact .error (weaker _ holds)

theorem map {checked : Except Halt α} {plain : Except ReadError α}
    (agrees : Agrees Eq P checked plain) (f : α → β) :
    Agrees Eq P (checked.map f) (plain.map f) := by
  cases agrees with
  | ok same => exact .ok (congrArg f same)
  | error holds => exact .error holds

theorem eq_mapError {checked : Except Halt α} {plain : Except ReadError α}
    (agrees : Agrees Eq P checked plain) : checked = plain.mapError .reported := by
  cases agrees with
  | ok same => exact congrArg _ same
  | error holds => rfl

theorem of_error {checked : Except Halt α} {plain : Except ReadError β} {error : ReadError}
    (agrees : Agrees R P checked plain) (failed : plain = .error error) : P error := by
  cases agrees with
  | ok related => cases failed
  | error holds =>
    cases failed
    exact holds

end Agrees

/-- Both readers have given a value and stand at a place in the image. -/
inductive Standing (image : Bytes) {α : Type} (value : α) (place : Nat) :
    α × Reader → α × Cursor → Prop where
  | mk (inRange : place ≤ image.length) :
    Standing image value place (value, ⟨image, place⟩) (value, ⟨image.drop place, place⟩)

def SamePlace (image : Bytes) {α : Type} (left : α × Reader) (right : α × Cursor) : Prop :=
  ∃ value place, Standing image value place left right

/-- Two readers that go together from every place in an image. -/
def Mirrors {α : Type} (image : Bytes) (P : ReadError → Prop)
    (checked : Reader → Except Halt (α × Reader))
    (plain : Cursor → Except ReadError (α × Cursor)) : Prop :=
  ∀ place ≤ image.length,
    Agrees (SamePlace image) P (checked ⟨image, place⟩) (plain ⟨image.drop place, place⟩)

namespace Mirrors

variable {α β : Type} {image : Bytes} {P : ReadError → Prop}

theorem bind {checked : Reader → Except Halt (α × Reader)}
    {plain : Cursor → Except ReadError (α × Cursor)} {f : α × Reader → Except Halt (β × Reader)}
    {g : α × Cursor → Except ReadError (β × Cursor)} (first : Mirrors image P checked plain)
    (second :
      ∀ value, Mirrors image P (fun reader => f (value, reader)) fun cursor => g (value, cursor)) :
    Mirrors image P (fun reader => checked reader >>= f) fun cursor => plain cursor >>= g := by
  intro place inRange
  refine (first place inRange).bind ?_
  rintro _ _ ⟨value, next, ⟨inRange⟩⟩
  exact second value next inRange

theorem pure (value : α) :
    Mirrors image P (fun reader => .ok (value, reader)) fun cursor => .ok (value, cursor) :=
  fun place inRange => .ok ⟨value, place, ⟨inRange⟩⟩

end Mirrors

namespace Reader

variable {image : Bytes} {clean : Nat → Prop}

/-- The subtraction and the slice of a read that the image has room for. -/
theorem take_of_le {place n : Nat} (room : place + n ≤ image.length) :
    take ⟨image, place⟩ n = .ok ((image.drop place).take n, ⟨image, place + n⟩) := by
  have left : difference image.length place = .ok (image.length - place) := if_pos (by omega)
  have cut : slice image place (place + n) = .ok ((image.drop place).take n) := by
    rw [slice, if_pos ⟨Nat.le_add_right place n, room⟩, List.drop_take, Nat.add_sub_cancel_left]
  have enough : ¬ image.length - place < n := by omega
  simp only [take, left, bind, Except.bind, if_neg enough, cut]
  rfl

theorem take_of_lt {place n : Nat} (inRange : place ≤ image.length)
    (short : image.length < place + n) :
    take ⟨image, place⟩ n =
      .error (.reported (.truncated (n - (image.length - place)) place)) := by
  have left : difference image.length place = .ok (image.length - place) := if_pos inRange
  have less : image.length - place < n := by omega
  have needed : difference n (image.length - place) = .ok (n - (image.length - place)) :=
    if_pos (Nat.le_of_lt less)
  simp only [take, left, bind, Except.bind, if_pos less, needed]

theorem agrees_take {place : Nat} (inRange : place ≤ image.length) (n : Nat) :
    Agrees (Standing image ((image.drop place).take n) (place + n)) (·.Exact image clean)
      (take ⟨image, place⟩ n) (Cursor.take ⟨image.drop place, place⟩ n) := by
  by_cases room : place + n ≤ image.length
  · have length : ((image.drop place).take n).length = n := by
      rw [List.length_take, List.length_drop]
      omega
    have taken : Cursor.take ⟨image.drop place, place⟩ n =
        .ok ((image.drop place).take n, ⟨image.drop (place + n), place + n⟩) := by
      simp only [Cursor.take, if_pos length, Cursor.skip, List.drop_drop]
    rw [take_of_le room, taken]
    exact .ok ⟨room⟩
  · have short : (image.drop place).length < n := by
      rw [List.length_drop]
      omega
    have failed : Cursor.take ⟨image.drop place, place⟩ n =
        .error (.truncated (n - (image.length - place)) place) := by
      rw [Cursor.take_eq_error_iff, ← List.length_drop]
      exact ⟨short, rfl⟩
    rw [take_of_lt inRange (by omega), failed]
    exact .error ⟨inRange, by omega⟩

theorem agrees_number {place : Nat} (inRange : place ≤ image.length) (width : Nat) :
    Agrees (Standing image (Bytes.toNat ((image.drop place).take width)) (place + width))
      (·.Exact image clean) (access.number ⟨image, place⟩ width)
      (Cursor.access.number ⟨image.drop place, place⟩ width) := by
  refine (agrees_take inRange width).bind ?_
  rintro _ _ ⟨room⟩
  exact .ok ⟨room⟩

theorem mirrors_take (n : Nat) :
    Mirrors image (·.Exact image clean) (fun reader => reader.take n) fun cursor => cursor.take n :=
  fun _ inRange => (agrees_take inRange n).mono (fun _ _ standing => ⟨_, _, standing⟩)
    fun _ told => told

theorem mirrors_number (width : Nat) :
    Mirrors image (·.Exact image clean) (fun reader => access.number reader width)
      fun cursor => Cursor.access.number cursor width :=
  (mirrors_take width).bind fun bytes => .pure (Bytes.toNat bytes)

theorem mirrors_text (size : Nat) :
    Mirrors image (·.Exact image clean) (fun reader => access.text reader size)
      fun cursor => Cursor.access.text cursor size :=
  (mirrors_take size).bind fun bytes => .pure (Bytes.toText bytes)

theorem mirrors_sizedText (width : Nat) :
    Mirrors image (·.Exact image clean) (fun reader => access.sizedText reader width)
      fun cursor => Cursor.access.sizedText cursor width :=
  (mirrors_number width).bind mirrors_text

theorem mirrors_resources (count : Nat) (done : List Bytes) :
    Mirrors image (·.Exact image clean) (fun reader => access.resources count reader done)
      fun cursor => Cursor.access.resources count cursor done := by
  induction count generalizing done with
  | zero => exact .pure done.reverse
  | succ count ih =>
    exact (mirrors_number 2).bind fun size => (mirrors_take size).bind fun blob => ih (blob :: done)

theorem mirrors_readResources :
    Mirrors image (·.Exact image clean) access.readResources Cursor.access.readResources :=
  (mirrors_number 2).bind fun count => mirrors_resources count []

theorem signature_of_absent {place : Nat} {mark : Text} (inRange : place ≤ image.length)
    (absent : ¬ textBytes mark <+: image.drop place) :
    signature ⟨image, place⟩ mark = .error (.reported (.badSignature mark place)) := by
  by_cases room : place + mark.length ≤ image.length
  · have other : (image.drop place).take mark.length ≠ textBytes mark := by
      intro same
      exact absent (same ▸ List.take_prefix _ _)
    simp only [signature, take_of_le room, if_neg other]
  · simp only [signature, take_of_lt inRange (Nat.lt_of_not_le room)]

theorem signature_of_present {place : Nat} {mark : Text} (inRange : place ≤ image.length)
    (present : textBytes mark <+: image.drop place) :
    place + mark.length ≤ image.length
      ∧ signature ⟨image, place⟩ mark = .ok ⟨image, place + mark.length⟩ := by
  have length := present.length_le
  rw [length_textBytes, List.length_drop] at length
  have room : place + mark.length ≤ image.length := by omega
  have found : (image.drop place).take mark.length = textBytes mark := by
    rw [← length_textBytes mark]
    exact (List.prefix_iff_eq_take.mp present).symm
  refine ⟨room, ?_⟩
  simp only [signature, take_of_le room, if_pos found]

theorem mirrors_signed (mark : Text) :
    Mirrors image (·.Exact image clean) (access.signed mark) (Cursor.access.signed mark) := by
  intro place inRange
  by_cases present : textBytes mark <+: image.drop place
  · obtain ⟨room, found⟩ := signature_of_present inRange present
    have checked : access.signed mark ⟨image, place⟩ = .ok ((), ⟨image, place + mark.length⟩) :=
      map_eq_ok_iff.mpr ⟨_, found, rfl⟩
    have plain : Cursor.access.signed mark ⟨image.drop place, place⟩ =
        .ok ((), ⟨image.drop (place + mark.length), place + mark.length⟩) := by
      rw [Cursor.signed_eq_ok_iff]
      refine ⟨?_, by rw [length_textBytes]⟩
      rw [← List.drop_drop, ← length_textBytes mark]
      exact (List.prefix_iff_eq_append.mp present).symm
    rw [checked, plain]
    exact .ok ⟨(), _, ⟨room⟩⟩
  · have checked : access.signed mark ⟨image, place⟩ =
        .error (.reported (.badSignature mark place)) :=
      map_eq_error_iff.mpr (signature_of_absent inRange present)
    have plain : Cursor.access.signed mark ⟨image.drop place, place⟩ =
        .error (.badSignature mark place) :=
      map_eq_error_iff.mpr (Cursor.signature_eq_error_iff.mpr ⟨present, rfl⟩)
    rw [checked, plain]
    exact .error ⟨inRange, present⟩

theorem mirrors_readTexts (slot : VersionSlot) :
    Mirrors image (·.Exact image clean) (access.readTexts slot) (Cursor.access.readTexts slot) :=
  (mirrors_sizedText 1).bind fun title =>
    (mirrors_sizedText 1).bind fun author =>
      (mirrors_sizedText 2).bind fun description =>
        (mirrors_number 1).bind fun declared =>
          (mirrors_text (Preamble.slotSize ⟨title, author, description, declared⟩ slot)).bind
            fun version => (mirrors_sizedText 1).bind fun copyright =>
              .pure ({ title, author, version, description, copyright } : Program)

theorem mirrors_readHead (slot : VersionSlot) :
    Mirrors image (·.Exact image clean) (access.readHead slot) (Cursor.access.readHead slot) :=
  (mirrors_signed headerSignature).bind fun _ =>
    (mirrors_readTexts slot).bind fun program =>
      (mirrors_signed resourceSignature).bind fun _ =>
        mirrors_readResources.bind fun resources =>
          (mirrors_signed codeSignature).bind fun _ =>
            .pure ({ program with resources } : Program)

/-- An error in an instruction is exact, and if it is one of the head it is reported at the
start. -/
theorem agrees_instruction {place : Nat} (inRange : place ≤ image.length) :
    Agrees (SamePlace image) (·.Exact image (· = place)) (access.instruction ⟨image, place⟩)
      (Cursor.access.instruction ⟨image.drop place, place⟩) := by
  refine (agrees_take inRange 1).bind ?_
  rintro _ _ ⟨room⟩
  have here : image[place]? = some image[place] := List.getElem?_eq_getElem room
  have front : (image.drop place).take 1 = [image[place]] := by
    rw [List.drop_eq_getElem_cons room, List.take_succ_cons, List.take_zero]
  rw [front]
  dsimp only [List.headD_cons]
  cases known : Opcode.ofCode? image[place] with
  | none =>
    have unknown (opcode : Opcode) : opcode.code ≠ image[place] := by
      intro same
      rw [Opcode.ofCode?_eq_some_iff.mpr same.symm] at known
      cases known
    exact .error ⟨here, unknown, rfl⟩
  | some opcode =>
    have code : image[place]? = some opcode.code := by
      rw [here, Opcode.ofCode?_eq_some_iff.mp known]
    refine (agrees_number room 2).bind ?_
    rintro _ _ ⟨room'⟩
    dsimp only
    split
    · refine (agrees_take room' opcode.width).bind ?_
      rintro _ _ ⟨last⟩
      -- As many bytes as the operands take make an instruction, so the last check finds no fault.
      have width : ((image.drop (place + 1 + 2)).take opcode.width).length = opcode.width := by
        rw [List.length_take, List.length_drop]
        omega
      simp only [Instruction.ofBytes?, dif_pos width]
      exact .ok ⟨_, _, ⟨last⟩⟩
    · rename_i other
      exact .error ⟨code, room', rfl, other, rfl⟩

end Reader
end Assembler.Image
