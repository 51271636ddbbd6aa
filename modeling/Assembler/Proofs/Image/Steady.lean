import Assembler.Proofs.Image.Reading

/-! Readers of an image that goes on behind its end. What a reader accepts it accepts whatever
follows, and an error for want of bytes is the only one that depends on where the image ends, but
for a signature that is cut short. This holds of each small reader and is kept when readers follow
one another. -/
namespace Assembler.Image

/-- Errors that no bytes behind the image can mend. -/
def ReadError.Lasting (image : Bytes) : ReadError → Prop
  | badSignature mark offset => ¬ image.drop offset <+: textBytes mark
  | truncated _ _ => False
  | unknownCode _ _ | operandCount _ _ _ => True

/-- What becomes of the outcome of reading an image when `tail` is put behind the image. An error
for want of bytes wants fewer of them, or else reading gets past the place of the error. -/
structure Persists {β : Type} (image tail : Bytes) (before after : Except ReadError β) : Prop where
  lasting : ∀ error, before = .error error → error.Lasting image → after = .error error
  shorter : ∀ needed offset, before = .error (.truncated needed offset) → tail.length < needed →
    after = .error (.truncated (needed - tail.length) offset)
  later : ∀ needed offset, before = .error (.truncated needed offset) → needed ≤ tail.length →
    ∀ needed' offset', after = .error (.truncated needed' offset') → offset < offset'

theorem Persists.of_ok {β : Type} {image tail : Bytes} {value : β} {after : Except ReadError β} :
    Persists image tail (.ok value) after := by
  refine ⟨?_, ?_, ?_⟩
  · rintro _ ⟨⟩
  · rintro _ _ ⟨⟩
  · rintro _ _ ⟨⟩

theorem map_eq_ok_iff {ε α β : Type} {outcome : Except ε α} {f : α → β} {value : β} :
    outcome.map f = .ok value ↔ ∃ x, outcome = .ok x ∧ f x = value := by
  cases outcome <;> simp [Except.map]

theorem map_eq_error_iff {ε α β : Type} {outcome : Except ε α} {f : α → β} {error : ε} :
    outcome.map f = .error error ↔ outcome = .error error := by
  cases outcome <;> simp [Except.map]

theorem Persists.map {α β : Type} {image tail : Bytes} {before after : Except ReadError α}
    (persists : Persists image tail before after) (f : α → β) :
    Persists image tail (before.map f) (after.map f) := by
  obtain ⟨lasting, shorter, later⟩ := persists
  constructor <;> simp only [map_eq_error_iff] <;> assumption

namespace Access

variable {ε π : Type} (access : Access ε π)

/-- A signature as a reader like the others: it gives nothing but the place behind it. -/
def signed (mark : Text) (place : π) : Except ε (Unit × π) :=
  (access.signature place mark).map ((), ·)

theorem signed_bind {β : Type} (place : π) (mark : Text) (f : Unit × π → Except ε β) :
    access.signed mark place >>= f = access.signature place mark >>= fun next => f ((), next) := by
  rw [signed]
  cases access.signature place mark <;> rfl

end Access

namespace Cursor

/-- The same place in an image with `tail` behind it. -/
def extend (cursor : Cursor) (tail : Bytes) : Cursor :=
  ⟨cursor.rest ++ tail, cursor.offset⟩

@[simp] theorem rest_extend (cursor : Cursor) (tail : Bytes) :
    (cursor.extend tail).rest = cursor.rest ++ tail := rfl

@[simp] theorem offset_extend (cursor : Cursor) (tail : Bytes) :
    (cursor.extend tail).offset = cursor.offset := rfl

theorem Passes.offset_le {cursor next : Cursor} {bytes : Bytes}
    (passes : Passes cursor bytes next) :
    cursor.offset ≤ next.offset := by
  have offset := passes.offset
  omega

theorem Passes.drop {cursor next : Cursor} {bytes image : Bytes} (passes : Passes cursor bytes next)
    (place : cursor.rest = image.drop cursor.offset) : next.rest = image.drop next.offset := by
  rw [passes.offset, ← List.drop_drop, ← place, passes.rest, List.drop_left]

/-- Bytes are missed at the cursor or further on, never before it. -/
def Forward {β : Type} (reader : Cursor → Except ReadError β) : Prop :=
  ∀ cursor needed offset, reader cursor = .error (.truncated needed offset) → cursor.offset ≤ offset

/-- A reader that takes bytes from the front and looks at no others. -/
structure Steady {α : Type} (reader : Cursor → Except ReadError (α × Cursor)) : Prop where
  forward : Forward reader
  reads : ∀ cursor value next, reader cursor = .ok (value, next) →
    ∃ bytes, Passes cursor bytes next
      ∧ ∀ rest, reader ⟨bytes ++ rest, cursor.offset⟩ = .ok (value, ⟨rest, next.offset⟩)
  persists : ∀ image tail cursor, cursor.rest = image.drop cursor.offset →
    Persists image tail (reader cursor) (reader (cursor.extend tail))
  gains : ∀ tail cursor needed offset, reader cursor = .error (.truncated needed offset) →
    ∀ value next, reader (cursor.extend tail) = .ok (value, next) → offset < next.offset

namespace Steady

variable {α β : Type} {reader : Cursor → Except ReadError (α × Cursor)}

theorem extended (steady : Steady reader) {cursor next : Cursor} {value : α}
    (read : reader cursor = .ok (value, next)) (tail : Bytes) :
    reader (cursor.extend tail) = .ok (value, next.extend tail) := by
  obtain ⟨bytes, passes, again⟩ := steady.reads cursor value next read
  rw [extend, passes.rest, List.append_assoc]
  exact again (next.rest ++ tail)

theorem persists_bind (steady : Steady reader) {f : α × Cursor → Except ReadError β}
    (forward : ∀ value, Forward fun next => f (value, next)) {image : Bytes} {cursor : Cursor}
    (place : cursor.rest = image.drop cursor.offset) {tail : Bytes}
    (continues : ∀ value next, reader cursor = .ok (value, next) →
      next.rest = image.drop next.offset →
      Persists image tail (f (value, next)) (f (value, next.extend tail))) :
    Persists image tail (reader cursor >>= f) (reader (cursor.extend tail) >>= f) := by
  cases read : reader cursor with
  | ok pair =>
    obtain ⟨value, next⟩ := pair
    obtain ⟨bytes, passes, -⟩ := steady.reads cursor value next read
    rw [steady.extended read]
    exact continues value next read (passes.drop place)
  | error error =>
    have persists := steady.persists image tail cursor place
    rw [read] at persists
    refine ⟨?_, ?_, ?_⟩
    · rintro _ ⟨⟩ lasting
      rw [persists.lasting error rfl lasting]
      rfl
    · rintro needed offset ⟨⟩ short
      rw [persists.shorter needed offset rfl short]
      rfl
    · rintro needed offset ⟨⟩ enough needed' offset' failed
      cases again : reader (cursor.extend tail) with
      | ok pair =>
        obtain ⟨value, next⟩ := pair
        rw [again] at failed
        have gained := steady.gains tail cursor needed offset read value next again
        have behind := forward value next needed' offset' failed
        omega
      | error found =>
        rw [again] at failed
        cases failed
        exact persists.later needed offset rfl enough needed' offset' again

theorem forward_bind (steady : Steady reader) {f : α × Cursor → Except ReadError β}
    (forward : ∀ value, Forward fun next => f (value, next)) :
    Forward fun cursor => reader cursor >>= f := by
  intro cursor needed offset failed
  dsimp only at failed
  cases read : reader cursor with
  | ok pair =>
    obtain ⟨value, next⟩ := pair
    obtain ⟨bytes, passes, -⟩ := steady.reads cursor value next read
    rw [read] at failed
    exact Nat.le_trans passes.offset_le (forward value next needed offset failed)
  | error error =>
    rw [read] at failed
    cases failed
    exact steady.forward cursor needed offset read

theorem bind (steady : Steady reader) {f : α × Cursor → Except ReadError (β × Cursor)}
    (then_ : ∀ value, Steady fun next => f (value, next)) :
    Steady fun cursor => reader cursor >>= f where
  forward := steady.forward_bind fun value => (then_ value).forward
  reads := by
    intro cursor value next read
    obtain ⟨⟨middle, between⟩, first, second⟩ := bind_eq_ok_iff.mp read
    obtain ⟨front, passes, again⟩ := steady.reads cursor middle between first
    obtain ⟨back, passes', again'⟩ := (then_ middle).reads between value next second
    refine ⟨front ++ back, Passes.append_iff.mpr ⟨between, passes, passes'⟩, fun rest => ?_⟩
    rw [List.append_assoc]
    exact bind_eq_ok_iff.mpr ⟨_, again (back ++ rest), again' rest⟩
  persists := by
    intro image tail cursor place
    exact steady.persists_bind (fun value => (then_ value).forward) place
      fun value next _ place => (then_ value).persists image tail next place
  gains := by
    intro tail cursor needed offset failed value next read
    obtain ⟨⟨middle, between⟩, first, second⟩ := bind_eq_ok_iff.mp read
    cases early : reader cursor with
    | ok pair =>
      obtain ⟨same, before⟩ := pair
      rw [early] at failed
      rw [steady.extended early tail] at first
      cases first
      exact (then_ middle).gains tail before needed offset failed value next second
    | error error =>
      rw [early] at failed
      cases failed
      obtain ⟨bytes, passes, -⟩ := (then_ middle).reads between value next second
      have gained := steady.gains tail cursor needed offset early middle between first
      exact Nat.lt_of_lt_of_le gained passes.offset_le

theorem pure (value : α) : Steady fun cursor => .ok (value, cursor) where
  forward := by
    rintro _ _ _ ⟨⟩
  reads := by
    rintro cursor _ _ ⟨⟩
    exact ⟨[], Passes.nil_iff.mpr rfl, fun _ => rfl⟩
  persists _ _ _ _ := .of_ok
  gains := by
    rintro _ _ _ _ ⟨⟩

/-- A reader that has found an error which the rest of the image does not matter to. -/
theorem fail {error : ReadError} (lasting : ∀ image, error.Lasting image) :
    Steady fun _ => (.error error : Except ReadError (α × Cursor)) where
  forward := by
    rintro _ _ _ ⟨⟩
    exact (lasting []).elim
  reads := nofun
  persists := by
    intro image tail cursor _
    refine ⟨fun _ same _ => same, ?_, ?_⟩
    · rintro _ _ ⟨⟩
      exact (lasting []).elim
    · rintro _ _ ⟨⟩
      exact (lasting []).elim
  gains := by
    rintro _ _ _ _ _ _ _ ⟨⟩

end Steady

theorem take_eq_error_iff {cursor : Cursor} {n : Nat} {error : ReadError} :
    cursor.take n = .error error ↔
      cursor.rest.length < n ∧ error = .truncated (n - cursor.rest.length) cursor.offset := by
  simp only [take]
  constructor
  · intro failed
    split at failed
    · cases failed
    · rename_i short
      cases failed
      rw [List.length_take] at short ⊢
      have less : cursor.rest.length < n := by omega
      refine ⟨less, ?_⟩
      rw [Nat.min_eq_right (Nat.le_of_lt less)]
  · rintro ⟨short, rfl⟩
    rw [List.take_of_length_le (Nat.le_of_lt short), if_neg (Nat.ne_of_lt short)]

theorem Steady.take (n : Nat) : Steady fun cursor => cursor.take n where
  forward := by
    intro cursor needed offset failed
    obtain ⟨-, same⟩ := take_eq_error_iff.mp failed
    cases same
    exact Nat.le_refl _
  reads := by
    intro cursor bytes next taken
    obtain ⟨length, passes⟩ := take_eq_ok_iff.mp taken
    exact ⟨bytes, passes, fun rest => take_eq_ok_iff.mpr ⟨length, rfl, passes.offset⟩⟩
  persists := by
    intro image tail cursor _
    refine ⟨?_, ?_, ?_⟩
    · intro error failed lasting
      obtain ⟨-, rfl⟩ := take_eq_error_iff.mp failed
      exact lasting.elim
    · intro needed offset failed short
      obtain ⟨less, same⟩ := take_eq_error_iff.mp failed
      cases same
      rw [take_eq_error_iff, rest_extend, List.length_append]
      exact ⟨by omega, by rw [Nat.sub_sub, offset_extend]⟩
    · intro needed offset failed enough needed' offset' again
      obtain ⟨less, same⟩ := take_eq_error_iff.mp failed
      obtain ⟨less', -⟩ := take_eq_error_iff.mp again
      cases same
      rw [rest_extend, List.length_append] at less'
      omega
  gains := by
    intro tail cursor needed offset failed bytes next taken
    obtain ⟨less, same⟩ := take_eq_error_iff.mp failed
    obtain ⟨length, passes⟩ := take_eq_ok_iff.mp taken
    have moved := passes.offset
    cases same
    rw [offset_extend] at moved
    omega

theorem signature_eq_error_iff {cursor : Cursor} {mark : Text} {error : ReadError} :
    cursor.signature mark = .error error ↔
      ¬ textBytes mark <+: cursor.rest ∧ error = .badSignature mark cursor.offset := by
  have found : cursor.rest.take mark.length = textBytes mark ↔ textBytes mark <+: cursor.rest := by
    rw [List.prefix_iff_eq_take, length_textBytes, eq_comm]
  simp only [signature, found]
  constructor
  · intro failed
    split at failed
    · cases failed
    · rename_i absent
      cases failed
      exact ⟨absent, rfl⟩
  · rintro ⟨absent, rfl⟩
    rw [if_neg absent]

theorem signed_eq_ok_iff {cursor next : Cursor} {mark : Text} :
    access.signed mark cursor = .ok ((), next) ↔ Passes cursor (textBytes mark) next := by
  rw [← signature_eq_ok_iff, Access.signed, access_signature]
  cases cursor.signature mark <;> simp [Except.map]

theorem Steady.signed (mark : Text) : Steady (access.signed mark) where
  forward := by
    intro cursor needed offset failed
    obtain ⟨-, same⟩ := signature_eq_error_iff.mp (map_eq_error_iff.mp failed)
    cases same
  reads := by
    intro cursor _ next found
    have passes := signed_eq_ok_iff.mp found
    exact ⟨textBytes mark, passes, fun rest => signed_eq_ok_iff.mpr ⟨rfl, passes.offset⟩⟩
  persists := by
    intro image tail cursor place
    refine ⟨?_, ?_, ?_⟩
    · intro error failed lasting
      obtain ⟨absent, rfl⟩ := signature_eq_error_iff.mp (map_eq_error_iff.mp failed)
      refine map_eq_error_iff.mpr (signature_eq_error_iff.mpr ⟨?_, rfl⟩)
      intro present
      have partial_ : ¬ cursor.rest <+: textBytes mark := place ▸ lasting
      rcases List.prefix_or_prefix_of_prefix present (List.prefix_append cursor.rest tail) with
        whole | cut
      · exact absent whole
      · exact partial_ cut
    · intro needed offset failed
      obtain ⟨-, same⟩ := signature_eq_error_iff.mp (map_eq_error_iff.mp failed)
      cases same
    · intro needed offset failed
      obtain ⟨-, same⟩ := signature_eq_error_iff.mp (map_eq_error_iff.mp failed)
      cases same
  gains := by
    intro tail cursor needed offset failed
    obtain ⟨-, same⟩ := signature_eq_error_iff.mp (map_eq_error_iff.mp failed)
    cases same

/-- Readers that are put together from reads of a number of bytes, with or without signatures. -/
inductive Composed (signs : Bool) :
    {α : Type} → (Cursor → Except ReadError (α × Cursor)) → Prop where
  | take (n : Nat) : Composed signs fun cursor => cursor.take n
  | signed (mark : Text) (allowed : signs = true) : Composed signs (access.signed mark)
  | pure {α : Type} (value : α) : Composed signs fun cursor => .ok (value, cursor)
  | fail {α : Type} {error : ReadError} (lasting : ∀ image, error.Lasting image) :
    Composed signs fun _ => (.error error : Except ReadError (α × Cursor))
  | bind {α β : Type} {reader : Cursor → Except ReadError (α × Cursor)}
    {f : α × Cursor → Except ReadError (β × Cursor)} (first : Composed signs reader)
    (second : ∀ value, Composed signs fun next => f (value, next)) :
    Composed signs fun cursor => reader cursor >>= f

namespace Composed

variable {signs : Bool} {α : Type} {reader : Cursor → Except ReadError (α × Cursor)}

theorem steady (composed : Composed signs reader) : Steady reader := by
  induction composed with
  | take n => exact .take n
  | signed mark => exact .signed mark
  | pure value => exact .pure value
  | fail lasting => exact .fail lasting
  | bind _ _ first second => exact first.bind second

theorem ne_badSignature (composed : Composed false reader) (cursor : Cursor) (mark : Text)
    (offset : Nat) : reader cursor ≠ .error (.badSignature mark offset) := by
  intro failed
  induction composed generalizing cursor with
  | take n =>
    obtain ⟨-, other⟩ := take_eq_error_iff.mp failed
    cases other
  | signed mark allowed => cases allowed
  | pure value => cases failed
  | fail lasting =>
    cases failed
    exact lasting [] (by simp)
  | bind _ _ first second =>
    rename_i reader f _ _
    dsimp only at failed
    cases read : reader cursor with
    | ok pair =>
      rw [read] at failed
      exact second pair.1 pair.2 failed
    | error error =>
      rw [read] at failed
      cases failed
      exact first cursor read

theorem number (width : Nat) : Composed signs fun cursor => access.number cursor width :=
  (take width).bind fun bytes => pure (Bytes.toNat bytes)

theorem text (size : Nat) : Composed signs fun cursor => access.text cursor size :=
  (take size).bind fun bytes => pure (Bytes.toText bytes)

theorem sizedText (width : Nat) : Composed signs fun cursor => access.sizedText cursor width :=
  (number width).bind text

theorem resources (count : Nat) (done : List Bytes) :
    Composed signs fun cursor => access.resources count cursor done := by
  induction count generalizing done with
  | zero => exact pure done.reverse
  | succ count ih =>
    exact (number 2).bind fun size => (take size).bind fun blob => ih (blob :: done)

end Composed
end Cursor
end Assembler.Image
