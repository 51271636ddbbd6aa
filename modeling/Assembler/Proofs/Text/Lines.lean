import Assembler.Listing

/-! The lines of a text that is made of whole lines. A line feed ends a line wherever it stands, so
a row with line feeds in it is several lines. -/
namespace Assembler.Text

/-- The lines that a row and its line feed make. -/
def rowLines (row : Text) : List Text :=
  (row.splitOn '\n').map dropReturn

theorem lines_line_append (row back : Text) :
    lines (Listing.line row ++ back) = rowLines row ++ lines back := by
  have split : (Listing.line row ++ back).splitOn '\n' = row.splitOn '\n' ++ back.splitOn '\n' := by
    rw [Listing.line, List.append_assoc, List.singleton_append, List.splitOn_append_cons_self]
  have nonempty := List.splitOn_ne_nil '\n' back
  have last := List.getLast?_eq_some_getLast nonempty
  simp only [lines, split, rowLines]
  rw [List.dropLast_append_of_ne_nil nonempty, List.getLast?_append, last, Option.some_or,
    List.map_append]
  cases (List.splitOn '\n' back).getLast nonempty <;> simp

theorem rowLines_of_not_mem {row : Text} (oneLine : '\n' ∉ row) :
    rowLines row = [dropReturn row] := by
  rw [rowLines, List.splitOn_eq_singleton oneLine, List.map_singleton]

/-- Text in front of a row goes to the first of its lines. -/
theorem splitOn_append_of_not_mem {mark : Char} {front : Text} (absent : mark ∉ front)
    (row : Text) :
    (front ++ row).splitOn mark = (row.splitOn mark).modifyHead (front ++ ·) := by
  induction front with
  | nil =>
    rw [List.nil_append]
    cases List.splitOn mark row <;> rfl
  | cons c front ih =>
    have different : (c == mark) = false := by
      apply beq_false_of_ne
      rintro rfl
      exact absent (by simp)
    have rest := ih fun member => absent (by simp [member])
    rw [List.cons_append, List.splitOn_cons_eq_if_modifyHead, different, rest]
    cases List.splitOn mark row <;> rfl

theorem dropReturn_append {front : Text} (ending : front.getLast? ≠ some '\r') (back : Text) :
    dropReturn (front ++ back) = front ++ dropReturn back := by
  cases back with
  | nil => simp [dropReturn, ending]
  | cons c back =>
    have nonempty : c :: back ≠ [] := by simp
    simp only [dropReturn, List.getLast?_append, List.getLast?_eq_some_getLast nonempty,
      Option.some_or]
    split
    · rw [List.dropLast_append_of_ne_nil nonempty]
    · rfl

theorem dropReturn_of_not_mem {row : Text} (absent : '\r' ∉ row) : dropReturn row = row := by
  unfold dropReturn
  split
  · rename_i last
    exact absurd (List.mem_of_getLast? last) absent
  · rfl

/-- Texts are taken apart row by row, up to what follows the last line feed. -/
theorem rows_induction {motive : Text → Prop} (last : ∀ text, '\n' ∉ text → motive text)
    (row : ∀ row back, '\n' ∉ row → motive back → motive (Listing.line row ++ back))
    (text : Text) : motive text := by
  by_cases feed : '\n' ∈ text
  · obtain ⟨front, back, rfl, oneLine⟩ := List.eq_append_cons_of_mem feed
    have whole : front ++ '\n' :: back = Listing.line front ++ back := by
      rw [Listing.line, List.append_assoc, List.singleton_append]
    rw [whole]
    exact row front back oneLine (rows_induction last row back)
  · exact last text feed
termination_by text.length

theorem lines_of_not_mem {text : Text} (oneLine : '\n' ∉ text) :
    ∀ line ∈ lines text, line = text := by
  intro line member
  rw [lines, List.splitOn_eq_singleton oneLine] at member
  cases text with
  | nil => cases member
  | cons c rest => exact List.mem_singleton.mp member

theorem mem_of_mem_dropReturn {row : Text} {c : Char} (member : c ∈ dropReturn row) : c ∈ row := by
  unfold dropReturn at member
  split at member
  · exact (List.dropLast_sublist row).subset member
  · exact member

theorem feed_not_mem_lines {text line : Text} (member : line ∈ lines text) : '\n' ∉ line := by
  induction text using rows_induction with
  | last text oneLine => exact lines_of_not_mem oneLine line member ▸ oneLine
  | row row back oneLine ih =>
    rw [lines_line_append, rowLines_of_not_mem oneLine] at member
    rcases List.mem_cons.mp member with rfl | later
    · intro feed
      exact oneLine (mem_of_mem_dropReturn feed)
    · exact ih later

/-- Every carriage return is the start of a line ending. -/
def ReturnsEndLines (text : Text) : Prop :=
  ∀ i : Nat, text[i]? = some '\r' → text[i + 1]? = some '\n'

instance (text : Text) : Decidable (ReturnsEndLines text) :=
  decidable_of_iff (∀ i < text.length, text[i]? = some '\r' → text[i + 1]? = some '\n') <| by
    refine ⟨fun every i found => ?_, fun every i _ => every i⟩
    exact every i (List.getElem?_eq_some_iff.mp found).1 found

theorem ReturnsEndLines.of_append {front back : Text} (ends : ReturnsEndLines (front ++ back)) :
    ReturnsEndLines back := by
  intro i found
  have next := ends (front.length + i) (by rw [List.getElem?_append_right (by omega)]; simpa)
  rw [List.getElem?_append_right (by omega)] at next
  simpa [Nat.add_assoc] using next

/-- What follows a carriage return inside of a row is in the row, so it is no line feed. -/
theorem ReturnsEndLines.not_mem_dropReturn {row back : Text}
    (ends : ReturnsEndLines (Listing.line row ++ back)) (oneLine : '\n' ∉ row) :
    '\r' ∉ dropReturn row := by
  have atEnd (i : Nat) (found : row[i]? = some '\r') : i + 1 = row.length := by
    have bound := (List.getElem?_eq_some_iff.mp found).1
    rw [Listing.line, List.append_assoc] at ends
    have next := ends i (by rw [List.getElem?_append_left bound, found])
    by_cases inner : i + 1 < row.length
    · rw [List.getElem?_append_left inner] at next
      exact absurd (List.mem_of_getElem? next) oneLine
    · omega
  intro member
  obtain ⟨i, found⟩ := List.mem_iff_getElem?.mp member
  unfold dropReturn at found
  split at found
  · rw [List.getElem?_dropLast] at found
    split at found
    · have place := atEnd i found
      omega
    · cases found
  · rename_i other
    have place := atEnd i found
    rw [List.getLast?_eq_getElem?, ← place] at other
    exact other found

theorem return_not_mem_lines {text : Text} (ends : ReturnsEndLines text) {line : Text}
    (member : line ∈ lines text) : '\r' ∉ line := by
  induction text using rows_induction with
  | last text oneLine =>
    rw [lines_of_not_mem oneLine line member]
    intro found
    obtain ⟨i, here⟩ := List.mem_iff_getElem?.mp found
    exact oneLine (List.mem_of_getElem? (ends i here))
  | row row back oneLine ih =>
    rw [lines_line_append, rowLines_of_not_mem oneLine] at member
    rcases List.mem_cons.mp member with rfl | later
    · exact ends.not_mem_dropReturn oneLine
    · exact ih ends.of_append later

end Assembler.Text
