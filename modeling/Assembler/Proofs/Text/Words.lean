import Assembler.Text.Quoted

/-! Trimming, cutting and searching leave alone what they do not look for, and numbers are spelled
with digits only. -/
namespace Assembler.Text

/-- No character of the text is a control character below the blank. -/
def Visible (text : Text) : Prop :=
  ∀ c ∈ text, 0x20 ≤ c.toNat

-- The instance goes through the list, since a search over all characters would not end.
instance (text : Text) : Decidable (Visible text) :=
  decidable_of_iff (text.all fun c => 0x20 ≤ c.toNat) (by simp [Visible])

theorem Visible.append {front back : Text} (before : Visible front) (behind : Visible back) :
    Visible (front ++ back) := by
  intro c member
  exact (List.mem_append.mp member).elim (before c) (behind c)

/-- The visible characters of ASCII are no blanks. -/
theorem not_blank_of_visible {c : Char} (lower : 0x20 < c.toNat) (upper : c.toNat < 0x7F) :
    isBlank c = false := by
  simp only [isBlank, within, blankRanges, List.any_cons, List.any_nil, Bool.or_false,
    Bool.or_eq_false_iff, Bool.and_eq_false_iff, decide_eq_false_iff_not]
  omega

theorem digit_range {c : Char} (digit : c.isDigit = true) : 0x30 ≤ c.toNat ∧ c.toNat ≤ 0x39 := by
  simpa [Char.isDigit, UInt32.le_iff_toNat_le] using digit

theorem not_blank_of_digit {c : Char} (digit : c.isDigit = true) : isBlank c = false := by
  have range := digit_range digit
  exact not_blank_of_visible (by omega) (by omega)

theorem trimStart_of_head {text : Text} (head : ∀ c, text.head? = some c → isBlank c = false) :
    trimStart text = text := by
  cases text with
  | nil => rfl
  | cons c rest => simp [trimStart, head c rfl]

theorem trimStart_blank_cons {c : Char} (blank : isBlank c = true) (text : Text) :
    trimStart (c :: text) = trimStart text := by
  simp [trimStart, blank]

theorem trimStart_append_of_blank {margin : Text} (blank : ∀ c ∈ margin, isBlank c = true)
    (line : Text) : trimStart (margin ++ line) = trimStart line :=
  List.dropWhile_append_of_pos blank

theorem trimStart_of_blank {line : Text} (blank : ∀ c ∈ line, isBlank c = true) :
    trimStart line = [] := by
  have whole := trimStart_append_of_blank blank []
  rwa [List.append_nil] at whole

theorem trimStart_isSuffix (text : Text) : trimStart text <:+ text :=
  List.dropWhile_suffix _

theorem not_blank_of_head_trimStart {text : Text} {c : Char}
    (first : (trimStart text).head? = some c) : isBlank c = false := by
  have stop := List.head?_dropWhile_not isBlank text
  rw [trimStart] at first
  simpa only [first] using stop

theorem trimEnd_of_last {text : Text} (last : ∀ c, text.getLast? = some c → isBlank c = false) :
    trimEnd text = text := by
  have head : ∀ c, text.reverse.head? = some c → isBlank c = false := by
    intro c first
    exact last c (by rwa [List.head?_reverse] at first)
  have same := trimStart_of_head head
  rw [trimStart] at same
  rw [trimEnd, same, List.reverse_reverse]

theorem trimEnd_append_of_blank {margin : Text} (blank : ∀ c ∈ margin, isBlank c = true)
    (text : Text) : trimEnd (text ++ margin) = trimEnd text := by
  have pass : ∀ c ∈ margin.reverse, isBlank c = true :=
    fun c member => blank c (List.mem_reverse.mp member)
  rw [trimEnd, List.reverse_append, List.dropWhile_append_of_pos pass, trimEnd]

/-- A text is what trimming its end leaves of it, and blanks behind that. -/
theorem exists_trimEnd_append (text : Text) :
    ∃ margin, text = trimEnd text ++ margin ∧ ∀ c ∈ margin, isBlank c = true := by
  refine ⟨(text.reverse.takeWhile isBlank).reverse, ?_, ?_⟩
  · rw [trimEnd, ← List.reverse_append, List.takeWhile_append_dropWhile, List.reverse_reverse]
  · intro c member
    exact List.all_eq_true.mp List.all_takeWhile c (List.mem_reverse.mp member)

/-- What is left of a text without the blanks at both ends, which may be nothing. -/
structure Trimmed (text core : Text) : Prop where
  around : ∃ front back, text = front ++ core ++ back
    ∧ (∀ c ∈ front, isBlank c = true) ∧ ∀ c ∈ back, isBlank c = true
  head : ∀ c, core.head? = some c → isBlank c = false
  last : ∀ c, core.getLast? = some c → isBlank c = false

theorem trimmed_trim (text : Text) : Trimmed text (trim text) := by
  obtain ⟨back, split, blank⟩ := exists_trimEnd_append (trimStart text)
  refine ⟨⟨text.takeWhile isBlank, back, ?_, List.all_eq_true.mp List.all_takeWhile, blank⟩, ?_, ?_⟩
  · rw [trim, List.append_assoc, ← split, trimStart, List.takeWhile_append_dropWhile]
  · intro c first
    have start : (trimStart text).head? = some c := by
      rw [split, List.head?_append, ← trim, first]
      rfl
    exact not_blank_of_head_trimStart start
  · intro c last
    rw [trim, trimEnd, List.getLast?_reverse] at last
    exact not_blank_of_head_trimStart last

theorem Trimmed.trim_eq {text core : Text} (trimmed : Trimmed text core) : trim text = core := by
  obtain ⟨⟨front, back, rfl, before, behind⟩, head, last⟩ := trimmed
  rw [trim, List.append_assoc, trimStart_append_of_blank before]
  cases core with
  | nil => rw [List.nil_append, trimStart_of_blank behind, trimEnd_of_last last]
  | cons c rest =>
    have start : trimStart (c :: rest ++ back) = c :: rest ++ back :=
      trimStart_of_head fun d first => head d first
    rw [start, trimEnd_append_of_blank behind, trimEnd_of_last last]

theorem trim_eq_iff {text core : Text} : trim text = core ↔ Trimmed text core :=
  ⟨fun same => same ▸ trimmed_trim text, Trimmed.trim_eq⟩

theorem trim_of_ends {text : Text} (head : ∀ c, text.head? = some c → isBlank c = false)
    (last : ∀ c, text.getLast? = some c → isBlank c = false) : trim text = text := by
  rw [trim, trimStart_of_head head, trimEnd_of_last last]

theorem trim_of_forall {text : Text} (solid : ∀ c ∈ text, isBlank c = false) : trim text = text :=
  trim_of_ends (fun c first => solid c (List.mem_of_head? first))
    (fun c last => solid c (List.mem_of_getLast? last))

theorem trim_blank_cons {c : Char} (blank : isBlank c = true) (text : Text) :
    trim (c :: text) = trim text := by
  rw [trim, trimStart_blank_cons blank, trim]

/-- Trimming keeps a first character that is no blank. -/
theorem trim_cons_of_not_blank {c : Char} (solid : isBlank c = false) (rest : Text) :
    ∃ body, trim (c :: rest) = c :: body := by
  have start : trimStart (c :: rest) = c :: rest := trimStart_of_head (by simpa using solid)
  rw [trim, start, trimEnd, List.reverse_cons]
  cases kept : rest.reverse.dropWhile isBlank with
  | nil =>
    refine ⟨[], ?_⟩
    rw [List.dropWhile_append, kept]
    simp [solid]
  | cons d tail =>
    refine ⟨(d :: tail).reverse, ?_⟩
    rw [List.dropWhile_append, kept]
    simp

theorem mem_of_mem_trim {c : Char} {text : Text} (member : c ∈ trim text) : c ∈ text := by
  have kept : c ∈ (trimStart text).reverse :=
    (List.dropWhile_suffix _).subset (List.mem_reverse.mp member)
  exact (trimStart_isSuffix text).subset (List.mem_reverse.mp kept)

theorem mem_dropWhile_of_not {c : Char} {text : Text} (member : c ∈ text)
    (solid : isBlank c = false) : c ∈ text.dropWhile isBlank := by
  rw [← List.takeWhile_append_dropWhile (p := isBlank) (l := text)] at member
  rcases List.mem_append.mp member with dropped | kept
  · rw [List.all_eq_true.mp List.all_takeWhile c dropped] at solid
    cases solid
  · exact kept

theorem mem_trim {c : Char} {text : Text} (member : c ∈ text) (solid : isBlank c = false) :
    c ∈ trim text := by
  have kept : c ∈ (trimStart text).reverse :=
    List.mem_reverse.mpr (mem_dropWhile_of_not member solid)
  exact List.mem_reverse.mpr (mem_dropWhile_of_not kept solid)

theorem not_blank_of_toUpper {c : Char} (solid : isBlank c.toUpper = false) :
    isBlank c = false := by
  unfold Char.toUpper at solid
  split at solid
  · rename_i letter
    have lower : 0x61 ≤ c.toNat := UInt32.le_iff_toNat_le.mp letter.1
    have upper : c.toNat ≤ 0x7A := UInt32.le_iff_toNat_le.mp letter.2
    exact not_blank_of_visible (by omega) (by omega)
  · exact solid

theorem cutAt?_append {p : Char → Bool} {word : Text} {mark : Char}
    (inside : ∀ c ∈ word, p c = false) (found : p mark = true) (rest : Text) :
    cutAt? p (word ++ mark :: rest) = some (word, rest) := by
  have pass : ∀ c ∈ word, (! p c) = true := by
    intro c member
    rw [inside c member]
    rfl
  rw [cutAt?, List.dropWhile_append_of_pos pass, List.takeWhile_append_of_pos pass]
  simp [found]

theorem cutAt?_mark_append {word : Text} {mark : Char} (absent : mark ∉ word) (rest : Text) :
    cutAt? (· == mark) (word ++ mark :: rest) = some (word, rest) := by
  apply cutAt?_append
  · intro c member
    apply beq_false_of_ne
    rintro rfl
    exact absent member
  · exact BEq.rfl

theorem cutAt?_eq_none {p : Char → Bool} {text : Text} (absent : ∀ c ∈ text, p c = false) :
    cutAt? p text = none := by
  have pass : ∀ c ∈ text, (! p c) = true := by
    intro c member
    rw [absent c member]
    rfl
  have nothing : text.dropWhile (! p ·) = [] := by
    rw [← List.append_nil text, List.dropWhile_append_of_pos pass, List.dropWhile_nil]
  rw [cutAt?, nothing]

theorem cutAt?_left (p : Char → Bool) (text : Text) :
    ((cutAt? p text).getD (text, [])).1 = text.takeWhile (! p ·) := by
  unfold cutAt?
  split
  · rename_i whole
    rw [Option.getD_none, ← List.append_nil (text.takeWhile _), ← whole,
      List.takeWhile_append_dropWhile]
  · rfl

/-- Cut at the first blank, a text loses only that blank, which trimming would drop as well. -/
theorem trim_cutAt?_right (text : Text) :
    trim ((cutAt? isBlank text).getD (text, [])).2 = trim (text.dropWhile (! isBlank ·)) := by
  have stop := List.head?_dropWhile_not (! isBlank ·) text
  unfold cutAt?
  cases found : text.dropWhile (! isBlank ·) with
  | nil => rfl
  | cons c rest =>
    rw [found] at stop
    have blank : isBlank c = true := by simpa using stop
    exact (trim_blank_cons blank rest).symm

theorem cutAt?_isSuffix {p : Char → Bool} {text left right : Text}
    (cut : cutAt? p text = some (left, right)) : right <:+ text := by
  unfold cutAt? at cut
  split at cut
  · cases cut
  · rename_i mark rest found
    cases cut
    have behind : mark :: right <:+ text := found ▸ List.dropWhile_suffix _
    exact (List.suffix_cons mark right).trans behind

theorem occurs_iff {mark text : Text} : occurs mark text = true ↔ mark <:+: text := by
  induction text with
  | nil => simp [occurs]
  | cons c rest ih =>
    rw [occurs, Bool.or_eq_true, List.isPrefixOf_iff_prefix, ih, List.infix_cons_iff]

theorem occurs_append {first : Char} {front : Text} (absent : first ∉ front) (mark text : Text) :
    occurs (first :: mark) (front ++ text) = occurs (first :: mark) text := by
  induction front with
  | nil => rfl
  | cons c front ih =>
    have different : (first == c) = false := by
      apply beq_false_of_ne
      rintro rfl
      exact absent (by simp)
    rw [List.cons_append, occurs, List.isPrefixOf, different, Bool.false_and, Bool.false_or]
    exact ih fun member => absent (by simp [member])

theorem scan_eq (mark text seen : Text) :
    before.scan mark text seen = seen.reverse ++ before mark text := by
  induction text generalizing seen with
  | nil => simp [before, before.scan]
  | cons c rest ih =>
    rw [before, before.scan, before.scan]
    split
    · simp
    · rw [ih, ih]
      simp

theorem before_cons (mark : Text) (c : Char) (rest : Text) :
    before mark (c :: rest) =
      if mark.isPrefixOf (c :: rest) then [] else c :: before mark rest := by
  rw [before, before.scan, scan_eq]
  rfl

theorem before_isPrefix (mark text : Text) : before mark text <+: text := by
  induction text with
  | nil => exact List.prefix_refl _
  | cons c rest ih =>
    rw [before_cons]
    split
    · exact List.nil_prefix
    · exact (List.prefix_cons_inj c).mpr ih

theorem occurs_before {mark : Text} (nonempty : mark ≠ []) (text : Text) :
    occurs mark (before mark text) = false := by
  induction text with
  | nil => exact List.isEmpty_eq_false_iff.mpr nonempty
  | cons c rest ih =>
    rw [before_cons]
    split
    · exact List.isEmpty_eq_false_iff.mpr nonempty
    · rename_i elsewhere
      rw [List.isPrefixOf_iff_prefix] at elsewhere
      rw [occurs, ih, Bool.or_false, ← Bool.not_eq_true, List.isPrefixOf_iff_prefix]
      -- An occurrence at the start of the part that is kept would be one at the start of the text.
      intro first
      have kept : c :: before mark rest <+: c :: rest :=
        (List.prefix_cons_inj c).mpr (before_isPrefix mark rest)
      exact elsewhere (first.trans kept)

theorem before_of_not_occurs {mark text : Text} (absent : occurs mark text = false) :
    before mark text = text := by
  induction text with
  | nil => rfl
  | cons c rest ih =>
    rw [occurs, Bool.or_eq_false_iff] at absent
    rw [before_cons, absent.1, if_neg (by decide), ih absent.2]

theorem before_append {mark : Text} (nonempty : mark ≠ []) (text : Text) :
    before mark (mark ++ text) = [] := by
  cases mark with
  | nil => contradiction
  | cons c mark => simp [before, before.scan]

/-- A text has one part more than it has marks. -/
theorem length_splitOn (mark : Char) (text : Text) :
    (text.splitOn mark).length = text.count mark + 1 := by
  induction text with
  | nil => rfl
  | cons c rest ih =>
    rw [List.splitOn_cons_eq_if_modifyHead, List.count_cons]
    split
    · rw [List.length_cons, ih]
    · rw [List.length_modifyHead, ih]

theorem isDigit_of_mem_decimal {n : Nat} {c : Char} (member : c ∈ decimal n) : c.isDigit = true :=
  Nat.isDigit_of_mem_toDigits (by decide) (by decide) member

theorem decimal_ne_nil (n : Nat) : decimal n ≠ [] :=
  Nat.toDigits_ne_nil

theorem number?_decimal (n : Nat) : number? (decimal n) = some n := by
  have digits : (decimal n).all Char.isDigit = true :=
    List.all_eq_true.mpr fun _ member => isDigit_of_mem_decimal member
  have some : (decimal n).isEmpty = false := List.isEmpty_eq_false_iff.mpr (decimal_ne_nil n)
  rw [number?, some, digits]
  exact congrArg Option.some Nat.ofDigitChars_ten_toDigits

end Assembler.Text
