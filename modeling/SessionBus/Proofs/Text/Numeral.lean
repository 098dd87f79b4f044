import SessionBus.Text.Blank
import SessionBus.Text.Numeral

/-!
# Numerals, and texts without the blanks around them

A numeral and its value, and the part of a text between the blanks at its ends, are told here
without a reader.  The readers are exact: a numeral is read as its value whenever the value is below
the bound, however many zeros it begins with, and nothing else is read as a number.
-/

namespace SessionBus.Text

/-! ## Numerals -/

/-- One or more ASCII digits, and the number that they make. -/
structure Digits (text : List Char) (n : Nat) : Prop where
  nonempty : text ≠ []
  digits : ∀ c ∈ text, c.isDigit = true
  value : Nat.ofDigitChars 10 text 0 = n

/-- A numeral is a run of digits with at most one plus sign in front. -/
def Numeral (text : List Char) (n : Nat) : Prop :=
  Digits text n ∨ ∃ digits, text = '+' :: digits ∧ Digits digits n

theorem digit?_eq (c : Char) :
    digit? c = if c.isDigit = true then some (c.toNat - '0'.toNat) else none := by
  have same : ('0' ≤ c ∧ c ≤ '9') ↔ c.isDigit = true := by
    simp only [Char.isDigit, Char.le_def, Bool.and_eq_true, decide_eq_true_eq, ge_iff_le]
  simp only [digit?, same]

/-- Further digits never lower a number. -/
theorem le_ofDigitChars (text : List Char) (start : Nat) :
    start ≤ Nat.ofDigitChars 10 text start := by
  induction text generalizing start with
  | nil =>
      exact Nat.le_refl start
  | cons c rest ih =>
      have step := ih (10 * start + (c.toNat - '0'.toNat))
      rw [Nat.ofDigitChars_cons]
      omega

/-- Digits are taken in one by one, as far as the number that they make is below the bound. -/
theorem appendDigits?_eq_some_iff
    {bound start n : Nat} {text : List Char} (room : text = [] → start < bound) :
    appendDigits? bound start text = some n ↔
      (∀ c ∈ text, c.isDigit = true) ∧ Nat.ofDigitChars 10 text start = n ∧ n < bound := by
  induction text generalizing start with
  | nil =>
      simp only [appendDigits?, Nat.ofDigitChars_nil, Option.some.injEq, List.not_mem_nil,
        false_implies, implies_true, true_and]
      constructor
      · rintro rfl
        exact ⟨rfl, room rfl⟩
      · exact And.left
  | cons c rest ih =>
      rw [appendDigits?, digit?_eq, List.forall_mem_cons, Nat.ofDigitChars_cons, Nat.mul_comm 10]
      by_cases digit : c.isDigit = true
      · simp only [digit, if_true, true_and]
        by_cases below : start * 10 + (c.toNat - '0'.toNat) < bound
        · rw [if_pos below, ih fun _ => below]
        · rw [if_neg below]
          have grown := le_ofDigitChars rest (start * 10 + (c.toNat - '0'.toNat))
          constructor
          · exact nofun
          · rintro ⟨_, value, fits⟩
            omega
      · simp [digit]

theorem digits?_eq_some_iff {bound n : Nat} {text : List Char} :
    digits? bound text = some n ↔ Digits text n ∧ n < bound := by
  cases text with
  | nil =>
      refine iff_of_false nofun ?_
      rintro ⟨digits, _⟩
      exact digits.nonempty rfl
  | cons c rest =>
      have room : c :: rest = [] → 0 < bound := nofun
      rw [digits?, appendDigits?_eq_some_iff room]
      constructor
      · rintro ⟨digits, value, below⟩
        exact ⟨⟨List.cons_ne_nil c rest, digits, value⟩, below⟩
      · rintro ⟨digits, below⟩
        exact ⟨digits.digits, digits.value, below⟩

/-- A plus sign in front is dropped, and only a plus sign. -/
theorem digits_dropPlus_iff {text : List Char} {n : Nat} :
    Digits (dropPlus text) n ↔ Numeral text n := by
  unfold dropPlus Numeral
  split
  · rename_i rest
    have sign : ¬ Digits ('+' :: rest) n := by
      intro digits
      have plus := digits.digits '+' List.mem_cons_self
      exact absurd plus (by decide)
    simp [sign]
  · rename_i plain
    have unsigned : ¬ ∃ digits, text = '+' :: digits ∧ Digits digits n := by
      rintro ⟨digits, same, _⟩
      exact plain digits same
    simp [unsigned]

/-- The reader takes the numerals below the bound, and nothing else. -/
theorem numeral?_eq_some_iff {bound n : Nat} {text : List Char} :
    numeral? bound text = some n ↔ Numeral text n ∧ n < bound := by
  rw [numeral?, digits?_eq_some_iff, digits_dropPlus_iff]

/-- A number is written as a run of digits with it as the value. -/
theorem digits_toDigits (n : Nat) : Digits (Nat.toDigits 10 n) n where
  nonempty := Nat.toDigits_ne_nil
  digits := fun _ inside => Nat.isDigit_of_mem_toDigits (by decide) (by decide) inside
  value := Nat.ofDigitChars_ten_toDigits

/-- A numeral holds nothing but digits and a plus sign. -/
theorem Numeral.mem
    {text : List Char} {n : Nat} (numeral : Numeral text n) {c : Char} (inside : c ∈ text) :
    c.isDigit = true ∨ c = '+' := by
  rcases numeral with digits | ⟨rest, rfl, digits⟩
  · exact .inl (digits.digits c inside)
  · rcases List.mem_cons.mp inside with rfl | later
    · exact .inr rfl
    · exact .inl (digits.digits c later)

/-! ## Blanks around a text -/

/-- The core of a text is what is left without the blanks at its ends. -/
structure Core (text core : List Char) : Prop where
  split :
    ∃ before after, text = before ++ core ++ after ∧
      (∀ c ∈ before, isBlank c = true) ∧ ∀ c ∈ after, isBlank c = true
  first : ∀ c ∈ core.head?, isBlank c = false
  last : ∀ c ∈ core.getLast?, isBlank c = false

/-- Blanks are dropped up to the first character that is none. -/
theorem dropWhile_isBlank_append
    {before rest : List Char} (blank : ∀ c ∈ before, isBlank c = true)
    (stops : ∀ c ∈ rest.head?, isBlank c = false) :
    (before ++ rest).dropWhile isBlank = rest := by
  rw [List.dropWhile_append_of_pos blank]
  cases rest with
  | nil =>
      rfl
  | cons c rest =>
      have stop : isBlank c = false := stops c rfl
      simp [stop]

theorem head?_dropWhile_isBlank (text : List Char) :
    ∀ c ∈ (text.dropWhile isBlank).head?, isBlank c = false := by
  intro c inside
  have first := List.head?_dropWhile_not isBlank text
  rw [Option.mem_def.mp inside] at first
  exact first

theorem mem_takeWhile_isBlank (text : List Char) :
    ∀ c ∈ text.takeWhile isBlank, isBlank c = true :=
  List.all_eq_true.mp List.all_takeWhile

/-- Trimming a text leaves a core of it. -/
theorem core_trim (text : List Char) : Core text (trim text) := by
  have whole := List.takeWhile_append_dropWhile (p := isBlank) (l := text)
  have back := List.takeWhile_append_dropWhile (p := isBlank) (l := (trimStart text).reverse)
  have middle : trimStart text =
      trim text ++ ((trimStart text).reverse.takeWhile isBlank).reverse := by
    rw [trim, trimEnd, ← List.reverse_append, back, List.reverse_reverse]
  refine ⟨⟨text.takeWhile isBlank, ((trimStart text).reverse.takeWhile isBlank).reverse, ?_,
    mem_takeWhile_isBlank text, ?_⟩, ?_, ?_⟩
  · rw [List.append_assoc, ← middle]
    exact whole.symm
  · intro c inside
    exact mem_takeWhile_isBlank _ c (List.mem_reverse.mp inside)
  · intro c inside
    apply head?_dropWhile_isBlank text c
    rw [← trimStart, middle, List.head?_append, Option.mem_def.mp inside]
    rfl
  · intro c inside
    rw [trim, trimEnd, List.getLast?_reverse] at inside
    exact head?_dropWhile_isBlank _ c inside

/-- A text has one core. -/
theorem Core.trim {text core : List Char} (isCore : Core text core) : trim text = core := by
  rcases isCore with ⟨⟨before, after, rfl, blankBefore, blankAfter⟩, first, last⟩
  have blankEnd : ∀ c ∈ after.reverse, isBlank c = true :=
    fun c inside => blankAfter c (List.mem_reverse.mp inside)
  rw [Text.trim, trimEnd, trimStart]
  cases core with
  | nil =>
      have blank : ∀ c ∈ before ++ [] ++ after, isBlank c = true := by
        simpa using fun c inside => inside.elim (blankBefore c) (blankAfter c)
      have nothing : (before ++ [] ++ after ++ []).dropWhile isBlank = [] :=
        dropWhile_isBlank_append blank nofun
      rw [List.append_nil] at nothing
      rw [nothing]
      rfl
  | cons c rest =>
      have front : (before ++ (c :: rest ++ after)).dropWhile isBlank = c :: rest ++ after :=
        dropWhile_isBlank_append blankBefore first
      have stops : ∀ d ∈ (c :: rest).reverse.head?, isBlank d = false := by
        rw [List.head?_reverse]
        exact last
      rw [List.append_assoc, front, List.reverse_append, dropWhile_isBlank_append blankEnd stops,
        List.reverse_reverse]

theorem isBlank_of_isDigit {c : Char} (digit : c.isDigit = true) : isBlank c = false := by
  simp only [Char.isDigit, Bool.and_eq_true, decide_eq_true_eq, ge_iff_le,
    UInt32.le_iff_toNat_le] at digit
  have range : 48 ≤ c.toNat ∧ c.toNat ≤ 57 := digit
  simp only [isBlank, blankRanges, List.any_cons, List.any_nil, Bool.or_false, Bool.or_eq_false_iff,
    Bool.and_eq_false_iff, decide_eq_false_iff_not]
  omega

end SessionBus.Text
