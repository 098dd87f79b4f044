import SessionBus.Proofs.Fallible
import SessionBus.Proofs.Json.Digits
import SessionBus.Proofs.Json.Written

/-!
# Reading numbers and strings that were written

An integer of 64 bits and any string at all are read back from their written forms, whatever follows
them.  For a number that is meant with care: what follows must not go on with a digit, a point or an
exponent, as the separators and closing brackets of JSON never do.
-/

namespace SessionBus.Json

/-! ## Numbers -/

/-- An integer that a signed or an unsigned word of 64 bits has room for. -/
def IsWord (n : Int) : Prop :=
  -Text.int64Bound ≤ n ∧ n < UInt64.size

instance (n : Int) : Decidable (IsWord n) := by
  unfold IsWord
  infer_instance

/-- A text that does not go on with a number. -/
def EndsNumber (rest : List Char) : Prop :=
  ∀ c ∈ rest.head?, isDigit c = false ∧ c ≠ '.' ∧ c ≠ 'e' ∧ c ≠ 'E'

theorem EndsNumber.nil : EndsNumber [] := by
  intro c member
  simp at member

theorem EndsNumber.stopsDigits {rest : List Char} (ends : EndsNumber rest) :
    StopsDigits rest :=
  fun c member => (ends c member).1

/-- After the integer part of a whole number nothing is left to be read. -/
theorem readTail_of_ends {rest : List Char} (ends : EndsNumber rest) (significand : Nat) :
    readTail false significand rest = .ok (.integer significand, rest) := by
  unfold readTail
  split
  · exact absurd rfl (ends _ rfl).2.1
  · exact absurd rfl (ends _ rfl).2.2.1
  · exact absurd rfl (ends _ rfl).2.2.2
  · simp

/-- The same after a minus sign, where zero and what is out of range are no integers. -/
theorem readTail_negative_of_ends
    {rest : List Char} (ends : EndsNumber rest) {significand : Nat}
    (positive : 0 < significand) (inRange : significand ≤ Text.int64Bound) :
    readTail true significand rest = .ok (.integer (-significand), rest) := by
  unfold readTail
  split
  · exact absurd rfl (ends _ rfl).2.1
  · exact absurd rfl (ends _ rfl).2.2.1
  · exact absurd rfl (ends _ rfl).2.2.2
  · have noFloat : ¬ (significand = 0 ∨ Text.int64Bound < significand) := by omega
    simp [noFloat]

/-- The integer part of a number that was written is read as a whole. -/
theorem readUnsigned_toDigits
    {rest : List Char} (ends : EndsNumber rest) (negative : Bool) {n : Nat}
    (inRange : n < significandBound) :
    readUnsigned negative (Nat.toDigits 10 n ++ rest) = readTail negative n rest := by
  cases digits : Nat.toDigits 10 n with
  | nil =>
      exact absurd digits Nat.toDigits_ne_nil
  | cons first more =>
      have all : ∀ c ∈ first :: more, isDigit c = true := by
        intro c member
        exact isDigit_of_mem_toDigits (digits ▸ member)
      have value : valueOf 0 (first :: more) = n := by
        rw [← digits, valueOf_toDigits]
      have firstIsDigit : isDigit first = true := all first List.mem_cons_self
      -- A number that starts with a zero ends there, so zero has a branch of its own.
      by_cases zero : n = 0
      · subst zero
        rw [Nat.toDigits_zero] at digits
        cases digits
        cases rest with
        | nil =>
            simp [readUnsigned]
        | cons c rest =>
            have stop : isDigit c = false := (ends c rfl).1
            simp [readUnsigned, stop]
      · have notZero : first ≠ '0' := by
          have front := head?_toDigits (Nat.pos_of_ne_zero zero)
          rw [digits] at front
          simpa using front
        rw [valueOf_cons, Nat.zero_mul, Nat.zero_add] at value
        have taken :=
          takeDigits_append (digitValue first) 1
            (fun c member => all c (List.mem_cons_of_mem first member))
            (by rw [value]; exact inRange) ends.stopsDigits
        simp only [List.cons_append, readUnsigned, notZero, firstIsDigit, if_true, if_false,
          taken, value]
        cases rest with
        | nil =>
            rfl
        | cons c rest =>
            have stop : isDigit c = false := (ends c rfl).1
            simp [stop]

/-- The first character of a natural number is no minus sign. -/
theorem readNumber_toDigits
    {rest : List Char} (ends : EndsNumber rest) {n : Nat} (inRange : n < significandBound) :
    readNumber (Nat.toDigits 10 n ++ rest) = .ok (.integer n, rest) := by
  cases digits : Nat.toDigits 10 n with
  | nil =>
      exact absurd digits Nat.toDigits_ne_nil
  | cons first more =>
      have isOne : isDigit first = true := by
        have member : first ∈ Nat.toDigits 10 n := by
          simp [digits]
        exact isDigit_of_mem_toDigits member
      have noMinus : first ≠ '-' := by
        rintro rfl
        exact absurd isOne (by decide)
      have unsigned : readNumber (first :: (more ++ rest)) =
          readUnsigned false (first :: (more ++ rest)) := by
        unfold readNumber
        split
        · rename_i equal
          exact absurd (List.cons.inj equal).1 noMinus
        · rfl
      rw [List.cons_append, unsigned, ← List.cons_append, ← digits,
        readUnsigned_toDigits ends false inRange, readTail_of_ends ends]

/-- An integer of 64 bits is read back from its written form. -/
theorem readNumber_text
    {rest : List Char} (ends : EndsNumber rest) {n : Int} (word : IsWord n) :
    readNumber (Number.text (.integer n) ++ rest) = .ok (.integer n, rest) := by
  cases n with
  | ofNat n =>
      have inRange : n < significandBound := Int.ofNat_lt.mp word.2
      exact readNumber_toDigits ends inRange
  | negSucc n =>
      have inRange : n + 1 ≤ Text.int64Bound := by
        have lower := word.1
        omega
      have short : n + 1 < significandBound :=
        Nat.lt_of_le_of_lt inRange (by decide)
      simp only [Number.text, List.cons_append, readNumber]
      rw [readUnsigned_toDigits ends true short,
        readTail_negative_of_ends ends (Nat.succ_pos n) inRange]
      rfl

/-! ## Strings -/

/-- The two hexadecimal digits of a control name its code point. -/
theorem hexUnit?_control :
    ∀ n < 0x20, hexUnit? '0' '0' (hexDigit (n / 16)) (hexDigit (n % 16)) = some n := by
  decide

/-- The digits of an escape are single bytes. -/
theorem utf8Size_hexDigit : ∀ n < 16, (hexDigit n).utf8Size = 1 := by
  decide

/-- Four hexadecimal digits are read as one unit. -/
theorem readHexUnit_control {n : Nat} (control : n < 0x20) (rest : List Char) :
    readHexUnit ('0' :: '0' :: hexDigit (n / 16) :: hexDigit (n % 16) :: rest) =
      .ok (n, rest) := by
  have high := utf8Size_hexDigit (n / 16) (by omega)
  have low := utf8Size_hexDigit (n % 16) (by omega)
  have zero : '0'.utf8Size = 1 := by decide
  simp [readHexUnit, hexUnit?_control n control, high, low, zero]

/-- An escape of four digits is read back as the control that it stands for. -/
theorem readEscape_control {c : Char} (control : c.toNat < 0x20) (rest : List Char) :
    readEscape ('u' :: '0' :: '0' :: hexDigit (c.toNat / 16) :: hexDigit (c.toNat % 16) :: rest) =
      .ok (c, rest) := by
  have noLow : ¬ (0xdc00 ≤ c.toNat ∧ c.toNat ≤ 0xdfff) := by omega
  have single : c.toNat < 0xd800 ∨ 0xdbff < c.toNat := by omega
  simp [readEscape, readUnicodeEscape, readHexUnit_control control, noLow, single]

/-- The written form of a character is read in one round. -/
theorem readStringFrom_escapedChar
    (tick : Char) (clock : List Char) (read : String) (c : Char) (rest : List Char) :
    readStringFrom (tick :: clock) read (escapedChar c ++ rest) =
      readStringFrom clock (read.push c) rest := by
  unfold escapedChar
  split
  · rename_i quote
    subst quote
    simp [readStringFrom, readEscape]
  · rename_i noQuote
    split
    · rename_i backslash
      subst backslash
      simp [readStringFrom, readEscape]
    · rename_i noBackslash
      split
      · rename_i printable
        have noControl : ¬ c.toNat < 0x20 := by omega
        simp [readStringFrom, noQuote, noBackslash, noControl]
      · rename_i control
        split
        · rename_i code
          have equal : c = '\x08' := Char.toNat_inj.mp code
          simp [readStringFrom, readEscape, equal]
        · split
          · rename_i code
            have equal : c = '\x0c' := Char.toNat_inj.mp code
            simp [readStringFrom, readEscape, equal]
          · split
            · rename_i equal
              simp [readStringFrom, readEscape, equal]
            · split
              · rename_i equal
                simp [readStringFrom, readEscape, equal]
              · split
                · rename_i equal
                  simp [readStringFrom, readEscape, equal]
                · have escape := readEscape_control (Nat.lt_of_not_le control) rest
                  simp [readStringFrom, escape]

/-- The written characters of a string are read back up to the closing quote. -/
theorem readStringFrom_written
    {chars clock : List Char} (enough : chars.length < clock.length)
    (read : String) (rest : List Char) :
    readStringFrom clock read (chars.flatMap escapedChar ++ '"' :: rest) =
      .ok (read ++ String.ofList chars, rest) := by
  induction chars generalizing clock read with
  | nil =>
      cases clock with
      | nil =>
          simp at enough
      | cons tick clock =>
          simp [readStringFrom]
  | cons c chars ih =>
      cases clock with
      | nil =>
          simp at enough
      | cons tick clock =>
          have enoughLeft : chars.length < clock.length := by
            simpa using enough
          rw [List.flatMap_cons, List.append_assoc, readStringFrom_escapedChar, ih enoughLeft]
          congr 2
          apply String.toList_inj.mp
          simp

/-- Every character is written with at least one. -/
theorem length_le_length_flatMap_escapedChar (chars : List Char) :
    chars.length ≤ (chars.flatMap escapedChar).length := by
  induction chars with
  | nil =>
      simp
  | cons c chars ih =>
      have one : 1 ≤ (escapedChar c).length := by
        unfold escapedChar
        repeat' split
        all_goals simp
      rw [List.flatMap_cons, List.length_append, List.length_cons]
      omega

/-- Any string is read back from its written form, the opening quote being passed already. -/
theorem readString_written (text : String) (rest : List Char) :
    readString (text.toList.flatMap escapedChar ++ '"' :: rest) = .ok (text, rest) := by
  have enough : text.toList.length <
      (text.toList.flatMap escapedChar ++ '"' :: rest).length := by
    have shorter := length_le_length_flatMap_escapedChar text.toList
    simp only [List.length_append, List.length_cons]
    omega
  rw [readString, readStringFrom_written enough]
  simp

end SessionBus.Json
