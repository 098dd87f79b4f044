import SessionBus.Json.Reader
import SessionBus.Proofs.Text.Numeral

/-!
# Runs of decimal digits

The digits that a natural number is written with, and the value that a reader makes of a run of
digits.  Reading in steps never lowers the value, so a reader with a bound takes the whole run as
soon as its value stays below the bound.
-/

namespace SessionBus.Json

/-- Digits are the characters that the library calls digits. -/
theorem isDigit_eq (c : Char) : isDigit c = c.isDigit := by
  simp only [isDigit, Char.isDigit, Char.le_def]

/-- The value of a run of digits after a number already read. -/
def valueOf (start : Nat) (digits : List Char) : Nat :=
  digits.foldl (fun n c => n * 10 + digitValue c) start

@[simp]
theorem valueOf_nil (start : Nat) : valueOf start [] = start := rfl

@[simp]
theorem valueOf_cons (start : Nat) (c : Char) (rest : List Char) :
    valueOf start (c :: rest) = valueOf (start * 10 + digitValue c) rest := by
  simp only [valueOf, List.foldl_cons]

/-- The value is the one that the library gives to the digits. -/
theorem valueOf_eq_ofDigitChars (start : Nat) (digits : List Char) :
    valueOf start digits = Nat.ofDigitChars 10 digits start := by
  simp only [valueOf, Nat.ofDigitChars_eq_foldl, digitValue, Nat.mul_comm 10]

theorem le_valueOf (start : Nat) (digits : List Char) : start ≤ valueOf start digits := by
  rw [valueOf_eq_ofDigitChars]
  exact Text.le_ofDigitChars digits start

/-- The digits of a natural number have it as their value. -/
theorem valueOf_toDigits (n : Nat) : valueOf 0 (Nat.toDigits 10 n) = n := by
  rw [valueOf_eq_ofDigitChars, Nat.ofDigitChars_ten_toDigits]

/-- A natural number is written with digits only. -/
theorem isDigit_of_mem_toDigits {n : Nat} {c : Char} (member : c ∈ Nat.toDigits 10 n) :
    isDigit c = true := by
  rw [isDigit_eq]
  exact Nat.isDigit_of_mem_toDigits (by decide) (by decide) member

/-- Only zero is written with a zero in front. -/
theorem head?_toDigits {n : Nat} (positive : 0 < n) : (Nat.toDigits 10 n).head? ≠ some '0' := by
  induction n using Nat.strongRecOn with
  | _ n ih =>
      by_cases small : n < 10
      · rw [Nat.toDigits_of_lt_base small]
        have table : ∀ digit < 10, 0 < digit → [digit.digitChar].head? ≠ some '0' := by decide
        exact table n small positive
      · have shorter : 0 < n / 10 := by omega
        have front := ih (n / 10) (by omega) shorter
        rw [Nat.toDigits_of_base_le (by decide) (by omega)]
        cases digits : Nat.toDigits 10 (n / 10) with
        | nil =>
            exact absurd digits Nat.toDigits_ne_nil
        | cons c rest =>
            rw [digits] at front
            exact front

/-- A text that does not go on with a digit. -/
def StopsDigits (rest : List Char) : Prop :=
  ∀ c ∈ rest.head?, isDigit c = false

/-- A reader with a bound takes a whole run of digits whose value is below the bound. -/
theorem takeDigits_append
    {digits rest : List Char} (start count : Nat)
    (all : ∀ c ∈ digits, isDigit c = true)
    (below : valueOf start digits < significandBound)
    (stops : StopsDigits rest) :
    takeDigits start count (digits ++ rest) =
      (valueOf start digits, count + digits.length, rest) := by
  induction digits generalizing start count with
  | nil =>
      cases rest with
      | nil =>
          simp [takeDigits]
      | cons c rest =>
          have stop : isDigit c = false := stops c rfl
          simp [takeDigits, stop]
  | cons c digits ih =>
      have isOne : isDigit c = true := all c List.mem_cons_self
      have bounded : start * 10 + digitValue c < significandBound :=
        Nat.lt_of_le_of_lt (le_valueOf _ digits) below
      simp only [List.cons_append, takeDigits, isOne, bounded, and_self, if_true]
      rw [ih _ _ (fun d member => all d (List.mem_cons_of_mem c member)) below]
      simp [Nat.add_comm, Nat.add_left_comm]

/-- Digits in front of a text are all taken by a loop that stops at the text. -/
theorem takeWhile_isDigit_append
    {digits rest : List Char} (all : ∀ c ∈ digits, isDigit c = true) (stops : StopsDigits rest) :
    (digits ++ rest).takeWhile isDigit = digits := by
  induction digits with
  | nil =>
      cases rest with
      | nil =>
          rfl
      | cons c rest =>
          have stop : isDigit c = false := stops c rfl
          simp [stop]
  | cons c digits ih =>
      have isOne : isDigit c = true := all c List.mem_cons_self
      simp [isOne, ih fun d member => all d (List.mem_cons_of_mem c member)]

end SessionBus.Json
