import SessionBus.Instant
import SessionBus.Proofs.Json.Digits
import SessionBus.Proofs.Fallible

/-!
# Reading instants that were written

The text of an instant is read back field by field.  The only instants that do not come back as they
were are those in a leap second that is not the last one of its minute: their text names the second
after it, and that is what is read.  `reread` is the instant that the text of an instant names.
-/

namespace SessionBus.Instant

open Json (StopsDigits isDigit valueOf)
open Fallible (ok_bind pure_eq_ok)

/-! ## Digits -/

theorem isBlank_of_isDigit {c : Char} (digit : isDigit c = true) : Text.isBlank c = false := by
  rw [Json.isDigit_eq] at digit
  exact Text.isBlank_of_isDigit digit

theorem trimStart_cons {c : Char} (visible : Text.isBlank c = false) (rest : List Char) :
    Text.trimStart (c :: rest) = c :: rest := by
  simp [Text.trimStart, visible]

theorem isDigit_of_mem_padded
    {width n : Nat} {c : Char} (member : c ∈ padded width n) : isDigit c = true := by
  simp only [padded, List.mem_append, List.mem_replicate] at member
  rcases member with ⟨_, rfl⟩ | digit
  · decide
  · exact Json.isDigit_of_mem_toDigits digit

/-- Zeros in front of a number do not change its value. -/
theorem valueOf_padded (width n : Nat) : valueOf 0 (padded width n) = n := by
  have zeros : ∀ count (digits : List Char),
      valueOf 0 (List.replicate count '0' ++ digits) = valueOf 0 digits := by
    intro count digits
    induction count with
    | zero =>
        simp
    | succ count ih =>
        have zero : Json.digitValue '0' = 0 := rfl
        simpa [List.replicate_succ, zero] using ih
  rw [padded, zeros, Json.valueOf_toDigits]

/-- A number is padded to the width that it fits. -/
theorem length_padded
    {width n : Nat} (positive : 0 < width) (fits : n < Nat.pow 10 width) :
    (padded width n).length = width := by
  have short : (Nat.toDigits 10 n).length ≤ width :=
    (Nat.length_toDigits_le_iff (by decide) positive).mpr fits
  simp only [padded, List.length_append, List.length_replicate]
  omega

theorem exists_padded_eq_cons (width n : Nat) :
    ∃ c rest, padded width n = c :: rest ∧ isDigit c = true := by
  cases digits : padded width n with
  | nil =>
      simp [padded, Nat.toDigits_ne_nil] at digits
  | cons c rest =>
      exact ⟨c, rest, rfl, isDigit_of_mem_padded (digits ▸ List.mem_cons_self)⟩

theorem trimStart_padded (width n : Nat) (rest : List Char) :
    Text.trimStart (padded width n ++ rest) = padded width n ++ rest := by
  rcases exists_padded_eq_cons width n with ⟨c, more, equal, digit⟩
  rw [equal, List.cons_append, trimStart_cons (isBlank_of_isDigit digit)]

/-- A padded number is read if it is not too long and no further digit follows. -/
theorem readDigits_padded
    (width n : Nat) {most : Nat} {rest : List Char}
    (short : (padded width n).length ≤ most) (stops : StopsDigits rest)
    (inRange : n < Text.int64Bound) :
    readDigits most (padded width n ++ rest) = .ok (n, rest) := by
  rcases exists_padded_eq_cons width n with ⟨c, more, equal, digit⟩
  have taken : ((padded width n ++ rest).take most).takeWhile isDigit = padded width n := by
    rw [List.take_append, List.take_of_length_le short]
    apply Json.takeWhile_isDigit_append
    · intro d member
      exact isDigit_of_mem_padded member
    · intro d member
      apply stops
      cases rest with
      | nil =>
          simp at member
      | cons first others =>
          cases left : most - (padded width n).length with
          | zero =>
              simp [left] at member
          | succ left' =>
              simpa [left] using member
  have value : valueOf 0 (padded width n) = n := valueOf_padded width n
  rw [equal] at taken value short ⊢
  simp only [List.cons_append] at taken ⊢
  rw [readDigits, taken]
  have rest : (c :: (more ++ rest)).drop (c :: more).length = rest := by
    rw [← List.cons_append, List.drop_left]
  simp only [valueOf] at value
  simp [value, inRange]

/-! ## Fields -/

theorem stopsDigits_cons {c : Char} (noDigit : isDigit c = false) (rest : List Char) :
    StopsDigits (c :: rest) := by
  rintro d ⟨⟩
  exact noDigit

/-- A field of two digits is read if its value is allowed. -/
theorem readField_padded
    {least greatest n : Nat} {rest : List Char}
    (allowed : least ≤ n ∧ n ≤ greatest) (small : n < 100) (stops : StopsDigits rest) :
    readField least greatest (padded 2 n ++ rest) = .ok (n, rest) := by
  have short : (padded 2 n).length ≤ 2 := Nat.le_of_eq (length_padded (by decide) small)
  have inRange : n < Text.int64Bound := Nat.lt_trans small (by decide)
  simp [readField, trimStart_padded, readDigits_padded 2 n short stops inRange, allowed]

theorem readMark_cons {mark : Char} (visible : Text.isBlank mark = false) (rest : List Char) :
    readMark mark (mark :: rest) = .ok ((), rest) := by
  simp [readMark, trimStart_cons visible]

theorem readTimeMark_cons (rest : List Char) : readTimeMark ('T' :: rest) = .ok ((), rest) :=
  rfl

/-- A year is read back, with or without a sign. -/
theorem readYear_yearText
    {year : Int} (low : -262143 ≤ year) (high : year ≤ 262142)
    {rest : List Char} (stops : StopsDigits rest) :
    readYear (yearText year ++ rest) = .ok (year, rest) := by
  have inRange : -(Text.int32Bound : Int) ≤ year ∧ year < Text.int32Bound := by
    have bound : (Text.int32Bound : Int) = 2147483648 := rfl
    omega
  have small : year.natAbs < Text.int64Bound := by
    have bound : Text.int64Bound = 9223372036854775808 := rfl
    omega
  have signed : ∀ n < Text.int64Bound,
      readDigits (padded 4 n ++ rest).length (padded 4 n ++ rest) = .ok (n, rest) := by
    intro n bounded
    exact readDigits_padded 4 n (by simp) stops bounded
  unfold yearText
  split
  · rename_i plain
    have small : year.toNat < 10000 := by omega
    have four : (padded 4 year.toNat).length ≤ 4 :=
      Nat.le_of_eq (length_padded (by decide) small)
    have bounded : year.toNat < Text.int64Bound := by omega
    have digits := readDigits_padded 4 year.toNat four stops bounded
    have whole : (year.toNat : Int) = year := by omega
    rcases exists_padded_eq_cons 4 year.toNat with ⟨c, more, equal, digit⟩
    have noSign : c ≠ '-' ∧ c ≠ '+' := by
      constructor <;> rintro rfl <;> exact absurd digit (by decide)
    have visible := isBlank_of_isDigit digit
    rw [equal, List.cons_append] at digits ⊢
    simp only [readYear, trimStart_cons visible]
    split
    · rename_i sign
      exact absurd (List.cons.inj sign).1 noSign.1
    · rename_i sign
      exact absurd (List.cons.inj sign).1 noSign.2
    · simp [digits, whole, inRange]
  · rename_i signNeeded
    have digits := signed year.natAbs small
    split
    · rename_i negative
      have whole : -(year.natAbs : Int) = year := by omega
      have start := trimStart_cons (show Text.isBlank '-' = false by decide)
        (padded 4 year.natAbs ++ rest)
      simp only [List.cons_append, readYear, start, digits, ok_bind, pure_eq_ok,
        whole, inRange, and_self, if_true]
    · rename_i positive
      have whole : (year.natAbs : Int) = year := by omega
      have start := trimStart_cons (show Text.isBlank '+' = false by decide)
        (padded 4 year.natAbs ++ rest)
      simp only [List.cons_append, readYear, start, digits, ok_bind, pure_eq_ok,
        whole, inRange, and_self, if_true]

theorem readFraction_fractionText
    {nano : Nat} (small : nano < 1000000000) (rest : List Char) :
    readFraction (fractionText nano ++ 'Z' :: rest) = .ok (nano, 'Z' :: rest) := by
  have stops : StopsDigits ('Z' :: rest) := stopsDigits_cons (by decide) rest
  have noDigit : isDigit 'Z' = false := by decide
  -- The digits written are those of `nano` without its last `zeros` ones, which are all zero.
  have digits : ∀ width zeros n, width + zeros = 9 → 0 < width → n < 10 ^ width →
      n * Nat.pow 10 zeros = nano →
        readFraction ('.' :: padded width n ++ 'Z' :: rest) = .ok (nano, 'Z' :: rest) := by
    intro width zeros n total positive fits scaled
    have length := length_padded positive fits
    have inRange : n < Text.int64Bound := by
      have bound : (10 : Nat) ^ width ≤ 10 ^ 9 := Nat.pow_le_pow_right (by decide) (by omega)
      have limit : (10 : Nat) ^ 9 < Text.int64Bound := by decide
      omega
    have short : (padded width n).length ≤ 9 := by omega
    have read := readDigits_padded width n short stops inRange
    have left : 9 - ((padded width n ++ 'Z' :: rest).length - ('Z' :: rest).length) = zeros := by
      rw [List.length_append, length]
      omega
    simp only [List.cons_append, readFraction, read, ok_bind, pure_eq_ok]
    rw [left, scaled]
    simp [noDigit]
  unfold fractionText
  split
  · rename_i zero
    simp [readFraction, zero]
  · split
    · exact digits 3 6 (nano / 1000000) rfl (by decide) (by omega) (by
        change nano / 1000000 * 1000000 = nano
        omega)
    · split
      · exact digits 6 3 (nano / 1000) rfl (by decide) (by omega) (by
          change nano / 1000 * 1000 = nano
          omega)
      · exact digits 9 0 nano rfl (by decide) small (by
          change nano * 1 = nano
          omega)

/-! ## Instants -/

/-- The second that the text of an instant names. -/
def writtenSecond (t : Instant) : Nat :=
  if 1000000000 ≤ t.nano then t.second + 1 else t.second

/-- The nanosecond that the text of an instant names. -/
def writtenNano (t : Instant) : Nat :=
  if 1000000000 ≤ t.nano then t.nano - 1000000000 else t.nano

/-- The instant that the text of an instant names. -/
def reread (t : Instant) : Instant :=
  if minuteGoesOn : t.writtenSecond < 60 then
    { t with
      second := t.writtenSecond
      nano := t.writtenNano
      valid := by
        rcases t.valid with ⟨low, high, month, months, day, days, hour, minute, second, nano⟩
        have small : t.writtenNano < 2000000000 := by
          unfold writtenNano
          split <;> omega
        exact ⟨low, high, month, months, day, days, hour, minute, minuteGoesOn, small⟩ }
  else t

/-- An instant outside of leap seconds is the one that its text names. -/
theorem reread_of_nano_lt {t : Instant} (noLeap : t.nano < 1000000000) : t.reread = t := by
  have goesOn : t.second < 60 := t.valid.2.2.2.2.2.2.2.2.1
  have noLeap' : ¬ 1000000000 ≤ t.nano := by omega
  have second : t.writtenSecond = t.second := if_neg noLeap'
  have nano : t.writtenNano = t.nano := if_neg noLeap'
  simp only [reread, second, nano, goesOn, dif_pos]

/-- An instant in the last second of a minute is the one that its text names, leap second or not. -/
theorem reread_of_last {t : Instant} (last : t.second = 59) : t.reread = t := by
  by_cases leap : 1000000000 ≤ t.nano
  · have sixty : t.writtenSecond = 60 := by
      rw [writtenSecond, if_pos leap, last]
    simp only [reread, sixty, Nat.lt_irrefl, dif_neg, not_false_eq_true]
  · exact reread_of_nano_lt (Nat.lt_of_not_le leap)

/-- The fields that are read make up the instant that the text names. -/
theorem ofFields?_written (t : Instant) :
    ofFields? t.year t.month t.day t.hour t.minute
        (if t.writtenSecond = 60 then (59, t.writtenNano + 1000000000)
          else (t.writtenSecond, t.writtenNano)).1
        (if t.writtenSecond = 60 then (59, t.writtenNano + 1000000000)
          else (t.writtenSecond, t.writtenNano)).2 =
      some t.reread := by
  rcases t.valid with ⟨low, high, month, months, day, days, hour, minute, second, nano⟩
  by_cases goesOn : t.writtenSecond < 60
  · have noLeap : t.writtenSecond ≠ 60 := by omega
    have small : t.writtenNano < 2000000000 := by
      unfold writtenNano
      split <;> omega
    have valid : IsValid t.year t.month t.day t.hour t.minute t.writtenSecond t.writtenNano :=
      ⟨low, high, month, months, day, days, hour, minute, goesOn, small⟩
    simp [ofFields?, noLeap, valid, reread, goesOn]
  · have leap : 1000000000 ≤ t.nano ∧ t.second = 59 := by
      unfold writtenSecond at goesOn
      split at goesOn <;> omega
    have last : t.writtenSecond = 60 := by
      simp [writtenSecond, leap]
    have count : t.writtenNano + 1000000000 = t.nano := by
      simp only [writtenNano, leap.1, if_true]
      omega
    have valid := t.valid
    rw [leap.2] at valid
    simp only [ofFields?, last, count, if_true, valid, reread, Nat.lt_irrefl, dif_pos, dif_neg,
      not_false_eq_true]
    rcases t with ⟨year, month, day, hour, minute, second, nano, valid⟩
    simp_all

/-- The local time of a place without offset is the instant itself. -/
theorem ofLocal?_zero (t : Instant) : t.ofLocal? 0 = some t := by
  rcases t.valid with ⟨low, high, month, months, day, days, hour, minute, second, nano⟩
  have start : ¬ ((t.hour * 3600 + t.minute * 60 + t.second : Nat) : Int) - 0 < 0 := by omega
  have stop : ¬ 86400 ≤ ((t.hour * 3600 + t.minute * 60 + t.second : Nat) : Int) - 0 := by omega
  have rest : ((((t.hour * 3600 + t.minute * 60 + t.second : Nat) : Int) - 0) % 86400).toNat =
      t.hour * 3600 + t.minute * 60 + t.second := by
    omega
  have hours : (t.hour * 3600 + t.minute * 60 + t.second) / 3600 = t.hour := by omega
  have minutes : (t.hour * 3600 + t.minute * 60 + t.second) / 60 % 60 = t.minute := by omega
  have seconds : (t.hour * 3600 + t.minute * 60 + t.second) % 60 = t.second := by omega
  simp only [ofLocal?, start, stop, if_false, Option.bind_eq_bind, Option.bind_some, rest, hours,
    minutes, seconds, ofFields?, t.valid, dif_pos]

/-- All fields of an instant are read back from its text. -/
theorem readFields_text (t : Instant) : readFields t.text = .ok ((t.reread, 0), []) := by
  rcases t.valid with ⟨low, high, month, months, day, days, hour, minute, second, nano⟩
  have shortMonth : t.day ≤ 31 := by
    have most : daysInMonth t.year t.month ≤ 31 := by
      unfold daysInMonth
      repeat' split
      all_goals omega
    omega
  have writtenSecond : t.writtenSecond ≤ 60 := by
    unfold writtenSecond
    split <;> omega
  have writtenNano : t.writtenNano < 1000000000 := by
    unfold writtenNano
    split <;> omega
  have dash : ∀ rest, StopsDigits ('-' :: rest) := stopsDigits_cons (by decide)
  have colon : ∀ rest, StopsDigits (':' :: rest) := stopsDigits_cons (by decide)
  have timeMark : ∀ rest, StopsDigits ('T' :: rest) := stopsDigits_cons (by decide)
  have fraction : StopsDigits (fractionText t.writtenNano ++ ['Z']) := by
    unfold fractionText
    repeat' split
    all_goals exact stopsDigits_cons (by decide) _
  have zone : readOffset ['Z'] = .ok (0, []) := rfl
  have visible : Text.trimStart ['Z'] = ['Z'] := rfl
  have text : t.text =
      yearText t.year ++ ('-' :: (padded 2 t.month ++ ('-' :: (padded 2 t.day ++
        ('T' :: (padded 2 t.hour ++ (':' :: (padded 2 t.minute ++
          (':' :: (padded 2 t.writtenSecond ++ (fractionText t.writtenNano ++ ['Z']))))))))))) := by
    simp [Instant.text, Instant.writtenSecond, Instant.writtenNano]
  rw [text, readFields]
  simp only [Fallible.ok_bind, Fallible.pure_eq_ok, readYear_yearText low high (dash _),
    readMark_cons (show Text.isBlank '-' = false by decide),
    readField_padded ⟨month, months⟩ (by omega) (dash _),
    readField_padded ⟨day, shortMonth⟩ (by omega) (timeMark _), readTimeMark_cons,
    readField_padded ⟨Nat.zero_le _, Nat.le_of_lt_succ hour⟩ (by omega) (colon _),
    readMark_cons (show Text.isBlank ':' = false by decide),
    readField_padded ⟨Nat.zero_le _, Nat.le_of_lt_succ minute⟩ (by omega) (colon _),
    readField_padded ⟨Nat.zero_le _, writtenSecond⟩ (by omega) fraction,
    readFraction_fractionText writtenNano [], visible, zone]
  simp [ofFields?_written, Text.trimStart]

/-- The text of an instant is read as the instant that it names. -/
theorem parse_text (t : Instant) : parse t.text = .ok t.reread := by
  simp [parse, readFields_text, ofLocal?_zero]

end SessionBus.Instant
