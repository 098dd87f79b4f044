import SessionBus.Proofs.Json.Scalar

/-!
# Numerals

Every number is written as a numeral: a sign, digits, and perhaps a point with digits and an
exponent.  A reader that makes a number of a numeral at all takes the whole of it and nothing else,
whatever the number is; so the text around a number is never misread because of it.
-/

namespace SessionBus.Json

/-! ## Digits -/

theorem skipDigits_append
    {digits rest : List Char} (all : ∀ c ∈ digits, isDigit c = true) (stops : StopsDigits rest) :
    skipDigits (digits ++ rest) = rest := by
  unfold skipDigits
  rw [List.dropWhile_append_of_pos all]
  cases rest with
  | nil =>
      rfl
  | cons c rest =>
      rw [List.dropWhile_cons, if_neg (Bool.eq_false_iff.mp (stops c rfl))]

/-- A reader with a bound takes the first digits of a run and leaves the others. -/
theorem takeDigits_leaves
    {digits rest : List Char} (all : ∀ c ∈ digits, isDigit c = true) (stops : StopsDigits rest)
    (start count : Nat) :
    ∃ value taken left, (∀ c ∈ left, isDigit c = true) ∧
      takeDigits start count (digits ++ rest) = (value, taken, left ++ rest) := by
  induction digits generalizing start count with
  | nil =>
      refine ⟨start, count, [], nofun, ?_⟩
      cases rest with
      | nil =>
          rfl
      | cons c rest =>
          have stop : isDigit c = false := stops c rfl
          simp [takeDigits, stop]
  | cons c digits ih =>
      have allLater : ∀ d ∈ digits, isDigit d = true :=
        fun d inside => all d (List.mem_cons_of_mem c inside)
      rw [List.cons_append, takeDigits]
      split
      · exact ih allLater _ _
      · exact ⟨start, count, c :: digits, all, rfl⟩

/-- A reader of an exponent takes its digits, or stops among them where it reaches its bound. -/
theorem takeExponent_leaves
    {digits rest : List Char} (all : ∀ c ∈ digits, isDigit c = true) (stops : StopsDigits rest)
    (start : Nat) :
    ∃ value endless left, (∀ c ∈ left, isDigit c = true) ∧ (endless = false → left = []) ∧
      takeExponent start (digits ++ rest) = (value, endless, left ++ rest) := by
  induction digits generalizing start with
  | nil =>
      refine ⟨start, false, [], nofun, fun _ => rfl, ?_⟩
      cases rest with
      | nil =>
          rfl
      | cons c rest =>
          have stop : isDigit c = false := stops c rfl
          simp [takeExponent, stop]
  | cons c digits ih =>
      have allLater : ∀ d ∈ digits, isDigit d = true :=
        fun d inside => all d (List.mem_cons_of_mem c inside)
      have isOne : isDigit c = true := all c List.mem_cons_self
      rw [List.cons_append, takeExponent, if_pos isOne]
      split
      · exact ih allLater _
      · exact ⟨start, true, digits, allLater, nofun, rfl⟩

/-! ## The parts of a numeral -/

/-- An exponent, or nothing. -/
def IsScale (text : List Char) : Prop :=
  text = [] ∨
    ∃ sign digits, text = 'e' :: (sign ++ digits) ∧ (sign = ['+'] ∨ sign = ['-']) ∧
      digits ≠ [] ∧ ∀ c ∈ digits, isDigit c = true

/-- What may follow the integer part: a point with digits, an exponent, both or nothing. -/
def IsTail (text : List Char) : Prop :=
  IsScale text ∨
    ∃ digits scale, text = '.' :: (digits ++ scale) ∧ (∀ c ∈ digits, isDigit c = true) ∧
      IsScale scale

/-- A number as it is written. -/
def IsNumeral (text : List Char) : Prop :=
  ∃ sign digits tail, text = sign ++ (digits ++ tail) ∧ (sign = [] ∨ sign = ['-']) ∧
    digits ≠ [] ∧ (∀ c ∈ digits, isDigit c = true) ∧ IsTail tail

/-- A reader that yields something on a text has taken all of it and nothing behind it. -/
def Consumes {α : Type} (reader : Reader α) (text : List Char) : Prop :=
  ∀ rest, EndsNumber rest → ∀ result left, reader (text ++ rest) = .ok (result, left) → left = rest

theorem IsScale.stopsDigits
    {scale rest : List Char} (isScale : IsScale scale) (ends : EndsNumber rest) :
    StopsDigits (scale ++ rest) := by
  rcases isScale with rfl | ⟨sign, digits, rfl, _⟩
  · exact ends.stopsDigits
  · rintro c ⟨⟩
    decide

theorem IsTail.stopsDigits
    {tail rest : List Char} (isTail : IsTail tail) (ends : EndsNumber rest) :
    StopsDigits (tail ++ rest) := by
  rcases isTail with isScale | ⟨digits, scale, rfl, _⟩
  · exact isScale.stopsDigits ends
  · rintro c ⟨⟩
    decide

/-! ## Reading them -/

theorem finishFloat_left
    {negative : Bool} {significand : Nat} {exponent : Int} {rest left : List Char} {x : Number}
    (read : finishFloat negative significand exponent rest = .ok (x, left)) : left = rest := by
  unfold finishFloat at read
  split at read
  · cases read
    rfl
  · cases read

theorem readExponent_left
    {negative : Bool} {significand : Nat} {start : Int} {sign digits rest left : List Char}
    {x : Number} (signed : sign = ['+'] ∨ sign = ['-']) (some : digits ≠ [])
    (all : ∀ c ∈ digits, isDigit c = true) (ends : EndsNumber rest)
    (read : readExponent negative significand start (sign ++ digits ++ rest) = .ok (x, left)) :
    left = rest := by
  cases digits with
  | nil =>
      exact absurd rfl some
  | cons first digits =>
      have allLater : ∀ c ∈ digits, isDigit c = true :=
        fun c inside => all c (List.mem_cons_of_mem first inside)
      have isOne : isDigit first = true := all first List.mem_cons_self
      rcases takeExponent_leaves allLater ends.stopsDigits (digitValue first) with
        ⟨value, endless, others, allOthers, none, taken⟩
      have skipped := skipDigits_append allOthers ends.stopsDigits
      have unsigned : ∃ down, takeSign (sign ++ (first :: digits) ++ rest) =
          (down, first :: (digits ++ rest)) := by
        rcases signed with rfl | rfl
        · exact ⟨false, rfl⟩
        · exact ⟨true, rfl⟩
      rcases unsigned with ⟨down, unsigned⟩
      simp only [readExponent, unsigned, isOne, if_true, taken, skipped] at read
      cases endless with
      | true =>
          simp only [if_true] at read
          split at read
          · cases read
          · cases read
            rfl
      | false =>
          obtain rfl := none rfl
          exact finishFloat_left read

theorem readScale_left
    {negative : Bool} {significand : Nat} {exponent : Int} {scale rest left : List Char}
    {x : Number} (isScale : IsScale scale) (ends : EndsNumber rest)
    (read : readScale negative significand exponent (scale ++ rest) = .ok (x, left)) :
    left = rest := by
  rcases isScale with rfl | ⟨sign, digits, rfl, signed, some, all⟩
  · rw [List.nil_append] at read
    unfold readScale at read
    split at read
    · exact absurd rfl (ends _ rfl).2.2.1
    · exact absurd rfl (ends _ rfl).2.2.2
    · exact finishFloat_left read
  · exact readExponent_left signed some all ends read

theorem readFraction_left
    {negative : Bool} {significand : Nat} {exponent : Int} {digits scale rest left : List Char}
    {x : Number} (all : ∀ c ∈ digits, isDigit c = true) (isScale : IsScale scale)
    (ends : EndsNumber rest)
    (read : readFraction negative significand exponent (digits ++ scale ++ rest) = .ok (x, left)) :
    left = rest := by
  have stops := isScale.stopsDigits ends
  rcases takeDigits_leaves all stops significand 0 with ⟨value, count, others, allOthers, taken⟩
  have skipped := skipDigits_append allOthers stops
  rw [← List.append_assoc] at taken
  unfold readFraction at read
  split at read
  · cases read
  · split at read
    · simp only [taken, skipped] at read
      exact readScale_left isScale ends read
    · cases read

theorem readTail_left
    {negative : Bool} {significand : Nat} {tail rest left : List Char} {x : Number}
    (isTail : IsTail tail) (ends : EndsNumber rest)
    (read : readTail negative significand (tail ++ rest) = .ok (x, left)) : left = rest := by
  rcases isTail with (rfl | ⟨sign, digits, rfl, signed, some, all⟩) |
    ⟨digits, scale, rfl, all, isScale⟩
  · rw [List.nil_append] at read
    unfold readTail at read
    split at read
    · exact absurd rfl (ends _ rfl).2.1
    · exact absurd rfl (ends _ rfl).2.2.1
    · exact absurd rfl (ends _ rfl).2.2.2
    · split at read
      · cases read
        rfl
      · split at read
        · exact finishFloat_left read
        · cases read
          rfl
  · exact readExponent_left signed some all ends read
  · exact readFraction_left all isScale ends read

theorem readLongTail_left
    {negative : Bool} {significand : Nat} {others tail rest left : List Char} {x : Number}
    (all : ∀ c ∈ others, isDigit c = true) (isTail : IsTail tail) (ends : EndsNumber rest)
    (read : readLongTail negative significand (others ++ (tail ++ rest)) = .ok (x, left)) :
    left = rest := by
  have skipped := skipDigits_append all (isTail.stopsDigits ends)
  simp only [readLongTail, skipped] at read
  rcases isTail with isScale | ⟨digits, scale, rfl, allDigits, isScale⟩
  · split at read
    · rename_i more same
      rcases isScale with rfl | ⟨sign, digits, rfl, _⟩
      · rw [List.nil_append] at same
        exact absurd rfl (ends '.' (by rw [same]; rfl)).2.1
      · cases same
    · exact readScale_left isScale ends read
  · exact readFraction_left allDigits isScale ends read

theorem readUnsigned_left
    {negative : Bool} {digits tail rest left : List Char} {x : Number} (some : digits ≠ [])
    (all : ∀ c ∈ digits, isDigit c = true) (isTail : IsTail tail) (ends : EndsNumber rest)
    (read : readUnsigned negative (digits ++ (tail ++ rest)) = .ok (x, left)) : left = rest := by
  cases digits with
  | nil =>
      exact absurd rfl some
  | cons first digits =>
      have allLater : ∀ c ∈ digits, isDigit c = true :=
        fun c inside => all c (List.mem_cons_of_mem first inside)
      have isOne : isDigit first = true := all first List.mem_cons_self
      have stops := isTail.stopsDigits ends
      simp only [List.cons_append, readUnsigned, isOne, if_true] at read
      split at read
      · -- No digit may follow a zero, so the zero is the whole integer part.
        cases digits with
        | nil =>
            rw [List.nil_append] at read
            split at read
            · rename_i empty
              rw [← empty] at read
              exact readTail_left isTail ends read
            · rename_i d more front
              rw [if_neg (Bool.eq_false_iff.mp (stops d (by rw [front]; rfl))), ← front] at read
              exact readTail_left isTail ends read
        | cons second digits =>
            simp only [List.cons_append, allLater second List.mem_cons_self, if_true] at read
            cases read
      · rcases takeDigits_leaves allLater stops (digitValue first) 1 with
          ⟨value, count, others, allOthers, taken⟩
        simp only [taken] at read
        cases others with
        | nil =>
            rw [List.nil_append] at read
            split at read
            · rename_i empty
              rw [← empty] at read
              exact readTail_left isTail ends read
            · rename_i d more front
              rw [if_neg (Bool.eq_false_iff.mp (stops d (by rw [front]; rfl))), ← front] at read
              exact readTail_left isTail ends read
        | cons second others =>
            simp only [List.cons_append, allOthers second List.mem_cons_self, if_true] at read
            rw [← List.cons_append] at read
            exact readLongTail_left allOthers isTail ends read

/-- A number that is read from a numeral takes the whole numeral. -/
theorem readNumber_consumes {text : List Char} (numeral : IsNumeral text) :
    Consumes readNumber text := by
  intro rest ends x left read
  rcases numeral with ⟨sign, digits, tail, rfl, signed, some, all, isTail⟩
  rw [List.append_assoc, List.append_assoc] at read
  rcases signed with rfl | rfl
  · rw [List.nil_append] at read
    unfold readNumber at read
    split at read
    · rename_i more front
      cases digits with
      | nil =>
          exact absurd rfl some
      | cons first digits =>
          cases front
          exact absurd (all '-' List.mem_cons_self) (by decide)
    · exact readUnsigned_left some all isTail ends read
  · exact readUnsigned_left some all isTail ends read

/-! ## Written numbers -/

theorem toDigits_ne_nil_and_all (n : Nat) :
    Nat.toDigits 10 n ≠ [] ∧ ∀ c ∈ Nat.toDigits 10 n, isDigit c = true :=
  ⟨Nat.toDigits_ne_nil, fun _ inside => isDigit_of_mem_toDigits inside⟩

/-- A zero alone is a run of digits. -/
theorem isDigit_of_mem_zero : ∀ c ∈ ['0'], isDigit c = true := by
  intro c inside
  rw [List.mem_singleton.mp inside]
  rfl

/-- The text of a positive decimal is a numeral without a sign. -/
theorem exists_tail_decimal (d : Decimal) :
    ∃ digits tail, Binary64.Decimal.text d = digits ++ tail ∧ digits ≠ [] ∧
      (∀ c ∈ digits, isDigit c = true) ∧ IsTail tail := by
  rcases toDigits_ne_nil_and_all d.digits with ⟨some, all⟩
  have zeros : ∀ count, ∀ c ∈ List.replicate count '0', isDigit c = true := by
    intro count c inside
    rw [(List.mem_replicate.mp inside).2]
    rfl
  have allTake : ∀ count, ∀ c ∈ (Nat.toDigits 10 d.digits).take count, isDigit c = true :=
    fun count c inside => all c (List.mem_of_mem_take inside)
  have allDrop : ∀ count, ∀ c ∈ (Nat.toDigits 10 d.digits).drop count, isDigit c = true :=
    fun count c inside => all c (List.mem_of_mem_drop inside)
  have someTake : ∀ count, 0 < count → (Nat.toDigits 10 d.digits).take count ≠ [] := by
    intro count positive none
    rcases List.take_eq_nil_iff.mp none with zero | empty
    · omega
    · exact some empty
  unfold Binary64.Decimal.text
  simp only
  split
  · refine ⟨Nat.toDigits 10 d.digits ++ List.replicate (d.point.toNat - d.count) '0', ['.', '0'],
      rfl, ?_, ?_, .inr ⟨['0'], [], rfl, ?_, .inl rfl⟩⟩
    · exact List.append_ne_nil_of_left_ne_nil some _
    · exact List.forall_mem_append.mpr ⟨all, zeros _⟩
    · exact isDigit_of_mem_zero
  · split
    · refine ⟨_, _, rfl, someTake _ ?_, allTake _,
        .inr ⟨_, [], ?_, allDrop d.point.toNat, .inl rfl⟩⟩
      · omega
      · rw [List.append_nil]
    · split
      · refine ⟨['0'], _, rfl, List.cons_ne_nil _ _, isDigit_of_mem_zero,
          .inr ⟨List.replicate (-d.point).toNat '0' ++ Nat.toDigits 10 d.digits, [], ?_, ?_,
            .inl rfl⟩⟩
        · rw [List.append_nil]
          rfl
        · exact List.forall_mem_append.mpr ⟨zeros _, all⟩
      · rcases toDigits_ne_nil_and_all (d.point - 1).natAbs with ⟨someScale, allScale⟩
        have scale : IsScale ('e' :: (if d.point - 1 < 0 then '-' else '+') ::
            Nat.toDigits 10 (d.point - 1).natAbs) := by
          refine .inr ⟨[if d.point - 1 < 0 then '-' else '+'], _, rfl, ?_, someScale, allScale⟩
          split
          · exact .inr rfl
          · exact .inl rfl
        refine ⟨_, _, List.append_assoc _ _ _, someTake 1 Nat.one_pos, allTake 1, ?_⟩
        split
        · exact .inl scale
        · exact .inr ⟨_, _, rfl, allDrop 1, scale⟩

/-- Every number is written as a numeral. -/
theorem isNumeral_text (n : Number) : IsNumeral n.text := by
  cases n with
  | integer n =>
      cases n with
      | ofNat n =>
          rcases toDigits_ne_nil_and_all n with ⟨some, all⟩
          exact ⟨[], _, [], by simp [Number.text], .inl rfl, some, all, .inl (.inl rfl)⟩
      | negSucc n =>
          rcases toDigits_ne_nil_and_all (n + 1) with ⟨some, all⟩
          exact ⟨['-'], _, [], by simp [Number.text], .inr rfl, some, all, .inl (.inl rfl)⟩
  | float x =>
      have signed : ∀ sign : List Char, (sign = [] ∨ sign = ['-']) →
          IsNumeral (if x.isZero then sign ++ ['0', '.', '0']
            else sign ++ Binary64.Decimal.text x.decimal) := by
        intro sign signed
        split
        · exact ⟨sign, ['0'], ['.', '0'], rfl, signed, List.cons_ne_nil _ _, isDigit_of_mem_zero,
            .inr ⟨['0'], [], rfl, isDigit_of_mem_zero, .inl rfl⟩⟩
        · rcases exists_tail_decimal x.decimal with ⟨digits, tail, same, some, all, isTail⟩
          exact ⟨sign, digits, tail, by rw [same], signed, some, all, isTail⟩
      apply signed
      split
      · exact .inr rfl
      · exact .inl rfl

/-- A number starts with a digit or a minus sign. -/
theorem head?_text (n : Number) :
    ∃ c rest, n.text = c :: rest ∧ (c = '-' ∨ isDigit c = true) := by
  rcases isNumeral_text n with ⟨sign, digits, tail, same, rfl | rfl, some, all, _⟩
  · cases digits with
    | nil =>
        exact absurd rfl some
    | cons first digits =>
        exact ⟨first, digits ++ tail, same, .inr (all first List.mem_cons_self)⟩
  · exact ⟨'-', digits ++ tail, same, .inl rfl⟩

end SessionBus.Json
