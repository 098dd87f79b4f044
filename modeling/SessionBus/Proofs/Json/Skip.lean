import SessionBus.Json.Skip
import SessionBus.Proofs.Json.RoundTrip

/-!
# Passing over documents that were written

The value of a member that a record does not know is passed over and not read.  Of a document with
integers that was written all is passed over, and nothing behind it.

Passing over a text takes no more rounds than the text has characters, so the clock, which has more,
does not run out.  `Passes` keeps account of both, and is put together along the document.
-/

namespace SessionBus.Json

/-! ## Values without brackets -/

/-- After the digits of a whole number nothing is passed over. -/
theorem skipTail_of_ends {rest : List Char} (ends : EndsNumber rest) :
    skipTail rest = .ok ((), rest) := by
  unfold skipTail
  split
  · exact absurd rfl (ends _ rfl).2.1
  · unfold skipScale
    split
    · exact absurd rfl (ends _ rfl).2.2.1
    · exact absurd rfl (ends _ rfl).2.2.2
    · rfl

theorem skipUnsigned_toDigits {rest : List Char} (ends : EndsNumber rest) (n : Nat) :
    skipUnsigned (Nat.toDigits 10 n ++ rest) = .ok ((), rest) := by
  cases digits : Nat.toDigits 10 n with
  | nil =>
      exact absurd digits Nat.toDigits_ne_nil
  | cons first more =>
      have all : ∀ c ∈ first :: more, isDigit c = true := by
        intro c member
        exact isDigit_of_mem_toDigits (digits ▸ member)
      have firstIsDigit : isDigit first = true := all first List.mem_cons_self
      by_cases zero : n = 0
      · subst zero
        rw [Nat.toDigits_zero] at digits
        cases digits
        have stop : (rest.head?.map isDigit).getD false = false := by
          cases rest with
          | nil =>
              rfl
          | cons c rest =>
              exact (ends c rfl).1
        simp [skipUnsigned, stop, skipTail_of_ends ends]
      · have notZero : first ≠ '0' := by
          have front := head?_toDigits (Nat.pos_of_ne_zero zero)
          rw [digits] at front
          simpa using front
        have skipped := skipDigits_append
          (fun c member => all c (List.mem_cons_of_mem first member)) ends.stopsDigits
        simp [skipUnsigned, notZero, firstIsDigit, skipped, skipTail_of_ends ends]

/-- The written form of a character is passed over in one round. -/
theorem skipString_escapedChar
    (tick : Char) (clock : List Char) (c : Char) (rest : List Char) :
    skipString (tick :: clock) (escapedChar c ++ rest) = skipString clock rest := by
  unfold escapedChar
  repeat' split
  · simp [skipString, skipEscape]
  · simp [skipString, skipEscape]
  · rename_i noQuote noBackslash printable
    have noControl : ¬ c.toNat < 0x20 := Nat.not_lt.mpr printable
    simp [skipString, noQuote, noBackslash, noControl]
  · simp [skipString, skipEscape]
  · simp [skipString, skipEscape]
  · simp [skipString, skipEscape]
  · simp [skipString, skipEscape]
  · simp [skipString, skipEscape]
  · rename_i control _ _ _ _ _
    have unit := readHexUnit_control (Nat.lt_of_not_le control) rest
    simp [skipString, skipEscape, unit]

theorem skipString_written
    {chars clock : List Char} (enough : chars.length < clock.length) (rest : List Char) :
    skipString clock (chars.flatMap escapedChar ++ '"' :: rest) = .ok ((), rest) := by
  induction chars generalizing clock with
  | nil =>
      cases clock with
      | nil =>
          simp at enough
      | cons tick clock =>
          simp [skipString]
  | cons c chars ih =>
      cases clock with
      | nil =>
          simp at enough
      | cons tick clock =>
          have enoughLeft : chars.length < clock.length := by
            simpa using enough
          rw [List.flatMap_cons, List.append_assoc, skipString_escapedChar, ih enoughLeft]

/-- Any string is passed over, the opening quote being passed already. -/
theorem skipString_quoted (text : String) (rest : List Char) :
    skipString (text.toList.flatMap escapedChar ++ '"' :: rest)
      (text.toList.flatMap escapedChar ++ '"' :: rest) = .ok ((), rest) := by
  apply skipString_written
  have shorter := length_le_length_flatMap_escapedChar text.toList
  simp only [List.length_append, List.length_cons]
  omega

/-- An integer is passed over. -/
theorem skipHead_integer (n : Int) {rest : List Char} (ends : EndsNumber rest) :
    skipHead ((Json.number (.integer n)).written ++ rest) = .ok (none, rest) := by
  cases n with
  | ofNat n =>
      have unsigned := skipUnsigned_toDigits ends n
      cases digits : Nat.toDigits 10 n with
      | nil =>
          exact absurd digits Nat.toDigits_ne_nil
      | cons first more =>
          have isOne : isDigit first = true :=
            isDigit_of_mem_toDigits (by rw [digits]; exact List.mem_cons_self)
          have noLetter : first ≠ 'n' ∧ first ≠ 't' ∧ first ≠ 'f' ∧ first ≠ '-' := by
            refine ⟨?_, ?_, ?_, ?_⟩ <;> rintro rfl <;> exact absurd isOne (by decide)
          rw [digits, List.cons_append] at unsigned
          simp [written, Number.text, digits, skipHead,
            skipSpace_cons (isSpace_of_isDigit isOne), noLetter, isOne, unsigned,
            Except.map]
  | negSucc n =>
      have unsigned := skipUnsigned_toDigits ends (n + 1)
      simp [written, Number.text, skipHead,
        skipSpace_cons (show isSpace '-' = false by decide), unsigned, Except.map]

/-- A value without brackets is passed over. -/
theorem skipHead_written
    {document : Json} (leaf : document.isLeaf = true) (portable : document.onlyIntegers = true)
    {rest : List Char} (ends : EndsNumber rest) :
    skipHead (document.written ++ rest) = .ok (none, rest) := by
  cases document with
  | null =>
      simp [written, skipHead, skipSpace_cons (show isSpace 'n' = false by decide), readIdent,
        Except.map]
  | bool b =>
      cases b with
      | true =>
          simp [written, skipHead, skipSpace_cons (show isSpace 't' = false by decide), readIdent,
            Except.map]
      | false =>
          simp [written, skipHead, skipSpace_cons (show isSpace 'f' = false by decide), readIdent,
            Except.map]
  | number n =>
      cases n with
      | integer n =>
          exact skipHead_integer n ends
      | float x =>
          simp [onlyIntegers] at portable
  | string s =>
      have text := skipString_quoted s rest
      have noDigit : isDigit '"' = false := by decide
      simp [written, quotedText, skipHead, skipSpace_cons (show isSpace '"' = false by decide),
        noDigit, text, Except.map]
  | array items =>
      simp [isLeaf] at leaf
  | object members =>
      simp [isLeaf] at leaf

/-! ## Brackets -/

/-- From inside some brackets, a text is passed over up to a point after a value inside others, in no
more rounds than it has characters. -/
def Passes (inside : List Bracket) (wanted : Bool) (text : List Char) (outside : List Bracket)
    (rest : List Char) : Prop :=
  ∀ clock : List Char, text.length ≤ clock.length →
    ∃ left : List Char, clock.length ≤ left.length + text.length ∧
      skipFrom clock inside wanted (text ++ rest) = skipFrom left outside false rest

theorem Passes.trans
    {inside between outside : List Bracket} {wanted : Bool} {first second rest : List Char}
    (one : Passes inside wanted first between (second ++ rest))
    (two : Passes between false second outside rest) :
    Passes inside wanted (first ++ second) outside rest := by
  intro clock enough
  rw [List.length_append] at enough
  rcases one clock (Nat.le_trans (Nat.le_add_right _ _) enough) with ⟨middle, ticks, same⟩
  rcases two middle (by omega) with ⟨left, more, sameToo⟩
  refine ⟨left, ?_, ?_⟩
  · rw [List.length_append]
    omega
  · rw [List.append_assoc, same, sameToo]

/-- A round that passes over some characters is one of as many. -/
theorem Passes.round
    {inside between outside : List Bracket} {wanted goesOn : Bool}
    {mark text rest : List Char} (some : mark ≠ [])
    (round : ∀ tick clock, skipFrom (tick :: clock) inside wanted (mark ++ (text ++ rest)) =
      skipFrom clock between goesOn (text ++ rest))
    (later : Passes between goesOn text outside rest) :
    Passes inside wanted (mark ++ text) outside rest := by
  intro clock enough
  have one := List.length_pos_iff.mpr some
  rw [List.length_append] at enough
  cases clock with
  | nil =>
      rw [List.length_nil] at enough
      omega
  | cons tick clock =>
      rw [List.length_cons] at enough
      rcases later clock (by omega) with ⟨left, ticks, same⟩
      refine ⟨left, ?_, ?_⟩
      · rw [List.length_append, List.length_cons]
        omega
      · rw [List.append_assoc, round, same]

/-- Nothing is passed over in no round. -/
theorem Passes.nil (outside : List Bracket) (rest : List Char) :
    Passes outside false [] outside rest :=
  fun clock _ => ⟨clock, Nat.le_refl _, rfl⟩

/-- A round in which the rest of a text is passed over. -/
theorem Passes.last
    {inside outside : List Bracket} {wanted : Bool} {mark rest : List Char} (some : mark ≠ [])
    (round : ∀ tick clock, skipFrom (tick :: clock) inside wanted (mark ++ rest) =
      skipFrom clock outside false rest) :
    Passes inside wanted mark outside rest := by
  have whole := Passes.round some round (.nil outside rest)
  rw [List.append_nil] at whole
  exact whole

/-- The end of a bracket is passed over after a value. -/
theorem Passes.close (bracket : Bracket) (around : List Bracket) (rest : List Char) :
    Passes (bracket :: around) false [bracket.closer] around rest := by
  apply Passes.last (List.cons_ne_nil _ _)
  intro tick clock
  cases bracket <;> simp [skipFrom, Bracket.closer, skipSpace, isSpace]

/-- An empty array or object is passed over in one round. -/
theorem Passes.empty (bracket : Bracket) (opening : Char)
    (head : ∀ rest, skipHead (opening :: rest) = .ok (some bracket, rest))
    (around : List Bracket) (rest : List Char) :
    Passes around true [opening, bracket.closer] around rest := by
  apply Passes.last (List.cons_ne_nil _ _)
  intro tick clock
  have opened := head (bracket.closer :: rest)
  have visible : skipSpace (bracket.closer :: rest) = bracket.closer :: rest := by
    cases bracket <;> exact skipSpace_cons (by decide) rest
  simp [skipFrom, opened, visible]

/-- The name in front of a value is passed over. -/
theorem skipName_quoted (name : String) (rest : List Char) :
    skipName .object (quotedText name ++ ':' :: rest) = .ok ((), rest) := by
  have text := skipString_quoted name (':' :: rest)
  simp [skipName, quotedText, skipSpace_cons (show isSpace '"' = false by decide), text,
    readColon_cons]

theorem skipHead_bracket (rest : List Char) : skipHead ('[' :: rest) = .ok (some .array, rest) := by
  simp [skipHead, skipSpace_cons (show isSpace '[' = false by decide), isDigit]

theorem skipHead_brace (rest : List Char) :
    skipHead ('\x7b' :: rest) = .ok (some .object, rest) := by
  simp [skipHead, skipSpace_cons (show isSpace '\x7b' = false by decide), isDigit]

/-- The first item of an array is passed over to. -/
theorem skipFrom_bracket
    {text : List Char} (starts : StartsValue text) (tick : Char) (clock : List Char)
    (around : List Bracket) :
    skipFrom (tick :: clock) around true ('[' :: text) =
      skipFrom clock (.array :: around) true text := by
  rcases starts with ⟨c, rest, rfl, visible, noBracket⟩
  simp [skipFrom, skipHead_bracket, skipSpace_cons visible, Bracket.closer, noBracket, skipName]

/-- The first value of an object is passed over to. -/
theorem skipFrom_brace
    (name : String) (rest : List Char) (tick : Char) (clock : List Char)
    (around : List Bracket) :
    skipFrom (tick :: clock) around true ('\x7b' :: (quotedText name ++ ':' :: rest)) =
      skipFrom clock (.object :: around) true rest := by
  have named : skipName .object ('"' :: (name.toList.flatMap escapedChar ++ '"' :: ':' :: rest)) =
      .ok ((), rest) := by
    simpa [quotedText] using skipName_quoted name rest
  simp [skipFrom, skipHead_brace, quotedText, skipSpace_cons (show isSpace '"' = false by decide),
    Bracket.closer, named]

/-- After a comma the next item is passed over to. -/
theorem skipFrom_comma_item
    (text : List Char) (tick : Char) (clock : List Char) (around : List Bracket) :
    skipFrom (tick :: clock) (.array :: around) false (',' :: text) =
      skipFrom clock (.array :: around) true text := by
  simp [skipFrom, skipSpace_cons (show isSpace ',' = false by decide), skipName]

/-- After a comma and a name the next value is passed over to. -/
theorem skipFrom_comma_member
    (name : String) (rest : List Char) (tick : Char) (clock : List Char)
    (around : List Bracket) :
    skipFrom (tick :: clock) (.object :: around) false (',' :: (quotedText name ++ ':' :: rest)) =
      skipFrom clock (.object :: around) true rest := by
  simp [skipFrom, skipSpace_cons (show isSpace ',' = false by decide), skipName_quoted]

/-! ## Documents -/

theorem StartsValue.append {text : List Char} (starts : StartsValue text) (rest : List Char) :
    StartsValue (text ++ rest) := by
  rcases starts with ⟨c, more, rfl, visible, noBracket⟩
  exact ⟨c, more ++ rest, rfl, visible, noBracket⟩

theorem passes_leaf
    {document : Json} (leaf : document.isLeaf = true) (portable : document.onlyIntegers = true)
    (around : List Bracket) {rest : List Char} (ends : EndsNumber rest) :
    Passes around true document.written around rest := by
  apply Passes.last
  · rcases startsValue_written document with ⟨c, more, equal, _⟩
    rw [equal]
    exact List.cons_ne_nil c more
  · intro tick clock
    simp [skipFrom, skipHead_written leaf portable ends]

mutual

/-- All of a document is passed over. -/
theorem passes_written (around : List Bracket) :
    (document : Json) → document.onlyIntegers = true → ∀ rest, EndsNumber rest →
      Passes around true document.written around rest
  | .null, portable, _, ends => passes_leaf rfl portable around ends
  | .bool _, portable, _, ends => passes_leaf rfl portable around ends
  | .number _, portable, _, ends => passes_leaf rfl portable around ends
  | .string _, portable, _, ends => passes_leaf rfl portable around ends
  | .array [], _, rest, _ => Passes.empty .array '[' skipHead_bracket around rest
  | .object [], _, rest, _ => Passes.empty .object '\x7b' skipHead_brace around rest
  | .array (item :: others), portable, rest, _ => by
      simp only [onlyIntegers, itemsOnlyIntegers, Bool.and_eq_true] at portable
      have ends : EndsNumber (writtenItems false others ++ [']'] ++ rest) := by
        rw [List.append_assoc]
        exact endsNumber_writtenItems others rest
      have items := (passes_written (.array :: around) item portable.1 _ ends).trans
        (passes_writtenItems around others portable.2 rest)
      have starts := ((startsValue_written item).append (writtenItems false others ++ [']'])).append
        rest
      have whole := items.round (List.cons_ne_nil '[' []) fun tick clock =>
        skipFrom_bracket starts tick clock around
      simpa [written, writtenItems] using whole
  | .object ((name, value) :: others), portable, rest, _ => by
      simp only [onlyIntegers, membersOnlyIntegers, Bool.and_eq_true] at portable
      have ends : EndsNumber (writtenMembers false others ++ ['\x7d'] ++ rest) := by
        rw [List.append_assoc]
        exact endsNumber_writtenMembers others rest
      have members := (passes_written (.object :: around) value portable.1 _ ends).trans
        (passes_writtenMembers around others portable.2 rest)
      have whole := members.round (List.cons_ne_nil '\x7b' (quotedText name ++ [':']))
        fun tick clock => by
          simpa using skipFrom_brace name _ tick clock around
      simpa [written, writtenMembers] using whole

/-- All of the items of an array, behind the first one, are passed over with the bracket. -/
theorem passes_writtenItems (around : List Bracket) :
    (items : List Json) → itemsOnlyIntegers items = true → ∀ rest,
      Passes (.array :: around) false (writtenItems false items ++ [']']) around rest
  | [], _, rest => Passes.close .array around rest
  | item :: others, portable, rest => by
      simp only [itemsOnlyIntegers, Bool.and_eq_true] at portable
      have ends : EndsNumber (writtenItems false others ++ [']'] ++ rest) := by
        rw [List.append_assoc]
        exact endsNumber_writtenItems others rest
      have items := (passes_written (.array :: around) item portable.1 _ ends).trans
        (passes_writtenItems around others portable.2 rest)
      have whole := items.round (List.cons_ne_nil ',' []) fun tick clock => by
        simpa using skipFrom_comma_item _ tick clock around
      simpa [writtenItems] using whole

/-- All of the members of an object, behind the first one, are passed over with the brace. -/
theorem passes_writtenMembers (around : List Bracket) :
    (members : List (String × Json)) → membersOnlyIntegers members = true → ∀ rest,
      Passes (.object :: around) false (writtenMembers false members ++ ['\x7d']) around rest
  | [], _, rest => Passes.close .object around rest
  | (name, value) :: others, portable, rest => by
      simp only [membersOnlyIntegers, Bool.and_eq_true] at portable
      have ends : EndsNumber (writtenMembers false others ++ ['\x7d'] ++ rest) := by
        rw [List.append_assoc]
        exact endsNumber_writtenMembers others rest
      have members := (passes_written (.object :: around) value portable.1 _ ends).trans
        (passes_writtenMembers around others portable.2 rest)
      have whole := members.round (List.cons_ne_nil ',' (quotedText name ++ [':']))
        fun tick clock => by
          simpa using skipFrom_comma_member name _ tick clock around
      simpa [writtenMembers] using whole

end

/-- A document with integers is passed over. -/
theorem skipValue_written
    {document : Json} (portable : document.onlyIntegers = true) {rest : List Char}
    (ends : EndsNumber rest) :
    skipValue (document.written ++ rest) = .ok ((), rest) := by
  have enough : document.written.length + 2 ≤
      (' ' :: ' ' :: (document.written ++ rest)).length := by
    simp only [List.length_cons, List.length_append]
    omega
  rcases passes_written [] document portable rest ends (' ' :: ' ' :: (document.written ++ rest))
    (by omega) with ⟨left, ticks, same⟩
  rw [skipValue, same]
  cases left with
  | nil =>
      rw [List.length_nil] at ticks
      omega
  | cons tick clock =>
      simp [skipFrom]

end SessionBus.Json
