import SessionBus.Json.Printer
import SessionBus.Proofs.Json.Digits

/-!
# The written form of a document as a list of characters

`Json.compact` appends to a string as it goes; here the same text is built from the written forms of
the parts of a document, which is the shape that readers take apart again.  The main statements say
that the two agree, and that no line feed occurs in them.
-/

namespace SessionBus.Json

/-- The written form of a string, with its quotes. -/
def quotedText (text : String) : List Char :=
  '"' :: (text.toList.flatMap escapedChar ++ ['"'])

mutual

def written : Json → List Char
  | .null => ['n', 'u', 'l', 'l']
  | .bool true => ['t', 'r', 'u', 'e']
  | .bool false => ['f', 'a', 'l', 's', 'e']
  | .number n => n.text
  | .string s => quotedText s
  | .array items => '[' :: (writtenItems true items ++ [']'])
  | .object members => '\x7b' :: (writtenMembers true members ++ ['\x7d'])

/-- The written form of the items of an array, each but the first after a comma. -/
def writtenItems (first : Bool) : List Json → List Char
  | [] => []
  | item :: rest => (if first then [] else [',']) ++ (item.written ++ writtenItems false rest)

/-- The written form of the members of an object, each but the first after a comma. -/
def writtenMembers (first : Bool) : List (String × Json) → List Char
  | [] => []
  | (name, value) :: rest =>
      (if first then [] else [',']) ++
        (quotedText name ++ ':' :: (value.written ++ writtenMembers false rest))

end

@[simp]
theorem toList_pushAll (out : String) (text : List Char) :
    (pushAll out text).toList = out.toList ++ text := by
  induction text generalizing out with
  | nil =>
      simp [pushAll]
  | cons c rest ih =>
      have later := ih (out.push c)
      simp only [pushAll, List.foldl_cons] at later ⊢
      simp [later]

@[simp]
theorem toList_pushString (out text : String) :
    (pushString out text).toList = out.toList ++ quotedText text := by
  have inner : ∀ (chars : List Char) (out : String),
      (chars.foldl (fun out c => pushAll out (escapedChar c)) out).toList =
        out.toList ++ chars.flatMap escapedChar := by
    intro chars
    induction chars with
    | nil =>
        simp
    | cons c rest ih =>
        intro out
        simp [ih, List.flatMap_cons]
  simp [pushString, quotedText, inner]

/-- The text after the separator in front of an item or member. -/
theorem toList_separated (out : String) (first : Bool) :
    (if first then out else out.push ',').toList =
      out.toList ++ (if first then [] else [',']) := by
  cases first <;> simp

mutual

/-- Appending a document appends its written form. -/
theorem toList_pushCompact (out : String) :
    (document : Json) → (pushCompact out document).toList = out.toList ++ document.written
  | .null => by simp [pushCompact, written]
  | .bool true => by simp [pushCompact, written]
  | .bool false => by simp [pushCompact, written]
  | .number n => by simp [pushCompact, written]
  | .string s => by simp [pushCompact, written]
  | .array items => by
      simp [pushCompact, written, toList_pushCompactItems (out.push '[') true items]
  | .object members => by
      simp [pushCompact, written, toList_pushCompactMembers (out.push '\x7b') true members]

theorem toList_pushCompactItems (out : String) (first : Bool) :
    (items : List Json) →
      (pushCompactItems out first items).toList = out.toList ++ writtenItems first items
  | [] => by simp [pushCompactItems, writtenItems]
  | item :: rest => by
      simp only [pushCompactItems, writtenItems]
      rw [toList_pushCompactItems _ false rest, toList_pushCompact _ item, toList_separated]
      simp

theorem toList_pushCompactMembers (out : String) (first : Bool) :
    (members : List (String × Json)) →
      (pushCompactMembers out first members).toList = out.toList ++ writtenMembers first members
  | [] => by simp [pushCompactMembers, writtenMembers]
  | (name, value) :: rest => by
      simp only [pushCompactMembers, writtenMembers]
      rw [toList_pushCompactMembers _ false rest, toList_pushCompact _ value, String.toList_push,
        toList_pushString, toList_separated]
      simp

end

/-- The compact form of a document is its written form. -/
@[simp]
theorem toList_compact (document : Json) : document.compact.toList = document.written := by
  simp [compact, toList_pushCompact]

/-! ## Line feeds -/

/-- The digits of a number have no line feed among them. -/
theorem lineFeed_notMem_toDigits (n : Nat) : '\n' ∉ Nat.toDigits 10 n := by
  intro inside
  exact absurd (isDigit_of_mem_toDigits inside) (by decide)

/-- The text of a decimal is written in digits, points, signs and the mark of an exponent. -/
theorem lineFeed_notMem_decimal (d : Decimal) : '\n' ∉ Binary64.Decimal.text d := by
  have digits := lineFeed_notMem_toDigits d.digits
  have taken (count : Nat) : '\n' ∉ (Nat.toDigits 10 d.digits).take count :=
    fun inside => digits (List.mem_of_mem_take inside)
  have dropped (count : Nat) : '\n' ∉ (Nat.toDigits 10 d.digits).drop count :=
    fun inside => digits (List.mem_of_mem_drop inside)
  unfold Binary64.Decimal.text
  simp only
  split
  · simp [digits]
  · split
    · simp [taken, dropped]
    · split
      · simp [digits]
      · have exponent := lineFeed_notMem_toDigits (d.point - 1).natAbs
        have tail : '\n' ∉ (Nat.toDigits 10 d.digits).tail :=
          fun inside => digits (List.mem_of_mem_tail inside)
        split <;> split <;> simp [taken, tail, exponent]

theorem lineFeed_notMem_number (n : Number) : '\n' ∉ n.text := by
  cases n with
  | integer n =>
      cases n with
      | ofNat n =>
          exact lineFeed_notMem_toDigits n
      | negSucc n =>
          simp [Number.text, lineFeed_notMem_toDigits (n + 1)]
  | float x =>
      have magnitude := lineFeed_notMem_decimal x.decimal
      simp only [Number.text, Binary64.text]
      split <;> split <;> simp [magnitude]

theorem lineFeed_notMem_escapedChar (c : Char) : '\n' ∉ escapedChar c := by
  have digit : ∀ n < 16, '\n' ≠ hexDigit n := by decide
  by_cases visible : 0x20 ≤ c.toNat
  · have different : '\n' ≠ c := by
      rintro rfl
      exact absurd visible (by decide)
    unfold escapedChar
    split
    · simp
    · split <;> simp [different]
  · have high := digit (c.toNat / 16) (by omega)
    have low := digit (c.toNat % 16) (by omega)
    unfold escapedChar
    simp only [visible, if_false]
    repeat' split
    all_goals simp [high, low]

theorem lineFeed_notMem_quotedText (text : String) : '\n' ∉ quotedText text := by
  simp [quotedText, lineFeed_notMem_escapedChar]

mutual

theorem lineFeed_notMem_written : (document : Json) → '\n' ∉ document.written
  | .null => by simp [written]
  | .bool true => by simp [written]
  | .bool false => by simp [written]
  | .number n => by simp [written, lineFeed_notMem_number n]
  | .string s => by simp [written, lineFeed_notMem_quotedText s]
  | .array items => by simp [written, lineFeed_notMem_writtenItems true items]
  | .object members => by simp [written, lineFeed_notMem_writtenMembers true members]

theorem lineFeed_notMem_writtenItems (first : Bool) :
    (items : List Json) → '\n' ∉ writtenItems first items
  | [] => by simp [writtenItems]
  | item :: rest => by
      have here := lineFeed_notMem_written item
      have later := lineFeed_notMem_writtenItems false rest
      cases first <;> simp [writtenItems, here, later]

theorem lineFeed_notMem_writtenMembers (first : Bool) :
    (members : List (String × Json)) → '\n' ∉ writtenMembers first members
  | [] => by simp [writtenMembers]
  | (name, value) :: rest => by
      have here := lineFeed_notMem_written value
      have later := lineFeed_notMem_writtenMembers false rest
      cases first <;> simp [writtenMembers, lineFeed_notMem_quotedText name, here, later]

end

end SessionBus.Json
