import SessionBus.Proofs.Json.Loop
import SessionBus.Proofs.Json.Numeral

/-!
# Reading documents that were written

A document whose numbers are integers of 64 bits is read back from its written form, provided that
the reader has a level for each array and object around its innermost value.  The proof follows the
document; in its lists it goes along the items and members with the reader of the next level.
-/

namespace SessionBus.Json

mutual

/-- All numbers of a document are integers of 64 bits. -/
def onlyIntegers : Json → Bool
  | .number (.integer n) => decide (IsWord n)
  | .number (.float _) => false
  | .array items => itemsOnlyIntegers items
  | .object members => membersOnlyIntegers members
  | _ => true

/-- All numbers of some documents are integers of 64 bits. -/
def itemsOnlyIntegers : List Json → Bool
  | [] => true
  | item :: rest => item.onlyIntegers && itemsOnlyIntegers rest

/-- All numbers of the values of some members are integers of 64 bits. -/
def membersOnlyIntegers : List (String × Json) → Bool
  | [] => true
  | (_, value) :: rest => value.onlyIntegers && membersOnlyIntegers rest

end

def isLeaf : Json → Bool
  | .array _ => false
  | .object _ => false
  | _ => true

theorem isSpace_of_isDigit {c : Char} (digit : isDigit c = true) : isSpace c = false := by
  rw [Bool.eq_false_iff]
  intro blank
  simp only [isSpace, Bool.or_eq_true, beq_iff_eq] at blank
  rcases blank with ((rfl | rfl) | rfl) | rfl <;> exact absurd digit (by decide)

/-- The written form of a document starts like a value. -/
theorem startsValue_written (document : Json) : StartsValue document.written := by
  cases document with
  | null =>
      exact ⟨'n', _, rfl, by decide, by decide⟩
  | bool b =>
      cases b with
      | true =>
          exact ⟨'t', _, rfl, by decide, by decide⟩
      | false =>
          exact ⟨'f', _, rfl, by decide, by decide⟩
  | number n =>
      rcases head?_text n with ⟨c, rest, equal, sign⟩
      refine ⟨c, rest, equal, ?_, ?_⟩
      · rcases sign with rfl | digit
        · decide
        · exact isSpace_of_isDigit digit
      · rintro rfl
        exact absurd sign (by decide)
  | string s =>
      exact ⟨'"', _, rfl, by decide, by decide⟩
  | array items =>
      exact ⟨'[', _, rfl, by decide, by decide⟩
  | object members =>
      exact ⟨'\x7b', _, rfl, by decide, by decide⟩

/-- A number is recognised by its first character. -/
theorem readHead_text (n : Number) (rest : List Char) :
    readHead (n.text ++ rest) =
      (readNumber (n.text ++ rest)).map fun (value, rest) => (.number value, rest) := by
  rcases head?_text n with ⟨c, more, equal, sign⟩
  have visible : isSpace c = false := by
    rcases sign with rfl | digit
    · decide
    · exact isSpace_of_isDigit digit
  have noLetter : c ≠ 'n' ∧ c ≠ 't' ∧ c ≠ 'f' ∧ c ≠ '"' := by
    refine ⟨?_, ?_, ?_, ?_⟩ <;> rintro rfl <;> exact absurd sign (by decide)
  rw [equal, List.cons_append]
  simp only [readHead, skipSpace_cons visible, noLetter, sign, if_true, if_false]
  cases readNumber (c :: (more ++ rest)) <;> rfl

/-- A value without brackets is read back from its written form. -/
theorem readHead_written
    {document : Json} (leaf : document.isLeaf = true) (portable : document.onlyIntegers = true)
    {rest : List Char} (ends : EndsNumber rest) :
    readHead (document.written ++ rest) = .ok (document, rest) := by
  cases document with
  | null =>
      simp [written, readHead, skipSpace_cons (show isSpace 'n' = false by decide), readIdent]
  | bool b =>
      cases b with
      | true =>
          simp [written, readHead, skipSpace_cons (show isSpace 't' = false by decide), readIdent]
      | false =>
          simp [written, readHead, skipSpace_cons (show isSpace 'f' = false by decide), readIdent]
  | number n =>
      cases n with
      | integer n =>
          have number := readNumber_text ends (of_decide_eq_true portable)
          rw [written, readHead_text, number]
          rfl
      | float x =>
          simp [onlyIntegers] at portable
  | string s =>
      have text := readString_written s rest
      simp [written, quotedText, readHead, skipSpace_cons (show isSpace '"' = false by decide),
        text]
  | array items =>
      simp [isLeaf] at leaf
  | object members =>
      simp [isLeaf] at leaf

def itemReader (levels : Nat) (items : List Json) : Reader (List Json) := fun text => do
  let (item, rest) ← readJson levels text
  return (item :: items, rest)

/-- The reader of the members of an object. -/
def memberReader (levels : Nat) (name : String) (members : List (String × Json)) :
    Reader (List (String × Json)) := fun text => do
  let ((), rest) ← readColon text
  let (value, rest) ← readJson levels rest
  return ((name, value) :: members, rest)

/-- The colon in front of a value is passed. -/
theorem readColon_cons (rest : List Char) : readColon (':' :: rest) = .ok ((), rest) := by
  simp [readColon, skipSpace_cons (show isSpace ':' = false by decide)]

/-- An array is read with one level less for its items. -/
theorem readJson_bracket (levels : Nat) (text : List Char) :
    readJson (levels + 1) ('[' :: text) =
      (enclosed (levels + 1) closeArray
        (fun _ text => readItems (itemReader levels) text true [] text) ('[' :: text)).map
          fun (items, rest) => (.array items.reverse, rest) := by
  have head : readHead ('[' :: text) = .ok (.array [], '[' :: text) := by
    simp [readHead, skipSpace_cons (show isSpace '[' = false by decide), isDigit]
  rw [readJson.eq_def, head]
  rfl

/-- An object is read with one level less for its members. -/
theorem readJson_brace (levels : Nat) (text : List Char) :
    readJson (levels + 1) ('\x7b' :: text) =
      (enclosed (levels + 1) closeObject
        (fun _ text => readMembers (memberReader levels) text true [] text) ('\x7b' :: text)).map
          fun (members, rest) => (.object members.reverse, rest) := by
  have head : readHead ('\x7b' :: text) = .ok (.object [], '\x7b' :: text) := by
    simp [readHead, skipSpace_cons (show isSpace '\x7b' = false by decide), isDigit]
  rw [readJson.eq_def, head]
  rfl

theorem readJson_leaf
    {document : Json} (leaf : document.isLeaf = true) (portable : document.onlyIntegers = true)
    (levels : Nat) {rest : List Char} (ends : EndsNumber rest) :
    readJson levels (document.written ++ rest) = .ok (document, rest) := by
  have head := readHead_written leaf portable ends
  rw [readJson.eq_def, head]
  cases document with
  | array items =>
      simp [isLeaf] at leaf
  | object members =>
      simp [isLeaf] at leaf
  | null | bool _ | number _ | string _ =>
      rfl

mutual

/-- A document is read back from its written form if the reader has enough levels. -/
theorem readJson_written (levels : Nat) :
    (document : Json) → document.onlyIntegers = true → document.depth ≤ levels →
      ∀ rest, EndsNumber rest →
        readJson levels (document.written ++ rest) = .ok (document, rest)
  | .null, portable, _, _, ends => readJson_leaf rfl portable levels ends
  | .bool _, portable, _, _, ends => readJson_leaf rfl portable levels ends
  | .number _, portable, _, _, ends => readJson_leaf rfl portable levels ends
  | .string _, portable, _, _, ends => readJson_leaf rfl portable levels ends
  -- A bracket takes one level, so that what stands inside has one less.
  | .array items, portable, shallow, rest, _ => by
      cases levels with
      | zero =>
          simp [depth] at shallow
      | succ levels =>
          have inner : depthOfItems items ≤ levels := by
            simpa [depth] using shallow
          have enough :=
            length_lt_writtenItems (fun item (_ : item ∈ items) => startsValue_written item) true
              rest
          have reads := readItems_written (readsItems_written levels items portable inner [])
            enough true rest
          have between : enclosed (levels + 1) closeArray
              (fun _ text => readItems (itemReader levels) text true [] text)
              ('[' :: (writtenItems true items ++ ']' :: rest)) =
                .ok (items.reverse ++ [], rest) :=
            enclosed_array reads
          rw [written, List.cons_append, List.append_assoc, readJson_bracket]
          simp [between, Except.map]
  | .object members, portable, shallow, rest, _ => by
      cases levels with
      | zero =>
          simp [depth] at shallow
      | succ levels =>
          have inner : depthOfMembers members ≤ levels := by
            simpa [depth] using shallow
          have between : enclosed (levels + 1) closeObject
              (fun _ text => readMembers (memberReader levels) text true [] text)
              ('\x7b' :: (writtenMembers true members ++ '\x7d' :: rest)) =
                .ok (members.reverse ++ [], rest) :=
            enclosed_writtenMembers (readsMembers_written levels members portable inner []) rest
          rw [written, List.cons_append, List.append_assoc, readJson_brace]
          simp [between, Except.map]

/-- The reader of items collects the items of an array in reverse. -/
theorem readsItems_written (levels : Nat) :
    (items : List Json) → itemsOnlyIntegers items = true → depthOfItems items ≤ levels →
      ∀ made, ReadsItems (itemReader levels) made items (items.reverse ++ made)
  | [], _, _, made => .nil made
  | item :: others, portable, shallow, made => by
      simp only [itemsOnlyIntegers, Bool.and_eq_true] at portable
      simp only [depthOfItems, Nat.max_le] at shallow
      refine .cons (item :: made) (startsValue_written item) ?_ ?_
      · intro rest ends
        simp [itemReader, readJson_written levels item portable.1 shallow.1 rest ends]
      · simpa using readsItems_written levels others portable.2 shallow.2 (item :: made)

/-- The reader of members collects the members of an object in reverse. -/
theorem readsMembers_written (levels : Nat) :
    (members : List (String × Json)) → membersOnlyIntegers members = true →
      depthOfMembers members ≤ levels →
        ∀ made, ReadsMembers (memberReader levels) made members (members.reverse ++ made)
  | [], _, _, made => .nil made
  | (name, value) :: others, portable, shallow, made => by
      simp only [membersOnlyIntegers, Bool.and_eq_true] at portable
      simp only [depthOfMembers, Nat.max_le] at shallow
      refine .cons ((name, value) :: made) ?_ ?_
      · intro rest ends
        simp [memberReader, readColon_cons,
          readJson_written levels value portable.1 shallow.1 rest ends]
      · simpa using readsMembers_written levels others portable.2 shallow.2 ((name, value) :: made)

end

end SessionBus.Json
