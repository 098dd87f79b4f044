import SessionBus.Proofs.Json.Record

/-!
# What is left of any document that was written

A document with numbers of any kind need not come back as it was: a number with a fraction is read
as some number, and there may be too many brackets.  But a reader that does not give up on a written
document stops where it ends, and has found the same names, texts and integers of 64 bits at the
same places; and no document that it has read is deeper than the levels that it had.  So what one
part of a line says can never pass for another part.
-/

namespace SessionBus.Json

open Fallible

mutual

/-- A document that is another one but for numbers that are no integers of 64 bits. -/
inductive Retold : Json → Json → Prop where
  | null : Retold .null .null
  | bool (b : Bool) : Retold (.bool b) (.bool b)
  | string (text : String) : Retold (.string text) (.string text)
  | word {n : Int} (word : IsWord n) : Retold (.number (.integer n)) (.number (.integer n))
  | number {m : Number} (other : ∀ n, m = .integer n → ¬ IsWord n) (n : Number) :
      Retold (.number m) (.number n)
  | array {items others : List Json} (alike : ItemsRetold items others) :
      Retold (.array items) (.array others)
  | object {members others : List (String × Json)} (alike : MembersRetold members others) :
      Retold (.object members) (.object others)

/-- Items that are told again one by one. -/
inductive ItemsRetold : List Json → List Json → Prop where
  | nil : ItemsRetold [] []
  | cons {item other : Json} {items others : List Json} (first : Retold item other)
      (rest : ItemsRetold items others) : ItemsRetold (item :: items) (other :: others)

/-- Members that are told again one by one, under their names. -/
inductive MembersRetold : List (String × Json) → List (String × Json) → Prop where
  | nil : MembersRetold [] []
  | cons (name : String) {value other : Json} {members others : List (String × Json)}
      (first : Retold value other) (rest : MembersRetold members others) :
      MembersRetold ((name, value) :: members) ((name, other) :: others)

end

mutual

/-- A document without other numbers is told again as it is. -/
theorem Retold.eq_of_onlyIntegers
    {document other : Json} (alike : Retold document other)
    (integers : document.onlyIntegers = true) : other = document := by
  cases alike with
  | null | bool | string | word =>
      rfl
  | number noWord found =>
      rename_i written
      cases written with
      | integer n =>
          exact absurd (of_decide_eq_true integers) (noWord n rfl)
      | float x =>
          cases integers
  | array alike =>
      rw [alike.eq_of_onlyIntegers integers]
  | object alike =>
      rw [alike.eq_of_onlyIntegers integers]

theorem ItemsRetold.eq_of_onlyIntegers {items others : List Json} :
    ItemsRetold items others → itemsOnlyIntegers items = true → others = items
  | .nil, _ => rfl
  | .cons first rest, integers => by
      rw [itemsOnlyIntegers, Bool.and_eq_true] at integers
      rw [first.eq_of_onlyIntegers integers.1, rest.eq_of_onlyIntegers integers.2]

theorem MembersRetold.eq_of_onlyIntegers {members others : List (String × Json)} :
    MembersRetold members others → membersOnlyIntegers members = true → others = members
  | .nil, _ => rfl
  | .cons name first rest, integers => by
      rw [membersOnlyIntegers, Bool.and_eq_true] at integers
      rw [first.eq_of_onlyIntegers integers.1, rest.eq_of_onlyIntegers integers.2]

end

/-! ## Readers that succeed -/

/-- What was read between two brackets was read by the reader of what stands there. -/
theorem ok_of_enclosed
    {α : Type} {levels : Nat} {close : List Char → Option Cause × List Char}
    {body : Nat → Reader α} {text left : List Char} {result : α}
    (read : enclosed (levels + 1) close body text = .ok (result, left)) :
    ∃ inner, body levels (text.drop 1) = .ok (result, inner) ∧ close inner = (none, left) := by
  simp only [enclosed] at read
  split at read
  · rename_i found inner inside
    split at read
    · rename_i closed
      cases read
      exact ⟨inner, inside, closed⟩
    · cases read
  · cases read
  · cases read

theorem closeArray_bracket (rest : List Char) : closeArray (']' :: rest) = (none, rest) := by
  simp [closeArray, skipSpace_cons (show isSpace ']' = false by decide)]

theorem closeObject_brace (rest : List Char) : closeObject ('\x7d' :: rest) = (none, rest) := by
  simp [closeObject, skipSpace_cons (show isSpace '\x7d' = false by decide)]

/-! ## Documents -/

theorem readJson_number
    {m : Number} (other : ∀ n, m = .integer n → ¬ IsWord n) (levels : Nat) {rest left : List Char}
    (ends : EndsNumber rest) {found : Json}
    (read : readJson levels ((Json.number m).written ++ rest) = .ok (found, left)) :
    left = rest ∧ (Json.number m).depth ≤ levels ∧ Retold (.number m) found := by
  rw [written, readJson.eq_def, readHead_text] at read
  cases number : readNumber (m.text ++ rest) with
  | error fault =>
      rw [number] at read
      cases read
  | ok result =>
      rcases result with ⟨n, after⟩
      rw [number] at read
      cases read
      exact ⟨readNumber_consumes (isNumeral_text m) rest ends n left number, Nat.zero_le levels,
        .number other n⟩

/-- A value without brackets that is read exactly is told again as it is. -/
theorem retold_leaf
    {document : Json} (leaf : document.isLeaf = true) (portable : document.onlyIntegers = true)
    (same : Retold document document) (levels : Nat) {rest left : List Char}
    (ends : EndsNumber rest) {found : Json}
    (read : readJson levels (document.written ++ rest) = .ok (found, left)) :
    left = rest ∧ document.depth ≤ levels ∧ Retold document found := by
  rw [readJson_leaf leaf portable levels ends] at read
  cases read
  have flat : document.depth = 0 := by
    cases document <;> first | rfl | cases leaf
  exact ⟨rfl, flat ▸ Nat.zero_le levels, same⟩

/-- What is read from a written document is no deeper than the levels that are left, tells the
document again, and is read to the end. -/
def Retells (levels : Nat) (document : Json) : Prop :=
  ∀ rest, EndsNumber rest → ∀ found left,
    readJson levels (document.written ++ rest) = .ok (found, left) →
      left = rest ∧ document.depth ≤ levels ∧ Retold document found

/-- The loop over the items of an array tells them all again. -/
theorem readItems_retold
    {levels : Nat} {items : List Json} (each : ∀ item ∈ items, Retells levels item)
    {clock rest left : List Char} {first : Bool} {made final : List Json}
    (read : readItems (itemReader levels) clock first made
      (writtenItems first items ++ ']' :: rest) = .ok (final, left)) :
    left = ']' :: rest ∧ depthOfItems items ≤ levels ∧
      ∃ others, final = others.reverse ++ made ∧ ItemsRetold items others := by
  induction items generalizing clock first made with
  | nil =>
      cases clock with
      | nil =>
          cases read
      | cons tick clock =>
          have stop : nextItem first (']' :: rest) = .ok (false, ']' :: rest) := by
            simp [nextItem, skipSpace_cons (show isSpace ']' = false by decide)]
          simp only [readItems, writtenItems, List.nil_append, stop] at read
          cases read
          exact ⟨rfl, Nat.zero_le levels, [], rfl, .nil⟩
  | cons item items ih =>
      cases clock with
      | nil =>
          cases read
      | cons tick clock =>
          have starts :
              StartsValue (item.written ++ (writtenItems false items ++ ']' :: rest)) := by
            rcases startsValue_written item with ⟨c, more, equal, visible, noBracket⟩
            exact ⟨c, more ++ _, by rw [equal, List.cons_append], visible, noBracket⟩
          simp only [writtenItems, List.append_assoc, readItems, nextItem_written starts] at read
          split at read
          · cases read
          · rename_i next after here
            rcases ok_of_bind here with ⟨⟨other, between⟩, itemRead, same⟩
            cases same
            rcases each item List.mem_cons_self _ (endsNumber_writtenItems items rest) other _
              itemRead with ⟨rfl, shallow, alike⟩
            rcases ih (fun later inside => each later (List.mem_cons_of_mem _ inside)) read with
              ⟨rfl, shallowRest, others, rfl, alikeRest⟩
            exact ⟨rfl, Nat.max_le.mpr ⟨shallow, shallowRest⟩, other :: others, by simp,
              .cons alike alikeRest⟩

/-- A reader of members takes up, under the name of a member, what its value tells again. -/
def TakesUp {σ : Type} (levels : Nat) (member : String → σ → Reader σ)
    (add : σ → String × Json → σ) (name : String) (value : Json) : Prop :=
  ∀ made rest, EndsNumber rest → ∀ next left,
    member name made (':' :: (value.written ++ rest)) = .ok (next, left) →
      left = rest ∧ value.depth ≤ levels ∧
        ∃ other, next = add made (name, other) ∧ Retold value other

/-- The loop over the members of an object reads the first one, and goes on behind it. -/
theorem readMembers_first
    {σ : Type} {member : String → σ → Reader σ} {name : String} {value : Json}
    {members : List (String × Json)} {clock rest left : List Char} {first : Bool} {made final : σ}
    (read : readMembers member clock first made
      (writtenMembers first ((name, value) :: members) ++ '\x7d' :: rest) = .ok (final, left)) :
    ∃ clock next after,
      member name made
          (':' :: (value.written ++ (writtenMembers false members ++ '\x7d' :: rest))) =
        .ok (next, after) ∧
      readMembers member clock false next after = .ok (final, left) := by
  cases clock with
  | nil =>
      cases read
  | cons tick clock =>
      simp only [writtenMembers, List.append_assoc, List.cons_append, readMembers,
        nextName_written] at read
      split at read
      · cases read
      · rename_i next after here
        exact ⟨clock, next, after, here, read⟩

/-- The loop over the members of an object takes them all up. -/
theorem readMembers_retold
    {σ : Type} {levels : Nat} {member : String → σ → Reader σ} {add : σ → String × Json → σ}
    {members : List (String × Json)}
    (each : ∀ entry ∈ members, TakesUp levels member add entry.1 entry.2)
    {clock rest left : List Char} {first : Bool} {made final : σ}
    (read : readMembers member clock first made (writtenMembers first members ++ '\x7d' :: rest) =
      .ok (final, left)) :
    left = '\x7d' :: rest ∧ depthOfMembers members ≤ levels ∧
      ∃ others, final = others.foldl add made ∧ MembersRetold members others := by
  induction members generalizing clock first made with
  | nil =>
      cases clock with
      | nil =>
          cases read
      | cons tick clock =>
          have stop : nextName first ('\x7d' :: rest) = .ok (none, '\x7d' :: rest) := by
            simp [nextName, skipSpace_cons (show isSpace '\x7d' = false by decide)]
          simp only [readMembers, writtenMembers, List.nil_append, stop] at read
          cases read
          exact ⟨rfl, Nat.zero_le levels, [], rfl, .nil⟩
  | cons entry members ih =>
      rcases entry with ⟨name, value⟩
      rcases readMembers_first read with ⟨clock, next, after, here, later⟩
      rcases each (name, value) List.mem_cons_self made _
        (endsNumber_writtenMembers members rest) next after here with
        ⟨rfl, shallow, other, rfl, alike⟩
      rcases ih (fun entry behind => each entry (List.mem_cons_of_mem _ behind)) later with
        ⟨rfl, shallowRest, others, rfl, alikeRest⟩
      exact ⟨rfl, Nat.max_le.mpr ⟨shallow, shallowRest⟩, (name, other) :: others, rfl,
        .cons name alike alikeRest⟩

theorem takesUp_memberReader
    {levels : Nat} {value : Json} (retells : Retells levels value) (name : String) :
    TakesUp levels (memberReader levels) (fun made member => member :: made) name value := by
  intro made rest ends next left read
  simp only [memberReader, readColon_cons, ok_bind] at read
  rcases ok_of_bind read with ⟨⟨other, between⟩, valueRead, same⟩
  cases same
  rcases retells rest ends other _ valueRead with ⟨rfl, shallow, alike⟩
  exact ⟨rfl, shallow, other, rfl, alike⟩

/-- The brackets of an array are taken off, and its items are read with one level less. -/
theorem retells_array
    {items : List Json} (each : ∀ levels, ∀ item ∈ items, Retells levels item) (levels : Nat) :
    Retells levels (.array items) := by
  intro rest ends found left read
  rw [written, List.cons_append, List.append_assoc] at read
  cases levels with
  | zero =>
      have head : ∀ text, readHead ('[' :: text) = .ok (.array [], '[' :: text) := by
        intro text
        simp [readHead, skipSpace_cons (show isSpace '[' = false by decide), isDigit]
      rw [readJson.eq_def, head] at read
      cases read
  | succ levels =>
      rw [readJson_bracket] at read
      rcases eq_ok_of_map read with ⟨⟨made, after⟩, between, same⟩
      rcases ok_of_enclosed between with ⟨inner, inside, closed⟩
      rcases readItems_retold (each levels) inside with ⟨rfl, shallow, others, rfl, alike⟩
      rw [closeArray_bracket] at closed
      cases closed
      cases same
      rw [List.append_nil, List.reverse_reverse]
      exact ⟨rfl, Nat.succ_le_succ shallow, .array alike⟩

theorem retells_object
    {members : List (String × Json)}
    (each : ∀ levels, ∀ entry ∈ members, Retells levels entry.2) (levels : Nat) :
    Retells levels (.object members) := by
  intro rest ends found left read
  rw [written, List.cons_append, List.append_assoc] at read
  cases levels with
  | zero =>
      have head : ∀ text, readHead ('\x7b' :: text) = .ok (.object [], '\x7b' :: text) := by
        intro text
        simp [readHead, skipSpace_cons (show isSpace '\x7b' = false by decide), isDigit]
      rw [readJson.eq_def, head] at read
      cases read
  | succ levels =>
      rw [readJson_brace] at read
      rcases eq_ok_of_map read with ⟨⟨made, after⟩, between, same⟩
      rcases ok_of_enclosed between with ⟨inner, inside, closed⟩
      rcases readMembers_retold
        (fun entry known => takesUp_memberReader (each levels entry known) entry.1) inside with
        ⟨rfl, shallow, others, rfl, alike⟩
      rw [closeObject_brace] at closed
      cases closed
      cases same
      rw [List.foldl_flip_cons_eq_append', List.append_nil, List.reverse_reverse]
      exact ⟨rfl, Nat.succ_le_succ shallow, .object alike⟩

/-- Whatever is read from a written document is that document told again. -/
theorem readJson_retold : (document : Json) → (levels : Nat) → Retells levels document
  | .null, levels => fun _ ends _ _ read => retold_leaf rfl rfl .null levels ends read
  | .bool b, levels => fun _ ends _ _ read => retold_leaf rfl rfl (.bool b) levels ends read
  | .string text, levels => fun _ ends _ _ read =>
      retold_leaf rfl rfl (.string text) levels ends read
  | .number m, levels => by
      intro rest ends found left read
      by_cases word : ∃ n, m = .integer n ∧ IsWord n
      · rcases word with ⟨n, rfl, word⟩
        have portable : (Json.number (.integer n)).onlyIntegers = true := by
          simpa [onlyIntegers] using word
        exact retold_leaf rfl portable (.word word) levels ends read
      · refine readJson_number ?_ levels ends read
        exact fun n same isWord => word ⟨n, same, isWord⟩
  | .array items, levels => retells_array (fun levels item _ => readJson_retold item levels) levels
  | .object members, levels => by
      refine retells_object (fun levels entry inside => ?_) levels
      have smaller : sizeOf entry.2 < sizeOf members := by
        have part := List.sizeOf_lt_of_mem inside
        have whole : sizeOf entry = 1 + sizeOf entry.1 + sizeOf entry.2 := rfl
        omega
      exact readJson_retold entry.2 levels
termination_by document => sizeOf document

/-! ## Unions -/

theorem takesUp_union
    {α : Type} {tag name : String} (variants : List (Variant α)) (levels : Nat)
    (other : name ≠ tag) (value : Json) :
    TakesUp levels (Union.readMember tag variants levels)
      (fun found member => (found.1, member :: found.2)) name value := by
  intro found rest ends next left read
  simp only [Union.readMember, other, if_false, readColon_cons, ok_bind] at read
  rcases ok_of_bind read with ⟨⟨retold, between⟩, valueRead, same⟩
  cases same
  rcases readJson_retold value levels rest ends retold _ valueRead with ⟨rfl, shallow, alike⟩
  exact ⟨rfl, shallow, retold, rfl, alike⟩

/-- Members that are set aside one after the other. -/
theorem foldl_setAside
    {σ : Type} (found : σ × List (String × Json)) (members : List (String × Json)) :
    members.foldl (fun found member => (found.1, member :: found.2)) found =
      (found.1, members.reverse ++ found.2) := by
  induction members generalizing found with
  | nil =>
      rfl
  | cons member members ih =>
      simp [ih]

/-- A union that is read from an object with its tag in front is what the variant makes of the other
members, told again. -/
theorem union_retold
    {α : Type} {tag name : String} {variants : List (Variant α)} {variant : Variant α}
    (known : variants.find? (·.name == name) = some variant) {members : List (String × Json)}
    (others : ∀ member ∈ members, member.1 ≠ tag) {title : String} {levels : Nat}
    {rest left : List Char} {value : α}
    (read : (Decoder.union title tag variants).text (levels + 1)
      ((Json.object ((tag, .string name) :: members)).written ++ rest) = .ok (value, left)) :
    left = rest ∧
      ∃ retold, MembersRetold members retold ∧ variant.ofMembers retold = .ok value := by
  have visible := skipSpace_cons (show isSpace '\x7b' = false by decide)
  rw [written, List.cons_append, List.append_assoc] at read
  simp only [Decoder.union, Decoder.openingThen, visible, List.cons_append, List.nil_append]
    at read
  rcases ok_of_bind read with ⟨⟨⟨found, collected⟩, between⟩, enclosed, made⟩
  rcases ok_of_enclosed enclosed with ⟨inner, inside, closed⟩
  rcases ok_of_bind inside with ⟨⟨⟨chosen, aside⟩, final⟩, along, finished⟩
  -- The tag comes first and tells the variant; the members behind it are set aside.
  rcases readMembers_first along with ⟨clock, next, after, here, later⟩
  rw [Union.readMember_tag levels (Union.variantOf_name known false) []
    (endsNumber_writtenMembers members rest)] at here
  cases here
  rcases readMembers_retold
    (fun entry inside => takesUp_union variants levels (others entry inside) entry.2) later with
    ⟨rfl, -, retold, collectedAll, alike⟩
  rw [foldl_setAside, List.append_nil] at collectedAll
  cases collectedAll
  cases finished
  rw [closeObject_brace] at closed
  cases closed
  rw [List.reverse_reverse] at made
  cases whole : variant.ofMembers retold with
  | error cause =>
      rw [whole] at made
      cases made
  | ok result =>
      rw [whole] at made
      cases made
      exact ⟨rfl, retold, alike, whole⟩

end SessionBus.Json
