import SessionBus.Proofs.Json.Scalar

/-!
# Reading the parts of arrays and objects that were written

The loops that read items and members are shared by documents, records and unions, which differ in
what they make of each part.  `ReadsItems` and `ReadsMembers` say that a reader of parts goes along
a list of them from one state to another; the main statements turn this into the result of the loop
on the written forms of the parts, and of the brackets around them.
-/

namespace SessionBus.Json

theorem skipSpace_cons {c : Char} (visible : isSpace c = false) (rest : List Char) :
    skipSpace (c :: rest) = c :: rest := by
  simp [skipSpace, visible]

theorem endsNumber_comma (rest : List Char) : EndsNumber (',' :: rest) := by
  rintro c ⟨⟩
  decide

theorem endsNumber_bracket (rest : List Char) : EndsNumber (']' :: rest) := by
  rintro c ⟨⟩
  decide

theorem endsNumber_brace (rest : List Char) : EndsNumber ('\x7d' :: rest) := by
  rintro c ⟨⟩
  decide

/-! ## Items -/

/-- A text that starts like a value: with a character that is no blank and ends no array. -/
def StartsValue (text : List Char) : Prop :=
  ∃ c rest, text = c :: rest ∧ isSpace c = false ∧ c ≠ ']'

/-- A reader of items goes along some documents, whatever follows each of them. -/
inductive ReadsItems {σ : Type} (item : σ → Reader σ) : σ → List Json → σ → Prop where
  | nil (made : σ) : ReadsItems item made [] made
  | cons {made : σ} (next : σ) {final : σ} {document : Json} {documents : List Json}
      (starts : StartsValue document.written)
      (reads : ∀ rest, EndsNumber rest → item made (document.written ++ rest) = .ok (next, rest))
      (others : ReadsItems item next documents final) :
      ReadsItems item made (document :: documents) final

/-- What follows an item ends a number in front of it. -/
theorem endsNumber_writtenItems (documents : List Json) (rest : List Char) :
    EndsNumber (writtenItems false documents ++ ']' :: rest) := by
  cases documents with
  | nil =>
      exact endsNumber_bracket rest
  | cons document documents =>
      exact endsNumber_comma _

/-- A written item is found, be it the first one or behind a comma. -/
theorem nextItem_written
    {text : List Char} (starts : StartsValue text) (first : Bool) :
    nextItem first ((if first then [] else [',']) ++ text) = .ok (true, text) := by
  rcases starts with ⟨c, rest, rfl, visible, noBracket⟩
  have comma : skipSpace (',' :: c :: rest) = ',' :: c :: rest :=
    skipSpace_cons (by decide) _
  cases first with
  | true =>
      simp [nextItem, skipSpace_cons visible, noBracket]
  | false =>
      simp [nextItem, comma, skipSpace_cons visible, noBracket]

/-- The loop reads all written items and stops at the closing bracket. -/
theorem readItems_written
    {σ : Type} {item : σ → Reader σ} {made final : σ} {documents : List Json}
    (reads : ReadsItems item made documents final)
    {clock : List Char} (enough : documents.length < clock.length)
    (first : Bool) (rest : List Char) :
    readItems item clock first made (writtenItems first documents ++ ']' :: rest) =
      .ok (final, ']' :: rest) := by
  -- The clock has more ticks than there are items left, so that it never stops the loop.
  induction reads generalizing clock first with
  | nil made =>
      cases clock with
      | nil =>
          simp at enough
      | cons tick clock =>
          have stop : nextItem first (']' :: rest) = .ok (false, ']' :: rest) := by
            simp [nextItem, skipSpace_cons (show isSpace ']' = false by decide)]
          simp [readItems, writtenItems, stop]
  | cons next starts reads others ih =>
      rename_i made final document documents
      cases clock with
      | nil =>
          simp at enough
      | cons tick clock =>
          have enoughLeft : documents.length < clock.length := by
            simpa using enough
          have startsHere : StartsValue
              (document.written ++ (writtenItems false documents ++ ']' :: rest)) := by
            rcases starts with ⟨c, more, equal, visible, noBracket⟩
            exact ⟨c, more ++ _, by rw [equal, List.cons_append], visible, noBracket⟩
          simp only [writtenItems, List.append_assoc, readItems, nextItem_written startsHere,
            reads _ (endsNumber_writtenItems documents rest)]
          exact ih enoughLeft false

/-! ## Members -/

/-- A reader of members goes along some members, whatever follows each of them. -/
inductive ReadsMembers {σ : Type} (member : String → σ → Reader σ) :
    σ → List (String × Json) → σ → Prop where
  | nil (made : σ) : ReadsMembers member made [] made
  | cons
      {made : σ} (next : σ) {final : σ} {name : String} {value : Json}
      {members : List (String × Json)}
      (reads :
        ∀ rest, EndsNumber rest →
          member name made (':' :: (value.written ++ rest)) = .ok (next, rest))
      (others : ReadsMembers member next members final) :
      ReadsMembers member made ((name, value) :: members) final

theorem ReadsMembers.append
    {σ : Type} {member : String → σ → Reader σ} {made between final : σ}
    {members others : List (String × Json)} (first : ReadsMembers member made members between)
    (later : ReadsMembers member between others final) :
    ReadsMembers member made (members ++ others) final := by
  induction first with
  | nil =>
      exact later
  | cons next reads _ ih =>
      exact .cons next reads (ih later)

/-- A reader that sets aside every one of some members sets them all aside, in reverse. -/
theorem ReadsMembers.setAside
    {β : Type} {readMember : String → β × List (String × Json) → Reader (β × List (String × Json))}
    {members : List (String × Json)}
    (aside :
      ∀ member ∈ members, ∀ (found : β × List (String × Json)) (rest : List Char),
        EndsNumber rest →
          readMember member.1 found (':' :: (member.2.written ++ rest)) =
            .ok ((found.1, member :: found.2), rest))
    (found : β × List (String × Json)) :
    ReadsMembers readMember found members (found.1, members.reverse ++ found.2) := by
  induction members generalizing found with
  | nil =>
      exact .nil found
  | cons member rest ih =>
      have later := ih (fun other behind => aside other (List.mem_cons_of_mem member behind))
        (found.1, member :: found.2)
      apply ReadsMembers.cons (found.1, member :: found.2)
      · exact aside member List.mem_cons_self found
      · simpa using later

/-- What follows a member ends a number in front of it. -/
theorem endsNumber_writtenMembers (members : List (String × Json)) (rest : List Char) :
    EndsNumber (writtenMembers false members ++ '\x7d' :: rest) := by
  cases members with
  | nil =>
      exact endsNumber_brace rest
  | cons member members =>
      exact endsNumber_comma _

/-- A written name is found, be it the first one or behind a comma. -/
theorem nextName_written (first : Bool) (name : String) (rest : List Char) :
    nextName first ((if first then [] else [',']) ++ (quotedText name ++ rest)) =
      .ok (some name, rest) := by
  have name : readString (name.toList.flatMap escapedChar ++ '"' :: rest) = .ok (name, rest) :=
    readString_written name rest
  have visible : isSpace '"' = false := by decide
  have comma : isSpace ',' = false := by decide
  cases first with
  | true =>
      simp [nextName, nextName.quotedName, quotedText, skipSpace_cons visible, name]
  | false =>
      simp [nextName, nextName.quotedName, quotedText, skipSpace_cons visible,
        skipSpace_cons comma, name]

/-- The loop reads all written members and stops at the closing brace. -/
theorem readMembers_written
    {σ : Type} {member : String → σ → Reader σ} {made final : σ}
    {members : List (String × Json)}
    (reads : ReadsMembers member made members final)
    {clock : List Char} (enough : members.length < clock.length)
    (first : Bool) (rest : List Char) :
    readMembers member clock first made (writtenMembers first members ++ '\x7d' :: rest) =
      .ok (final, '\x7d' :: rest) := by
  induction reads generalizing clock first with
  | nil made =>
      cases clock with
      | nil =>
          simp at enough
      | cons tick clock =>
          have stop : nextName first ('\x7d' :: rest) = .ok (none, '\x7d' :: rest) := by
            simp [nextName, skipSpace_cons (show isSpace '\x7d' = false by decide)]
          simp [readMembers, writtenMembers, stop]
  | cons next reads others ih =>
      rename_i made final name value members
      cases clock with
      | nil =>
          simp at enough
      | cons tick clock =>
          have enoughLeft : members.length < clock.length := by
            simpa using enough
          simp only [writtenMembers, List.append_assoc, List.cons_append, readMembers,
            nextName_written, reads _ (endsNumber_writtenMembers members rest)]
          exact ih enoughLeft false

/-! ## Brackets -/

/-- Every item is written with at least one character. -/
theorem length_lt_writtenItems
    {documents : List Json} (start : ∀ document ∈ documents, StartsValue document.written)
    (first : Bool) (rest : List Char) :
    documents.length < (writtenItems first documents ++ ']' :: rest).length := by
  induction documents generalizing first with
  | nil =>
      simp [writtenItems]
  | cons document documents ih =>
      rcases start document List.mem_cons_self with ⟨c, more, equal, _⟩
      have later :=
        ih (fun other member => start other (List.mem_cons_of_mem document member)) false
      simp only [writtenItems, equal, List.length_append, List.length_cons] at later ⊢
      omega

/-- Every member is written with at least one character. -/
theorem length_lt_writtenMembers
    (members : List (String × Json)) (first : Bool) (rest : List Char) :
    members.length < (writtenMembers first members ++ '\x7d' :: rest).length := by
  induction members generalizing first with
  | nil =>
      simp [writtenMembers]
  | cons member members ih =>
      have later := ih false
      simp only [writtenMembers, List.length_append, List.length_cons] at later ⊢
      omega

/-- What stands between two brackets is read between them. -/
theorem enclosed_array
    {α : Type} {levels : Nat} {body : Nat → Reader α} {text rest : List Char} {result : α}
    (reads : body levels text = .ok (result, ']' :: rest)) :
    enclosed (levels + 1) closeArray body ('[' :: text) = .ok (result, rest) := by
  simp [enclosed, reads, closeArray, skipSpace_cons (show isSpace ']' = false by decide)]

/-- What stands between two braces is read between them. -/
theorem enclosed_object
    {α : Type} {levels : Nat} {body : Nat → Reader α} {text rest : List Char} {result : α}
    (reads : body levels text = .ok (result, '\x7d' :: rest)) :
    enclosed (levels + 1) closeObject body ('\x7b' :: text) = .ok (result, rest) := by
  simp [enclosed, reads, closeObject, skipSpace_cons (show isSpace '\x7d' = false by decide)]

/-- An object is read by a reader that goes along its members. -/
theorem enclosed_writtenMembers
    {σ : Type} {levels : Nat} {member : Nat → String → σ → Reader σ} {made final : σ}
    {members : List (String × Json)}
    (reads : ReadsMembers (member levels) made members final) (rest : List Char) :
    enclosed (levels + 1) closeObject
        (fun levels text => readMembers (member levels) text true made text)
        ('\x7b' :: (writtenMembers true members ++ '\x7d' :: rest)) =
      .ok (final, rest) :=
  enclosed_object (readMembers_written reads (length_lt_writtenMembers members true rest) true rest)

end SessionBus.Json
