import SessionBus.Proofs.Json.Decoder
import SessionBus.Proofs.Json.Skip

/-!
# What records and unions restore

The fields of a record are restored from the members that were written for them, group by group:
two groups of fields restore their records from the members of both when they have no name in
common.  A union is restored when the variant that its tag names restores its value from the members
behind the tag.
-/

namespace SessionBus.Json

open Fallible

variable {α β : Type}

/-! ## Fields -/

namespace Fields

/-- The record is made of the members, all of which belong to its fields. -/
structure Restores
    (fields : Fields α) (origin : Origin) (members : List (String × Json)) (record : α) : Prop where
  known : ∀ member ∈ members, member.1 ∈ fields.names
  made :
    ∃ slots, members.foldlM (fields.takeMember origin) fields.empty = .ok slots ∧
      ∀ index, fields.finish .object index slots = .ok record

/-- A field is restored from the member with its name. -/
theorem Restores.one
    {decoder : Decoder α} {document : Json} {value : α}
    (restores : decoder.Restores document value)
    (name : String) (absence : Absence α) (origin : Origin) :
    (Fields.one name decoder absence).Restores origin [(name, document)] value := by
  constructor
  · simp [Fields.one]
  · refine ⟨some value, ?_, ?_⟩
    · simp [Fields.one, takeMember, restores origin, Except.map]
    · intro index
      rfl

/-- What has been read of the fields of two groups. -/
def besides {first : Fields α} {second : Fields β} (slots : first.Slots) (others : second.Slots) :
    (first.both second).Slots :=
  (slots, others)

theorem takeMembers_unknown
    {fields : Fields α} {members : List (String × Json)}
    (unknown : ∀ member ∈ members, member.1 ∉ fields.names) (origin : Origin)
    (slots : fields.Slots) :
    members.foldlM (fields.takeMember origin) slots = .ok slots := by
  induction members with
  | nil =>
      rfl
  | cons member rest ih =>
      rw [List.forall_mem_cons] at unknown
      have passed : fields.takeMember origin slots member = .ok slots := by
        simp [takeMember, unknown.1]
      rw [List.foldlM_cons, passed, ok_bind]
      exact ih unknown.2

/-- Two groups of fields without a common name take up the same members side by side. -/
theorem takeMembers_both
    {first : Fields α} {second : Fields β} (apart : ∀ name ∈ second.names, name ∉ first.names)
    (origin : Origin) (members : List (String × Json)) (slots final : first.Slots)
    (others finals : second.Slots) :
    members.foldlM ((first.both second).takeMember origin) (besides slots others) =
        .ok (besides final finals) ↔
      members.foldlM (first.takeMember origin) slots = .ok final ∧
        members.foldlM (second.takeMember origin) others = .ok finals := by
  induction members generalizing slots others with
  | nil =>
      constructor
      · intro same
        cases same
        exact ⟨rfl, rfl⟩
      · rintro ⟨same, sameToo⟩
        cases same
        cases sameToo
        rfl
  | cons member rest ih =>
      rw [List.foldlM_cons, List.foldlM_cons, List.foldlM_cons]
      by_cases here : member.1 ∈ first.names
      · have elsewhere : member.1 ∉ second.names := fun there => apart _ there here
        have step : (first.both second).takeMember origin (besides slots others) member =
            (first.takeMember origin slots member).map fun slots => besides slots others := by
          simp only [takeMember, besides, both, List.mem_append, here, true_or, if_true]
          split <;> rfl
        have passed : second.takeMember origin others member = .ok others := by
          simp [takeMember, elsewhere]
        rw [step, passed, ok_bind]
        cases first.takeMember origin slots member with
        | error cause =>
            exact ⟨nofun, nofun⟩
        | ok next =>
            exact ih next others
      · have passed : first.takeMember origin slots member = .ok slots := by
          simp [takeMember, here]
        have step : (first.both second).takeMember origin (besides slots others) member =
            (second.takeMember origin others member).map fun others => besides slots others := by
          by_cases there : member.1 ∈ second.names
          · simp only [takeMember, besides, both, List.mem_append, here, there, false_or, if_true,
              if_false]
            split <;> rfl
          · simp [takeMember, besides, both, here, there, Except.map]
        rw [step, passed, ok_bind]
        cases second.takeMember origin others member with
        | error cause =>
            exact ⟨nofun, nofun⟩
        | ok next =>
            exact ih slots next

/-- Two groups of fields without a common name are restored from the members of both. -/
theorem Restores.both
    {first : Fields α} {second : Fields β} {origin : Origin}
    {members others : List (String × Json)} {a : α} {b : β}
    (left : first.Restores origin members a) (right : second.Restores origin others b)
    (apart : ∀ name ∈ second.names, name ∉ first.names) :
    (first.both second).Restores origin (members ++ others) (a, b) := by
  -- Each group passes over the members of the other one.
  rcases left.made with ⟨slots, taken, finished⟩
  rcases right.made with ⟨otherSlots, otherTaken, otherFinished⟩
  constructor
  · intro member split
    rcases List.mem_append.mp split with here | there
    · exact List.mem_append_left second.names (left.known member here)
    · exact List.mem_append_right first.names (right.known member there)
  · refine ⟨besides slots otherSlots, ?_, ?_⟩
    · apply (takeMembers_both apart origin (members ++ others) first.empty slots second.empty
        otherSlots).mpr
      have foreign : ∀ member ∈ others, member.1 ∉ first.names :=
        fun member inside => apart _ (right.known member inside)
      have foreignToo : ∀ member ∈ members, member.1 ∉ second.names :=
        fun member inside there => apart _ there (left.known member inside)
      rw [List.foldlM_append, taken, ok_bind, takeMembers_unknown foreign, List.foldlM_append,
        takeMembers_unknown foreignToo, ok_bind, otherTaken]
      exact ⟨rfl, rfl⟩
    · intro index
      simp [Fields.both, besides, finished, otherFinished]

theorem Restores.map
    {fields : Fields α} {origin : Origin} {members : List (String × Json)} {record : α}
    (restores : fields.Restores origin members record) (f : α → β) :
    (fields.map f).Restores origin members (f record) := by
  rcases restores.made with ⟨slots, taken, finished⟩
  refine ⟨restores.known, slots, taken, ?_⟩
  intro index
  simp [Fields.map, finished, Except.map]

/-- A record is made of the members that restore its fields. -/
theorem Restores.ofMembers
    {fields : Fields α} {origin : Origin} {members : List (String × Json)} {record : α}
    (restores : fields.Restores origin members record) :
    fields.ofMembers origin members = .ok record := by
  rcases restores.made with ⟨slots, taken, finished⟩
  simp [Fields.ofMembers, taken, finished]

/-- Members of a record have no other names than its fields. -/
theorem Restores.name_ne
    {fields : Fields α} {origin : Origin} {members : List (String × Json)} {record : α}
    (restores : fields.Restores origin members record) {name : String}
    (apart : name ∉ fields.names) :
    ∀ member ∈ members, member.1 ≠ name := by
  rintro member inside rfl
  exact apart (restores.known member inside)

/-- What a field makes of a portable document is read from its written form. -/
def ReadsStored (fields : Fields α) : Prop :=
  ∀ name levels document slots next, name ∈ fields.names → document.IsPortable levels →
    fields.readTree name .stored document slots = .ok next → ∀ rest, EndsNumber rest →
      fields.readText name levels slots (document.written ++ rest) = .ok (next, rest)

theorem ReadsStored.one
    {decoder : Decoder α} (reads : decoder.ReadsStored) (name : String) (absence : Absence α) :
    (Fields.one name decoder absence).ReadsStored := by
  intro _ levels document slot next _ portable decoded rest ends
  rcases eq_ok_of_map decoded with ⟨value, there, rfl⟩
  simp [Fields.one, reads levels document value portable there rest ends]

theorem ReadsStored.both
    {first : Fields α} {second : Fields β} (left : first.ReadsStored)
    (right : second.ReadsStored) : (first.both second).ReadsStored := by
  intro name levels document slots next known portable decoded rest ends
  rcases slots with ⟨slots, others⟩
  simp only [Fields.both] at decoded ⊢
  split at decoded
  · rename_i here
    rcases eq_ok_of_map decoded with ⟨final, there, rfl⟩
    simp [here, left name levels document slots final here portable there rest ends]
  · rename_i elsewhere
    have here := (List.mem_append.mp known).resolve_left elsewhere
    rcases eq_ok_of_map decoded with ⟨final, there, rfl⟩
    simp [elsewhere, right name levels document others final here portable there rest ends]

theorem ReadsStored.map
    {fields : Fields α} (reads : fields.ReadsStored) (f : α → β) : (fields.map f).ReadsStored :=
  reads

/-- A reader of a record goes along the members that its fields have taken up. -/
theorem ReadsStored.readsMembers
    {fields : Fields α} (reads : fields.ReadsStored) {levels : Nat}
    {members : List (String × Json)} (portable : ∀ member ∈ members, member.2.IsPortable levels)
    {slots final : fields.Slots}
    (taken : members.foldlM (fields.takeMember .stored) slots = .ok final) :
    ReadsMembers (fields.readMember levels) slots members final := by
  induction members generalizing slots with
  | nil =>
      cases taken
      exact .nil _
  | cons member rest ih =>
      rw [List.forall_mem_cons] at portable
      rw [List.foldlM_cons] at taken
      rcases ok_of_bind taken with ⟨next, here, later⟩
      rcases member with ⟨name, document⟩
      refine .cons next ?_ (ih portable.2 later)
      intro behind ends
      simp only [takeMember] at here
      split at here
      · rename_i known
        split at here
        · cases here
        · rename_i free
          have read := reads name levels document slots next known portable.1 here behind ends
          simp [readMember, known, free, readColon_cons, read]
      · rename_i unknown
        cases here
        have passed := skipValue_written portable.1.integers ends
        simp [readMember, unknown, readColon_cons, passed]

end Fields

/-- A record is restored from an object whose members restore its fields. -/
theorem Decoder.record_restores
    {fields : Fields α} {members : List (String × Json)} {record : α} (name : String)
    (restores : ∀ origin, fields.Restores origin members record) :
    (Decoder.record name fields).Restores (.object members) record :=
  fun origin => (restores origin).ofMembers

/-- A record is read from the written form of an object of which it is made. -/
theorem Decoder.record_reads
    {fields : Fields α} (reads : fields.ReadsStored) {levels : Nat}
    {members : List (String × Json)} (portable : ∀ member ∈ members, member.2.IsPortable levels)
    {record : α} (made : fields.ofMembers .stored members = .ok record) (name : String) :
    (Decoder.record name fields).Reads (levels + 1) (.object members) record := by
  intro rest ends
  rcases ok_of_bind made with ⟨slots, taken, finished⟩
  have along := reads.readsMembers portable taken
  have read := readMembers_written along (length_lt_writtenMembers members true rest) true rest
  have between : enclosed (levels + 1) closeObject fields.readObject
      ('\x7b' :: (writtenMembers true members ++ '\x7d' :: rest)) = .ok (record, rest) := by
    apply enclosed_object
    simp [Fields.readObject, read, finished, atRest]
  have visible := skipSpace_cons (show isSpace '\x7b' = false by decide)
  simp [Decoder.record, openingThen, written, visible, between]

/-! ## Unions -/

namespace Union

/-- Members with other names than the tag are set aside. -/
theorem takeMembers_others
    {tag : String} {variants : List (Variant α)} {origin : Origin}
    {members : List (String × Json)} (others : ∀ member ∈ members, member.1 ≠ tag)
    (found : Partial α) :
    members.foldlM (takeMember tag variants origin) found =
      .ok (found.1, members.reverse ++ found.2) := by
  induction members generalizing found with
  | nil =>
      rfl
  | cons member rest ih =>
      have here := others member List.mem_cons_self
      have later := ih (fun other behind => others other (List.mem_cons_of_mem member behind))
        (found.1, member :: found.2)
      simp [takeMember, here, later]

theorem variantOf_name
    {variants : List (Variant α)} {name : String} {variant : Variant α}
    (known : variants.find? (·.name == name) = some variant) (byIndex : Bool) :
    variantOf variants byIndex (.string name) = .ok variant := by
  simp [variantOf, known]

/-- The value of an object that starts with its tag is what the variant makes of the rest. -/
theorem ofTree_tagged
    {tag name : String} {variants : List (Variant α)} {variant : Variant α}
    (known : variants.find? (·.name == name) = some variant)
    {members : List (String × Json)} (others : ∀ member ∈ members, member.1 ≠ tag)
    (title : String) (origin : Origin) :
    ofTree title tag variants origin (.object ((tag, .string name) :: members)) =
      variant.ofMembers members := by
  have first : takeMember tag variants origin (none, []) (tag, .string name) =
      .ok (some variant, []) := by
    simp [takeMember, variantOf_name known]
  simp [ofTree, first, takeMembers_others others]

/-- The value of an object that starts with the tag of a record is that record. -/
theorem ofTree_record
    {tag name subtitle : String} {variants : List (Variant α)} {fields : Fields α}
    (known : variants.find? (·.name == name) = some (.record name subtitle fields))
    (apart : tag ∉ fields.names) {members : List (String × Json)} {value : α}
    (restores : fields.Restores .buffered members value) (title : String) (origin : Origin) :
    ofTree title tag variants origin (.object ((tag, .string name) :: members)) = .ok value := by
  rw [ofTree_tagged known (restores.name_ne apart)]
  exact restores.ofMembers

theorem readMember_tag
    {tag name : String} {variants : List (Variant α)} {variant : Variant α} (levels : Nat)
    (known : variantOf variants false (.string name) = .ok variant)
    (aside : List (String × Json)) {rest : List Char} (ends : EndsNumber rest) :
    readMember tag variants levels tag (none, aside)
        (':' :: ((Json.string name).written ++ rest)) =
      .ok ((some variant, aside), rest) := by
  have tagRead := Decoder.headThen_written (.string name) rfl rfl known ends
  simp [readMember, readColon_cons, tagRead]

/-- Only a name is a tag outside of buffered unions. -/
theorem exists_name_of_variantOf
    {variants : List (Variant α)} {variant : Variant α} {document : Json}
    (known : variantOf variants false document = .ok variant) :
    ∃ name, document = .string name := by
  cases document with
  | string name =>
      exact ⟨name, rfl⟩
  | number n =>
      rcases n with (n | n) | x <;> cases known
  | null | bool | array | object =>
      cases known

/-- A reader of a union goes along the members that the union has taken up. -/
theorem readsMembers
    {tag : String} {variants : List (Variant α)} {levels : Nat} {members : List (String × Json)}
    (portable : ∀ member ∈ members, member.2.IsPortable levels) {found final : Partial α}
    (taken : members.foldlM (takeMember tag variants .stored) found = .ok final) :
    ReadsMembers (readMember tag variants levels) found members final := by
  induction members generalizing found with
  | nil =>
      cases taken
      exact .nil _
  | cons member rest ih =>
      rw [List.forall_mem_cons] at portable
      rw [List.foldlM_cons] at taken
      rcases ok_of_bind taken with ⟨next, here, later⟩
      rcases member with ⟨name, document⟩
      refine .cons next ?_ (ih portable.2 later)
      intro behind ends
      rcases found with ⟨variant?, aside⟩
      simp only [takeMember] at here
      split at here
      · rename_i tagged
        subst tagged
        cases variant? with
        | some variant =>
            cases here
        | none =>
            rcases ok_of_bind here with ⟨variant, known, same⟩
            cases same
            rcases exists_name_of_variantOf known with ⟨name, rfl⟩
            exact readMember_tag levels known aside ends
      · rename_i other
        cases here
        have read := portable.1.readJson ends
        simp [readMember, other, readColon_cons, read]

end Union

/-- A union is read from the written form of an object of which it is made. -/
theorem Decoder.union_reads
    {title tag : String} {variants : List (Variant α)} {levels : Nat}
    {members : List (String × Json)} (portable : ∀ member ∈ members, member.2.IsPortable levels)
    {value : α} (made : (Decoder.union title tag variants).tree .stored (.object members) = .ok value) :
    (Decoder.union title tag variants).Reads (levels + 1) (.object members) value := by
  intro rest ends
  rcases ok_of_bind made with ⟨⟨variant?, aside⟩, taken, made⟩
  cases variant? with
  | none =>
      cases made
  | some variant =>
      have made : variant.ofMembers aside.reverse = .ok value := made
      have read := readMembers_written (Union.readsMembers portable taken)
        (length_lt_writtenMembers members true rest) true rest
      have between : enclosed (levels + 1) closeObject (Union.readObject tag variants)
          ('\x7b' :: (writtenMembers true members ++ '\x7d' :: rest)) =
            .ok ((variant, aside.reverse), rest) := by
        apply enclosed_object
        simp [Union.readObject, read]
      have visible := skipSpace_cons (show isSpace '\x7b' = false by decide)
      simp [Decoder.union, openingThen, written, visible, between, made, atRest]

end SessionBus.Json
