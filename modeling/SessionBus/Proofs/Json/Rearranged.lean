import Mathlib.Data.List.Forall2
import SessionBus.Proofs.Json.Record

/-!
# Objects in another order and with more members

The members of an object may stand in any order, and among members that nobody asked for.  What a
decoder makes of a document does not depend on either: a record looks up its fields by their names,
and a union its tag.

A `Leeway` says what may stand in the place of a document.  The leeway of an object names its parts,
each with a leeway of its own; members with other names may be added to it at will.
-/

namespace SessionBus.Json

open Fallible

variable {α β : Type}

/-! ## Leeway -/

/-- What may stand in the place of a document. -/
abbrev Leeway := Json → Json → Prop

/-- Two members with one name, the second one with a value within the leeway of its part. -/
def Alike (parts : List (String × Leeway)) (member other : String × Json) : Prop :=
  member.1 = other.1 ∧ ∀ leeway, (member.1, leeway) ∈ parts → leeway member.2 other.2

/-- The other members are those of an object in any order, and any number of members that are none of
its parts. -/
def Rearranged (parts : List (String × Leeway)) (members others : List (String × Json)) : Prop :=
  ∃ kept strangers, List.Forall₂ (Alike parts) members kept ∧ others.Perm (kept ++ strangers) ∧
    ∀ stranger ∈ strangers, stranger.1 ∉ parts.map (·.1)

namespace Leeway

/-- The leeway of an object with the given parts. -/
def object (parts : List (String × Leeway)) : Leeway := fun document other =>
  ∃ members others, document = .object members ∧ other = .object others ∧
    Rearranged parts members others

/-- The leeway of an array whose items have leeway. -/
def list (item : Leeway) : Leeway := fun document other =>
  ∃ items others, document = .array items ∧ other = .array others ∧ List.Forall₂ item items others

end Leeway

/-- The members that have a name. -/
def named (name : String) (members : List (String × Json)) : List (String × Json) :=
  members.filter (·.1 == name)

/-- The members that have another name. -/
def besidesNamed (name : String) (members : List (String × Json)) : List (String × Json) :=
  members.filter (·.1 != name)

/-- A member that is found by its name is there. -/
theorem mem_of_named
    {name : String} {members found : List (String × Json)} (one : named name members = found)
    {member : String × Json} (inside : member ∈ found) : member ∈ members :=
  List.mem_of_mem_filter (one ▸ inside)

section Rearranged

variable {parts : List (String × Leeway)} {members others : List (String × Json)} {name : String}

/-- The members with the name of a part correspond to each other, in some order. -/
theorem Rearranged.named
    (rearranged : Rearranged parts members others) (known : name ∈ parts.map (·.1)) :
    ∃ kept, List.Forall₂ (Alike parts) (named name members) kept ∧
      (Json.named name others).Perm kept := by
  rcases rearranged with ⟨kept, strangers, alike, permuted, strange⟩
  have same : ∀ member other, Alike parts member other →
      ((member.1 == name) = true ↔ (other.1 == name) = true) := by
    intro member other alike
    rw [alike.1]
  have none : strangers.filter (·.1 == name) = [] := by
    rw [List.filter_eq_nil_iff]
    intro stranger inside equal
    rw [beq_iff_eq] at equal
    exact strange stranger inside (equal ▸ known)
  refine ⟨kept.filter (·.1 == name), List.rel_filter (fun member other => same member other) alike,
    ?_⟩
  have permuted := permuted.filter (·.1 == name)
  rw [List.filter_append, none, List.append_nil] at permuted
  exact permuted

/-- A part that occurs once still does, with a value within its leeway. -/
theorem Rearranged.one
    (rearranged : Rearranged parts members others) {leeway : Leeway}
    (inside : (name, leeway) ∈ parts) {document : Json}
    (one : Json.named name members = [(name, document)]) :
    ∃ other, Json.named name others = [(name, other)] ∧ leeway document other := by
  rcases rearranged.named (List.mem_map_of_mem inside) with ⟨kept, alike, permuted⟩
  rw [one] at alike
  cases alike with
  | cons alike rest =>
      rename_i member _
      cases rest
      rcases member with ⟨other, value⟩
      rcases alike with ⟨rfl, within⟩
      exact ⟨value, List.perm_singleton.mp permuted, within leeway inside⟩

/-- A part that does not occur still does not. -/
theorem Rearranged.none
    (rearranged : Rearranged parts members others) (known : name ∈ parts.map (·.1))
    (none : Json.named name members = []) : Json.named name others = [] := by
  rcases rearranged.named known with ⟨kept, alike, permuted⟩
  rw [none] at alike
  cases alike
  exact List.perm_nil.mp permuted

/-- Without the members of one name, the others are rearranged. -/
theorem Rearranged.rest
    {leeway : Leeway} (rearranged : Rearranged ((name, leeway) :: parts) members others) :
    Rearranged parts (besidesNamed name members) (besidesNamed name others) := by
  rcases rearranged with ⟨kept, strangers, alike, permuted, strange⟩
  have same : ∀ member other, Alike ((name, leeway) :: parts) member other →
      ((member.1 != name) = true ↔ (other.1 != name) = true) := by
    intro member other alike
    rw [alike.1]
  refine ⟨kept.filter (·.1 != name), strangers.filter (·.1 != name), ?_, ?_, ?_⟩
  · refine (List.rel_filter (fun member other => same member other) alike).imp ?_
    exact fun member other alike => ⟨alike.1, fun leeway inside =>
      alike.2 leeway (List.mem_cons_of_mem _ inside)⟩
  · have permuted := permuted.filter (·.1 != name)
    rw [List.filter_append] at permuted
    exact permuted
  · intro stranger inside known
    exact strange stranger (List.mem_of_mem_filter inside) (List.mem_cons_of_mem _ known)

end Rearranged

/-! ## Decoders -/

namespace Decoder

/-- Where the decoder yields a value, it does so for all documents within a leeway. -/
def Tolerates (decoder : Decoder α) (leeway : Leeway) : Prop :=
  ∀ origin document other value, leeway document other →
    decoder.tree origin document = .ok value → decoder.tree origin other = .ok value

theorem Tolerates.same (decoder : Decoder α) : decoder.Tolerates Eq := by
  rintro origin document other value rfl decoded
  exact decoded

/-- An object that may be absent is tolerated where it is tolerated. -/
theorem Tolerates.nullable
    {decoder : Decoder α} {parts : List (String × Leeway)}
    (tolerates : decoder.Tolerates (.object parts)) :
    decoder.nullable.Tolerates (.object parts) := by
  intro origin document other value within decoded
  have same := tolerates origin document other
  rcases within with ⟨members, others, rfl, rfl, rearranged⟩
  have decoded : (decoder.tree origin (.object members)).map some = .ok value := decoded
  rcases eq_ok_of_map decoded with ⟨inner, there, rfl⟩
  have decodedToo := same inner ⟨members, others, rfl, rfl, rearranged⟩ there
  simp [Decoder.nullable, decodedToo, Except.map]

/-- A list is tolerated where its items are. -/
theorem Tolerates.list
    {item : Decoder α} {leeway : Leeway} (tolerates : item.Tolerates leeway) :
    (Decoder.list item).Tolerates (.list leeway) := by
  rintro origin document other value ⟨items, others, rfl, rfl, alike⟩ decoded
  change items.mapM (item.tree origin) = .ok value at decoded
  change others.mapM (item.tree origin) = .ok value
  induction alike generalizing value with
  | nil =>
      exact decoded
  | cons within _ ih =>
      rw [List.mapM_cons] at decoded ⊢
      rcases ok_of_bind decoded with ⟨first, decodedFirst, decoded⟩
      rcases ok_of_bind decoded with ⟨rest, decodedRest, decoded⟩
      rw [tolerates origin _ _ first within decodedFirst, ok_bind, ih rest decodedRest]
      exact decoded

end Decoder

/-! ## Fields -/

namespace Fields

/-- The record is made of those of the members that belong to its fields. -/
def Accepts (fields : Fields α) (origin : Origin) (index : Nat) (members : List (String × Json))
    (record : α) : Prop :=
  ∃ slots, members.foldlM (fields.takeMember origin) fields.empty = .ok slots ∧
    fields.finish .object index slots = .ok record

theorem ofMembers_eq_ok_iff
    {fields : Fields α} {origin : Origin} {members : List (String × Json)} {record : α} :
    fields.ofMembers origin members = .ok record ↔ fields.Accepts origin 0 members record := by
  constructor
  · intro made
    exact ok_of_bind made
  · rintro ⟨slots, taken, finished⟩
    rw [ofMembers, taken]
    exact finished

/-- A field passes over all members but those with its name. -/
theorem takeMembers_one
    (name : String) (decoder : Decoder α) (absence : Absence α) (origin : Origin)
    (members : List (String × Json)) (slot : (one name decoder absence).Slots) :
    members.foldlM ((one name decoder absence).takeMember origin) slot =
      (named name members).foldlM ((one name decoder absence).takeMember origin) slot := by
  induction members generalizing slot with
  | nil =>
      rfl
  | cons member rest ih =>
      by_cases here : member.1 = name
      · have kept : named name (member :: rest) = member :: named name rest :=
          List.filter_cons_of_pos (by simpa using here)
        rw [kept, List.foldlM_cons, List.foldlM_cons]
        exact congrArg _ (funext fun slot => ih slot)
      · have dropped : named name (member :: rest) = named name rest :=
          List.filter_cons_of_neg (by simpa using here)
        have passed : (one name decoder absence).takeMember origin slot member = .ok slot := by
          simp [one, takeMember, here]
        rw [dropped, List.foldlM_cons, passed, ok_bind]
        exact ih slot

/-- A field is made of the one member with its name, or of none. -/
theorem one_accepts_iff
    {name : String} {decoder : Decoder α} {absence : Absence α} {origin : Origin} {index : Nat}
    {members : List (String × Json)} {value : α} :
    (one name decoder absence).Accepts origin index members value ↔
      (∃ document, named name members = [(name, document)] ∧
        decoder.tree origin document = .ok value) ∨
      named name members = [] ∧ (one name decoder absence).finish .object index none = .ok value := by
  let field := one name decoder absence
  have first (document : Json) : field.takeMember origin field.empty (name, document) =
      (decoder.tree origin document).map some := by
    simp [field, one, takeMember]
  have again (value : α) (document : Json) : field.takeMember origin (some value) (name, document) =
      .error (.duplicateField name) := by
    simp [field, one, takeMember]
  have names : ∀ member ∈ named name members, member.1 = name := by
    intro member inside
    simpa using (List.mem_filter.mp inside).2
  rw [Accepts, takeMembers_one]
  cases found : named name members with
  | nil =>
      simp [one]
  | cons member rest =>
      rw [found, List.forall_mem_cons] at names
      rcases member with ⟨other, document⟩
      obtain rfl : other = name := names.1
      rw [List.foldlM_cons, first]
      constructor
      · rintro ⟨slots, taken, finished⟩
        left
        rcases ok_of_bind taken with ⟨slot, here, later⟩
        rcases eq_ok_of_map here with ⟨decoded, made, rfl⟩
        cases rest with
        | nil =>
            cases later
            cases finished
            exact ⟨document, rfl, made⟩
        | cons second rest =>
            rcases second with ⟨name, another⟩
            obtain rfl : name = other := names.2 _ List.mem_cons_self
            rcases ok_of_bind later with ⟨slot, taken, _⟩
            cases (again decoded another).symm.trans taken
      · rintro (⟨document, same, made⟩ | ⟨none, _⟩)
        · cases same
          rw [made]
          exact ⟨some value, rfl, rfl⟩
        · cases none

/-- A pair of records is made of the members of which both are made. -/
theorem both_accepts_iff
    {first : Fields α} {second : Fields β} (apart : ∀ name ∈ second.names, name ∉ first.names)
    {origin : Origin} {index : Nat} {members : List (String × Json)} {a : α} {b : β} :
    (first.both second).Accepts origin index members (a, b) ↔
      first.Accepts origin index members a ∧
        second.Accepts origin (index + first.names.length) members b := by
  constructor
  · rintro ⟨⟨slots, others⟩, taken, finished⟩
    rcases (takeMembers_both apart origin members first.empty slots second.empty others).mp taken
      with ⟨left, right⟩
    rcases ok_of_bind finished with ⟨a, finishedLeft, finished⟩
    rcases ok_of_bind finished with ⟨b, finishedRight, same⟩
    cases same
    exact ⟨⟨slots, left, finishedLeft⟩, others, right, finishedRight⟩
  · rintro ⟨⟨slots, left, finishedLeft⟩, others, right, finishedRight⟩
    refine ⟨besides slots others, ?_, ?_⟩
    · exact (takeMembers_both apart origin members first.empty slots second.empty others).mpr
        ⟨left, right⟩
    · simp [both, besides, finishedLeft, finishedRight]

/-- Where the fields make a record of some members, they make it of them in any order and among
strangers. -/
def Tolerates (fields : Fields α) (parts : List (String × Leeway)) : Prop :=
  ∀ origin index members others record, Rearranged parts members others →
    fields.Accepts origin index members record → fields.Accepts origin index others record

section Tolerates

variable {parts : List (String × Leeway)}

theorem Tolerates.one
    {name : String} {leeway : Leeway} (inside : (name, leeway) ∈ parts) {decoder : Decoder α}
    (tolerates : decoder.Tolerates leeway) (absence : Absence α) :
    (Fields.one name decoder absence).Tolerates parts := by
  intro origin index members others record rearranged accepts
  rw [one_accepts_iff] at accepts ⊢
  rcases accepts with ⟨document, found, decoded⟩ | ⟨none, absent⟩
  · rcases rearranged.one inside found with ⟨other, foundToo, within⟩
    exact .inl ⟨other, foundToo, tolerates origin document other record within decoded⟩
  · exact .inr ⟨rearranged.none (List.mem_map_of_mem inside) none, absent⟩

/-- A field of which nothing may change but its place. -/
theorem Tolerates.plain
    {name : String} (inside : (name, Eq) ∈ parts) (decoder : Decoder α) (absence : Absence α) :
    (Fields.one name decoder absence).Tolerates parts :=
  .one inside (.same decoder) absence

theorem Tolerates.both
    {first : Fields α} {second : Fields β} (left : first.Tolerates parts)
    (right : second.Tolerates parts) (apart : ∀ name ∈ second.names, name ∉ first.names) :
    (first.both second).Tolerates parts := by
  rintro origin index members others ⟨a, b⟩ rearranged accepts
  rw [both_accepts_iff apart] at accepts ⊢
  exact ⟨left _ _ _ _ _ rearranged accepts.1, right _ _ _ _ _ rearranged accepts.2⟩

theorem Tolerates.map
    {fields : Fields α} (tolerates : fields.Tolerates parts) (f : α → β) :
    (fields.map f).Tolerates parts := by
  rintro origin index members others record rearranged ⟨slots, taken, finished⟩
  rcases eq_ok_of_map finished with ⟨inner, made, rfl⟩
  rcases tolerates origin index members others inner rearranged ⟨slots, taken, made⟩ with
    ⟨final, takenToo, madeToo⟩
  refine ⟨final, takenToo, ?_⟩
  simp [Fields.map, madeToo, Except.map]

theorem Tolerates.ofMembers
    {fields : Fields α} (tolerates : fields.Tolerates parts) {origin : Origin}
    {members others : List (String × Json)} {record : α}
    (rearranged : Rearranged parts members others)
    (made : fields.ofMembers origin members = .ok record) :
    fields.ofMembers origin others = .ok record := by
  rw [ofMembers_eq_ok_iff] at made ⊢
  exact tolerates origin 0 members others record rearranged made

end Tolerates

end Fields

theorem Decoder.Tolerates.record
    {fields : Fields α} {parts : List (String × Leeway)} (tolerates : fields.Tolerates parts)
    (name : String) : (Decoder.record name fields).Tolerates (.object parts) := by
  rintro origin document other record ⟨members, others, rfl, rfl, rearranged⟩ made
  exact tolerates.ofMembers rearranged made

/-! ## Unions -/

namespace Variant

/-- Where the variant makes a value of some members, it makes it of them in any order and among
strangers. -/
def Tolerates (variant : Variant α) (parts : List (String × Leeway)) : Prop :=
  ∀ members others value, Rearranged parts members others →
    variant.ofMembers members = .ok value → variant.ofMembers others = .ok value

theorem Tolerates.bare (name : String) (value : α) (parts : List (String × Leeway)) :
    (Variant.bare name value).Tolerates parts :=
  fun _ _ _ _ made => made

theorem Tolerates.record
    {fields : Fields α} {parts : List (String × Leeway)} (tolerates : fields.Tolerates parts)
    (name title : String) : (Variant.record name title fields).Tolerates parts :=
  fun _ _ _ rearranged made => tolerates.ofMembers rearranged made

end Variant

namespace Union

variable {variants : List (Variant α)} {tag : String} {origin : Origin}

/-- A tag is taken up only as long as none has been found. -/
theorem takeMember_tag (document : Json) (found : Option (Variant α)) (aside : List (String × Json)) :
    takeMember tag variants origin (found, aside) (tag, document) =
      if found.isSome then .error (.duplicateField tag)
      else (variantOf variants (origin == .buffered) document).map fun variant =>
        (some variant, aside) := by
  cases found with
  | none =>
      simp only [takeMember, if_true]
      cases variantOf variants (origin == .buffered) document <;> rfl
  | some variant =>
      simp [takeMember]

/-- The members beside the tag are set aside, whatever the tags among them. -/
theorem takeMembers_eq
    (members : List (String × Json)) (found : Option (Variant α))
    (aside : List (String × Json)) :
    members.foldlM (takeMember tag variants origin) (found, aside) =
      ((named tag members).foldlM (takeMember tag variants origin) (found, [])).map fun result =>
        (result.1, (besidesNamed tag members).reverse ++ aside) := by
  induction members generalizing found aside with
  | nil =>
      rfl
  | cons member rest ih =>
      rcases member with ⟨name, document⟩
      by_cases here : name = tag
      · subst here
        have kept : named name ((name, document) :: rest) = (name, document) :: named name rest :=
          List.filter_cons_of_pos (by simp)
        have dropped : besidesNamed name ((name, document) :: rest) = besidesNamed name rest :=
          List.filter_cons_of_neg (by simp)
        rw [kept, dropped, List.foldlM_cons, List.foldlM_cons, takeMember_tag, takeMember_tag]
        cases found with
        | some variant =>
            rfl
        | none =>
            cases variantOf variants (origin == .buffered) document with
            | error cause =>
                rfl
            | ok variant =>
                exact ih (some variant) aside
      · have dropped : named tag ((name, document) :: rest) = named tag rest :=
          List.filter_cons_of_neg (by simpa using here)
        have kept : besidesNamed tag ((name, document) :: rest) =
            (name, document) :: besidesNamed tag rest :=
          List.filter_cons_of_pos (by simpa using here)
        have set : takeMember tag variants origin (found, aside) (name, document) =
            .ok (found, (name, document) :: aside) := by
          simp [takeMember, here]
        rw [kept, dropped, List.foldlM_cons, set, ok_bind, ih, List.reverse_cons,
          List.append_assoc, List.singleton_append]

/-- The value of an object with one tag is what its variant makes of the other members. -/
theorem ofTree_eq_ok_iff
    {title : String} {members : List (String × Json)} {value : α} :
    ofTree title tag variants origin (.object members) = .ok value ↔
      ∃ document variant, named tag members = [(tag, document)] ∧
        variantOf variants (origin == .buffered) document = .ok variant ∧
          variant.ofMembers (besidesNamed tag members) = .ok value := by
  have names : ∀ member ∈ named tag members, member.1 = tag := by
    intro member inside
    simpa using (List.mem_filter.mp inside).2
  simp only [ofTree]
  rw [takeMembers_eq]
  cases found : named tag members with
  | nil =>
      simp [Except.map]
  | cons member rest =>
      rw [found, List.forall_mem_cons] at names
      rcases member with ⟨name, document⟩
      obtain rfl : name = tag := names.1
      rw [List.foldlM_cons, takeMember_tag]
      constructor
      · intro made
        rcases ok_of_bind made with ⟨final, taken, made⟩
        rcases eq_ok_of_map taken with ⟨result, along, rfl⟩
        rcases ok_of_bind along with ⟨next, first, later⟩
        rcases eq_ok_of_map first with ⟨variant, chosen, rfl⟩
        cases rest with
        | nil =>
            cases later
            rw [List.append_nil, List.reverse_reverse] at made
            exact ⟨document, variant, rfl, chosen, made⟩
        | cons second rest =>
            rcases second with ⟨other, another⟩
            obtain rfl : other = name := names.2 _ List.mem_cons_self
            rw [List.foldlM_cons, takeMember_tag] at later
            cases later
      · rintro ⟨document, variant, same, chosen, made⟩
        cases same
        rw [chosen]
        simpa [Except.map] using made

/-- A union with its tag and the parts of its variant in any order and among strangers. -/
theorem ofTree_rearranged
    {name : String} {variant : Variant α} {parts : List (String × Leeway)}
    {members others : List (String × Json)} {value : α}
    (rearranged : Rearranged ((tag, Eq) :: parts) ((tag, .string name) :: members) others)
    (known : variants.find? (·.name == name) = some variant) (tolerates : variant.Tolerates parts)
    (title : String) (made : ofTree title tag variants origin (.object ((tag, .string name) :: members)) =
      .ok value) :
    ofTree title tag variants origin (.object others) = .ok value := by
  rw [ofTree_eq_ok_iff] at made ⊢
  rcases made with ⟨document, chosen, found, choice, made⟩
  have tagged : (tag, .string name) ∈ named tag ((tag, .string name) :: members) :=
    List.mem_filter.mpr ⟨List.mem_cons_self, beq_self_eq_true tag⟩
  rw [found, List.mem_singleton] at tagged
  cases tagged
  obtain rfl : chosen = variant := by
    simp only [variantOf, known] at choice
    cases choice
    rfl
  rcases rearranged.one List.mem_cons_self found with ⟨other, foundToo, rfl⟩
  exact ⟨.string name, chosen, foundToo, choice, tolerates _ _ _ rearranged.rest made⟩

end Union

end SessionBus.Json
