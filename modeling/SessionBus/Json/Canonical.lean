import SessionBus.Json.Basic

/-!
# Canonical documents

A document is canonical when every object in it lists its names in increasing order, none twice.
Names are compared character by character, which is the order of their UTF-8 bytes.

`canonical` brings a document into this form: of the members with one name the last one counts.  A
`Value` is a canonical document, and what a packet carries.
-/

namespace SessionBus.Json

/-- Keeps the last of neighbouring members with the same name. -/
def keepLast (members : List (String × Json)) : List (String × Json) :=
  members.foldr
    (fun member kept =>
      match kept with
      | [] => [member]
      | next :: rest => if member.1 = next.1 then next :: rest else member :: next :: rest)
    []

/-- Sorts members by name and keeps the last member of each name. -/
def sortMembers (members : List (String × Json)) : List (String × Json) :=
  keepLast (members.mergeSort fun a b => decide (a.1 ≤ b.1))

mutual

def canonical : Json → Json
  | .array items => .array (canonicalItems [] items)
  | .object members => .object (sortMembers (canonicalMembers [] members))
  | leaf => leaf

/-- The canonical forms of items, after those that are already done, which stand in reverse. -/
def canonicalItems (done : List Json) : List Json → List Json
  | [] => done.reverse
  | item :: rest => canonicalItems (item.canonical :: done) rest

/-- The members with canonical values, after those that are already done, which stand in reverse. -/
def canonicalMembers (done : List (String × Json)) :
    List (String × Json) → List (String × Json)
  | [] => done.reverse
  | (name, value) :: rest => canonicalMembers ((name, value.canonical) :: done) rest

end

mutual

/-- Every object lists its names in strictly increasing order. -/
def IsCanonical : Json → Prop
  | .array items => ItemsCanonical items
  | .object members =>
    members.Pairwise (fun a b => a.1 < b.1) ∧ MembersCanonical members
  | _ => True

def ItemsCanonical : List Json → Prop
  | [] => True
  | item :: rest => item.IsCanonical ∧ ItemsCanonical rest

def MembersCanonical : List (String × Json) → Prop
  | [] => True
  | (_, value) :: rest => value.IsCanonical ∧ MembersCanonical rest

end

theorem itemsCanonical_iff (items : List Json) :
    ItemsCanonical items ↔ ∀ item ∈ items, item.IsCanonical := by
  induction items with
  | nil => simp [ItemsCanonical]
  | cons item rest ih => simp [ItemsCanonical, ih]

theorem membersCanonical_iff (members : List (String × Json)) :
    MembersCanonical members ↔ ∀ member ∈ members, member.2.IsCanonical := by
  induction members with
  | nil => simp [MembersCanonical]
  | cons member rest ih => simp [MembersCanonical, ih]

/-- Nothing new is kept. -/
theorem mem_of_mem_keepLast {member : String × Json} {members : List (String × Json)}
    (kept : member ∈ keepLast members) : member ∈ members := by
  induction members with
  | nil => simp [keepLast] at kept
  | cons head rest ih =>
    simp only [keepLast, List.foldr_cons] at kept ih
    split at kept
    · simp_all
    · rename_i next others same
      rw [same] at ih
      split at kept
      · exact List.mem_cons_of_mem _ (ih kept)
      · rcases List.mem_cons.1 kept with rfl | later
        · exact List.mem_cons_self
        · exact List.mem_cons_of_mem _ (ih later)

/-- Among members in order of their names, the ones that are kept have increasing names. -/
theorem pairwise_keepLast {members : List (String × Json)}
    (sorted : members.Pairwise fun a b => a.1 ≤ b.1) :
    (keepLast members).Pairwise fun a b => a.1 < b.1 := by
  induction members with
  | nil => simp [keepLast]
  | cons head rest ih =>
    obtain ⟨first, sorted⟩ := List.pairwise_cons.1 sorted
    have tail := ih sorted
    have below : ∀ member ∈ keepLast rest, head.1 ≤ member.1 :=
      fun member kept => first member (mem_of_mem_keepLast kept)
    simp only [keepLast, List.foldr_cons] at tail below ⊢
    split
    · simp
    · rename_i next others same
      rw [same] at tail below
      split
      · exact tail
      · rename_i different
        refine List.pairwise_cons.2 ⟨fun member kept => ?_, tail⟩
        have strict : head.1 < next.1 := by
          rcases Decidable.em (head.1 < next.1) with less | notLess
          · exact less
          · exact absurd (String.le_antisymm (below next List.mem_cons_self)
              (String.not_lt.1 notLess)) different
        rcases List.mem_cons.1 kept with rfl | later
        · exact strict
        · exact String.lt_trans strict ((List.pairwise_cons.1 tail).1 member later)

theorem pairwise_sortMembers (members : List (String × Json)) :
    (sortMembers members).Pairwise fun a b => a.1 < b.1 := by
  refine pairwise_keepLast ?_
  refine (List.pairwise_mergeSort ?_ ?_ members).imp fun ordered => of_decide_eq_true ordered
  · intro a b c left right
    exact decide_eq_true (String.le_trans (of_decide_eq_true left) (of_decide_eq_true right))
  · intro a b
    rcases String.le_total a.1 b.1 with ordered | ordered <;> simp [ordered]

mutual

theorem isCanonical_canonical : (document : Json) → document.canonical.IsCanonical
  | .null | .bool _ | .number _ | .string _ => by simp [canonical, IsCanonical]
  | .array items => by
    simpa [canonical, IsCanonical] using itemsCanonical_canonicalItems [] items trivial
  | .object members => by
    have values := membersCanonical_canonicalMembers [] members trivial
    rw [membersCanonical_iff] at values
    simp only [canonical, IsCanonical]
    refine ⟨pairwise_sortMembers _, (membersCanonical_iff _).2 fun member kept => ?_⟩
    exact values member (List.mem_mergeSort.1 (mem_of_mem_keepLast kept))

theorem itemsCanonical_canonicalItems (done : List Json) :
    (items : List Json) → ItemsCanonical done → ItemsCanonical (canonicalItems done items)
  | [], before => by
    rw [itemsCanonical_iff] at *
    simpa [canonicalItems] using before
  | item :: rest, before => by
    simpa [canonicalItems] using itemsCanonical_canonicalItems (item.canonical :: done) rest
      ⟨isCanonical_canonical item, before⟩

theorem membersCanonical_canonicalMembers (done : List (String × Json)) :
    (members : List (String × Json)) → MembersCanonical done →
      MembersCanonical (canonicalMembers done members)
  | [], before => by
    rw [membersCanonical_iff] at *
    simpa [canonicalMembers] using before
  | (name, value) :: rest, before => by
    simpa [canonicalMembers] using
      membersCanonical_canonicalMembers ((name, value.canonical) :: done) rest
        ⟨isCanonical_canonical value, before⟩

end

/-- A canonical document. -/
structure Value where
  document : Json
  canonical : document.IsCanonical
deriving DecidableEq

instance : Inhabited Value := ⟨.null, trivial⟩

def toValue (document : Json) : Value :=
  ⟨document.canonical, isCanonical_canonical document⟩

end SessionBus.Json
