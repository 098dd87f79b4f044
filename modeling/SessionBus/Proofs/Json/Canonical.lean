import SessionBus.Json.Canonical

/-!
# Canonical documents are their own canonical form

Bringing a document into canonical form changes nothing when it has that form already, so a value is
the value of its document.  This is what makes the data of a packet survive being written and read.
-/

namespace SessionBus.Json

/-- Members with increasing names are all kept. -/
theorem keepLast_of_pairwise
    {members : List (String × Json)} (increasing : members.Pairwise fun a b => a.1 < b.1) :
    keepLast members = members := by
  induction members with
  | nil =>
      rfl
  | cons member rest ih =>
      rcases List.pairwise_cons.mp increasing with ⟨first, later⟩
      have kept : keepLast rest = rest := ih later
      simp only [keepLast, List.foldr_cons] at kept ⊢
      rw [kept]
      cases rest with
      | nil =>
          rfl
      | cons next others =>
          have different : member.1 ≠ next.1 :=
            String.ne_of_lt (first next List.mem_cons_self)
          simp [different]

/-- Members with increasing names are sorted already. -/
theorem sortMembers_of_pairwise
    {members : List (String × Json)} (increasing : members.Pairwise fun a b => a.1 < b.1) :
    sortMembers members = members := by
  have sorted : members.mergeSort (fun a b => decide (a.1 ≤ b.1)) = members := by
    apply List.mergeSort_of_pairwise
    exact increasing.imp fun less => decide_eq_true (String.not_lt.mp (String.lt_asymm less))
  rw [sortMembers, sorted, keepLast_of_pairwise increasing]

mutual

/-- A canonical document is its own canonical form. -/
theorem canonical_of_isCanonical :
    (document : Json) → document.IsCanonical → document.canonical = document
  | .null, _ => by simp [canonical]
  | .bool _, _ => by simp [canonical]
  | .number _, _ => by simp [canonical]
  | .string _, _ => by simp [canonical]
  | .array items, isCanonical => by
      simpa [canonical] using canonicalItems_of_itemsCanonical items [] isCanonical
  | .object members, isCanonical => by
      have values := canonicalMembers_of_membersCanonical members [] isCanonical.2
      simp only [List.reverse_nil, List.nil_append] at values
      rw [canonical, values, sortMembers_of_pairwise isCanonical.1]

theorem canonicalItems_of_itemsCanonical :
    (items : List Json) → (done : List Json) → ItemsCanonical items →
      canonicalItems done items = done.reverse ++ items
  | [], done, _ => by simp [canonicalItems]
  | item :: rest, done, isCanonical => by
      rw [canonicalItems, canonical_of_isCanonical item isCanonical.1,
        canonicalItems_of_itemsCanonical rest _ isCanonical.2]
      simp

theorem canonicalMembers_of_membersCanonical :
    (members : List (String × Json)) → (done : List (String × Json)) →
      MembersCanonical members → canonicalMembers done members = done.reverse ++ members
  | [], done, _ => by simp [canonicalMembers]
  | (name, value) :: rest, done, isCanonical => by
      rw [canonicalMembers, canonical_of_isCanonical value isCanonical.1,
        canonicalMembers_of_membersCanonical rest _ isCanonical.2]
      simp

end

@[simp]
theorem toValue_document (value : Value) : value.document.toValue = value := by
  rcases value with ⟨document, isCanonical⟩
  simp [toValue, canonical_of_isCanonical document isCanonical]

end SessionBus.Json
