/-!
# Lists whose entries have keys

Connectors, inboxes and connections are kept in lists and looked up by a key that no two of them
share.
-/

namespace SessionBus.Keyed

variable {α κ : Type} {key : α → κ} {entries : List α}

/-- One more entry must have a key of its own. -/
theorem apart_append {entry : α} :
    ((entries ++ [entry]).map key).Nodup ↔
      (entries.map key).Nodup ∧ ∀ other ∈ entries, key other ≠ key entry := by
  rw [List.map_append, List.nodup_append]
  constructor
  · rintro ⟨apart, _, fresh⟩
    refine ⟨apart, fun other inside => ?_⟩
    exact fresh _ (List.mem_map_of_mem inside) _ (List.mem_singleton_self _)
  · rintro ⟨apart, fresh⟩
    refine ⟨apart, by simp, ?_⟩
    simp only [List.forall_mem_map, List.map_singleton, List.mem_singleton]
    rintro other inside wanted rfl
    exact fresh other inside

variable [DecidableEq κ]

theorem find?_of_mem
    (apart : (entries.map key).Nodup) {entry : α} (inside : entry ∈ entries) :
    entries.find? (fun other => key other == key entry) = some entry := by
  induction entries with
  | nil =>
      simp at inside
  | cons first rest ih =>
      simp only [List.map_cons, List.nodup_cons] at apart
      rcases List.mem_cons.mp inside with rfl | later
      · simp
      · have other : key first ≠ key entry := by
          intro same
          exact apart.1 (same ▸ List.mem_map_of_mem later)
        simpa [List.find?_cons, other] using ih apart.2 later

/-- Entries with the same key are the same. -/
theorem eq_of_mem
    (apart : (entries.map key).Nodup) {first second : α}
    (firstInside : first ∈ entries) (secondInside : second ∈ entries)
    (same : key first = key second) : first = second := by
  have found := find?_of_mem apart firstInside
  rw [same, find?_of_mem apart secondInside] at found
  exact (Option.some.inj found).symm

/-- Nothing is found under a key that no entry has. -/
theorem find?_eq_none {wanted : κ} (absent : wanted ∉ entries.map key) :
    entries.find? (fun other => key other == wanted) = none := by
  rw [List.find?_eq_none]
  intro entry inside same
  apply absent
  rw [← beq_iff_eq.mp same]
  exact List.mem_map_of_mem inside

end SessionBus.Keyed
