import SessionBus.Frame.Set

/-!
# Sets of frames are determined by their elements

The list of a set is the only list from which that set is made in order, so making a set of the
frames of a set gives it back.
-/

namespace SessionBus.FrameSet

/-- Frames in strictly increasing order are all kept. -/
theorem dropRepeats_of_pairwise
    {frames : List FrameId} (increasing : frames.Pairwise fun a b => a.value < b.value) :
    dropRepeats frames = frames := by
  induction frames with
  | nil =>
      rfl
  | cons frame rest ih =>
      rcases List.pairwise_cons.mp increasing with ⟨first, later⟩
      have kept : dropRepeats rest = rest := ih later
      simp only [dropRepeats, List.foldr_cons] at kept ⊢
      rw [kept]
      cases rest with
      | nil =>
          rfl
      | cons next others =>
          have different : frame ≠ next := by
            rintro rfl
            exact UInt64.lt_irrefl frame.value (first frame List.mem_cons_self)
          simp [different]

/-- The set of the frames of a set is that set. -/
@[simp]
theorem ofList_toList (set : FrameSet) : ofList set.toList = set := by
  rcases set with ⟨frames, increasing⟩
  have sorted : frames.mergeSort FrameId.le = frames := by
    apply List.mergeSort_of_pairwise
    exact increasing.imp fun less => decide_eq_true (UInt64.le_of_lt less)
  simp only [ofList, sorted, dropRepeats_of_pairwise increasing]

/-- A set has a frame exactly when its list has it. -/
@[simp]
theorem contains_eq_true {set : FrameSet} {frame : FrameId} :
    set.contains frame = true ↔ frame ∈ set.toList := by
  simp [contains]

/-- A frame that was not in a list leaves nothing behind when it is put there and taken out. -/
theorem filter_place
    {frame : FrameId} {frames : List FrameId} (absent : frame ∉ frames) :
    (place frame frames).filter (· != frame) = frames := by
  induction frames with
  | nil =>
      simp [place]
  | cons next rest ih =>
      rw [List.mem_cons, not_or] at absent
      have different : next ≠ frame := Ne.symm absent.1
      have kept : rest.filter (· != frame) = rest := by
        rw [List.filter_eq_self]
        intro other inside
        simpa using ne_of_mem_of_not_mem inside absent.2
      unfold place
      split
      · simp [different, kept]
      · rw [if_neg absent.1]
        simp [different, ih absent.2]

theorem erase_insert {set : FrameSet} {frame : FrameId} (absent : frame ∉ set.toList) :
    (set.insert frame).erase frame = set := by
  rcases set with ⟨frames, sorted⟩
  simp only [insert, erase, filter_place absent]

theorem nodup (set : FrameSet) : set.toList.Nodup :=
  set.sorted.imp fun less same => by simp [same] at less

end SessionBus.FrameSet
