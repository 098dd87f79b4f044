import SessionBus.Frame

/-!
# Sets of frames

A finite set of frame identities, kept as the list of its elements in increasing order.  The order
makes the representation unique, so equal sets are equal lists.
-/

namespace SessionBus

/-- A finite set of frames in increasing order. -/
structure FrameSet where
  toList : List FrameId
  sorted : toList.Pairwise fun a b => a.value < b.value
deriving DecidableEq

namespace FrameSet

def empty : FrameSet := ⟨[], .nil⟩

instance : Inhabited FrameSet := ⟨empty⟩

def single (frame : FrameId) : FrameSet :=
  ⟨[frame], List.pairwise_singleton _ _⟩

def contains (set : FrameSet) (frame : FrameId) : Bool :=
  set.toList.contains frame

/-- Keeps the first of neighbouring frames that are equal. -/
def dropRepeats (frames : List FrameId) : List FrameId :=
  frames.foldr
    (fun frame kept =>
      match kept with
      | [] => [frame]
      | next :: rest => if frame = next then next :: rest else frame :: next :: rest)
    []

theorem mem_dropRepeats {frame : FrameId} {frames : List FrameId} :
    frame ∈ dropRepeats frames ↔ frame ∈ frames := by
  induction frames with
  | nil => simp [dropRepeats]
  | cons head rest ih =>
    simp only [dropRepeats, List.foldr_cons] at ih ⊢
    split
    · rename_i none
      simp_all
    · rename_i next others same
      rw [same] at ih
      split
      · rename_i equal
        rw [ih, List.mem_cons, equal]
        refine ⟨Or.inr, fun member => member.elim (fun here => ?_) id⟩
        exact ih.1 (here ▸ List.mem_cons_self)
      · rw [List.mem_cons, ih, List.mem_cons]

/-- Frames in order become frames in strict order. -/
theorem pairwise_dropRepeats {frames : List FrameId}
    (sorted : frames.Pairwise fun a b => a.value ≤ b.value) :
    (dropRepeats frames).Pairwise fun a b => a.value < b.value := by
  induction frames with
  | nil => simp [dropRepeats]
  | cons head rest ih =>
    obtain ⟨first, sorted⟩ := List.pairwise_cons.1 sorted
    have tail := ih sorted
    have below : ∀ frame ∈ dropRepeats rest, head.value ≤ frame.value :=
      fun frame kept => first frame (mem_dropRepeats.1 kept)
    simp only [dropRepeats, List.foldr_cons] at tail below ⊢
    split
    · simp
    · rename_i next others same
      rw [same] at tail below
      split
      · exact tail
      · rename_i different
        refine List.pairwise_cons.2 ⟨fun frame kept => ?_, tail⟩
        have strict : head.value < next.value := by
          rcases UInt64.lt_or_eq_of_le (below next List.mem_cons_self) with less | equal
          · exact less
          · exact absurd (by cases head; cases next; simpa using equal) different
        rcases List.mem_cons.1 kept with rfl | later
        · exact strict
        · exact UInt64.lt_trans strict ((List.pairwise_cons.1 tail).1 frame later)

def ofList (frames : List FrameId) : FrameSet where
  toList := dropRepeats (frames.mergeSort FrameId.le)
  sorted := by
    refine pairwise_dropRepeats ?_
    refine (List.pairwise_mergeSort ?_ ?_ frames).imp fun ordered => by
      simpa [FrameId.le] using ordered
    · intro a b c left right
      simp only [FrameId.le, decide_eq_true_eq] at *
      exact UInt64.le_trans left right
    · intro a b
      simp only [FrameId.le, Bool.or_eq_true, decide_eq_true_eq]
      exact UInt64.le_total a.value b.value

/-- The set of the frames in a list has exactly those frames. -/
@[simp]
theorem mem_ofList {frame : FrameId} {frames : List FrameId} :
    frame ∈ (ofList frames).toList ↔ frame ∈ frames := by
  simp [ofList, mem_dropRepeats, List.mem_mergeSort]

/-- Puts a frame at its place in a strictly increasing list, once. -/
def place (frame : FrameId) : List FrameId → List FrameId
  | [] => [frame]
  | next :: rest =>
    if frame.value < next.value then frame :: next :: rest
    else if frame = next then next :: rest
    else next :: place frame rest

theorem mem_place {frame other : FrameId} {frames : List FrameId} :
    other ∈ place frame frames ↔ other = frame ∨ other ∈ frames := by
  induction frames with
  | nil => simp [place]
  | cons next rest ih => grind [place]

theorem pairwise_place {frame : FrameId} {frames : List FrameId}
    (sorted : frames.Pairwise fun a b => a.value < b.value) :
    (place frame frames).Pairwise fun a b => a.value < b.value := by
  induction frames with
  | nil => simp [place]
  | cons next rest ih =>
    obtain ⟨first, later⟩ := List.pairwise_cons.1 sorted
    unfold place
    split
    · rename_i before
      refine List.pairwise_cons.2 ⟨fun other kept => ?_, sorted⟩
      rcases List.mem_cons.1 kept with rfl | further
      · exact before
      · exact UInt64.lt_trans before (first other further)
    · rename_i after
      split
      · exact sorted
      · rename_i different
        refine List.pairwise_cons.2 ⟨fun other kept => ?_, ih later⟩
        rcases mem_place.1 kept with rfl | further
        · refine (UInt64.lt_or_eq_of_le (UInt64.not_lt.1 after)).resolve_right fun equal => ?_
          exact different (by cases other; cases next; simpa using equal.symm)
        · exact first other further

def insert (set : FrameSet) (frame : FrameId) : FrameSet :=
  ⟨place frame set.toList, pairwise_place set.sorted⟩

def erase (set : FrameSet) (frame : FrameId) : FrameSet :=
  ⟨set.toList.filter (· != frame), set.sorted.filter _⟩

def size (set : FrameSet) : Nat :=
  set.toList.length

/-- A set has a frame after its insertion, and what it had before. -/
@[simp]
theorem mem_insert {frame other : FrameId} {set : FrameSet} :
    other ∈ (set.insert frame).toList ↔ other = frame ∨ other ∈ set.toList :=
  mem_place

/-- A set has what it had before, but not the frame that was erased. -/
@[simp]
theorem mem_erase {frame other : FrameId} {set : FrameSet} :
    other ∈ (set.erase frame).toList ↔ other ∈ set.toList ∧ other ≠ frame := by
  simp [erase]

end FrameSet

end SessionBus
