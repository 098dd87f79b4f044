import SessionBus.Proofs.Registry.Ownership
import SessionBus.Proofs.Registry.Turn

/-!
# Identities are never given out again

A switchboard counts the frames that it takes in, and the identity of a frame is its number in this
count.  The count is the invariant: every identity that a registered frame, an owner or a member has
is at most the number of frames taken in so far, so the next frame is a stranger to all of them.

The counter has 64 bits and stops at its last value.  It agrees with the count as long as no more
than `UInt64.size - 1` frames are taken in.
-/

namespace SessionBus

/-! ## Sizes of sets of frames -/

namespace FrameSet

theorem length_place_le (frame : FrameId) (frames : List FrameId) :
    (place frame frames).length ≤ frames.length + 1 := by
  induction frames with
  | nil =>
      simp [place]
  | cons next rest ih =>
      unfold place
      split
      · simp
      · split
        · simp
        · simpa using ih

theorem size_insert_le (set : FrameSet) (frame : FrameId) :
    (set.insert frame).size ≤ set.size + 1 :=
  length_place_le frame set.toList

theorem size_erase_le (set : FrameSet) (frame : FrameId) :
    (set.erase frame).size ≤ set.size :=
  List.length_filter_le _ _

end FrameSet

/-! ## Owners and members in the table -/

namespace SessionTable

/-- The frames that own a session or are members of one. -/
def participants (table : SessionTable) : List FrameId :=
  table.sessions.flatMap fun session => session.owner :: session.members.map (·.frame)

theorem mem_participants {table : SessionTable} {frame : FrameId} :
    frame ∈ table.participants ↔
      ∃ session ∈ table.sessions,
        frame = session.owner ∨ frame ∈ session.members.map (·.frame) := by
  simp [participants]

/-- The owner of a session takes part in it. -/
theorem mem_participants_of_owner?
    {table : SessionTable} {id : SessionId} {owner : FrameId}
    (owned : table.owner? id = some owner) :
    owner ∈ table.participants := by
  rcases Option.map_eq_some_iff.mp owned with ⟨session, found, rfl⟩
  exact mem_participants.mpr ⟨session, List.mem_of_find?_eq_some found, .inl rfl⟩

/-- Whoever takes part after a claim took part before it, or is the claimant. -/
theorem mem_participants_claim
    {table after : SessionTable} {frame other : FrameId} {id : SessionId} {now : Instant}
    {outcome : ClaimOutcome} (claimed : table.claim frame id now = .ok (outcome, after))
    (inside : other ∈ after.participants) :
    other ∈ table.participants ∨ other = frame := by
  cases known : table.owner? id with
  | some owner =>
      rw [claim_of_owned known] at claimed
      cases claimed
      exact .inl inside
  | none =>
      rw [claim_of_unowned known] at claimed
      split at claimed
      · cases claimed
      · cases claimed
        rcases mem_participants.mp inside with ⟨session, present, part⟩
        rcases mem_insertSession.mp present with rfl | old
        · right
          simpa [Session.founded] using part
        · exact .inl (mem_participants.mpr ⟨session, old, part⟩)

/-- A change that gives a session no participant but one frame gives the table no other. -/
theorem mem_participants_modify
    {table : SessionTable} {id : SessionId} {frame other : FrameId} (change : Session → Session)
    (keepsOwner : ∀ session, (change session).owner = session.owner)
    (adds : ∀ session, other ∈ (change session).members.map (·.frame) →
      other ∈ session.members.map (·.frame) ∨ other = frame)
    (inside : other ∈ (table.modify id change).participants) :
    other ∈ table.participants ∨ other = frame := by
  rcases mem_participants.mp inside with ⟨changed, present, part⟩
  rcases List.mem_map.mp present with ⟨session, old, rfl⟩
  split at part
  · rw [keepsOwner] at part
    rcases part with owner | member
    · exact .inl (mem_participants.mpr ⟨session, old, .inl owner⟩)
    · rcases adds session member with before | new
      · exact .inl (mem_participants.mpr ⟨session, old, .inr before⟩)
      · exact .inr new
  · exact .inl (mem_participants.mpr ⟨session, old, part⟩)

/-- Whoever takes part after a wish to join took part before it, or has had the wish. -/
theorem mem_participants_join
    {table : SessionTable} {frame other : FrameId} {id : SessionId} {displayName : String}
    {now : Instant} (inside : other ∈ (table.join frame id displayName now).2.participants) :
    other ∈ table.participants ∨ other = frame := by
  unfold join at inside
  split at inside
  · exact .inl inside
  · split at inside
    · refine mem_participants_modify (·.rename frame displayName) (fun _ => rfl) ?_ inside
      intro session member
      left
      rcases List.mem_map.mp member with ⟨renamed, present, rfl⟩
      rcases List.mem_map.mp present with ⟨old, known, rfl⟩
      refine List.mem_map.mpr ⟨old, known, ?_⟩
      split <;> rfl
    · refine mem_participants_modify (·.enroll frame displayName now) (fun _ => rfl) ?_ inside
      intro session member
      simpa [Session.enroll] using member

end SessionTable

/-! ## Commands -/

/-- The frame that a command makes an owner or a member, if it is granted. -/
def Command.claimant? : Command → Option FrameId
  | .claim frame _ => some frame
  | .join frame _ _ => some frame
  | _ => none

namespace Switchboard

/-- The switchboard has given out the identities up to some number. -/
structure Issued (board : Switchboard) (maxFrames count : Nat) : Prop where
  limit : board.maxFrames = maxFrames
  next : board.nextFrame.toNat = min (count + 1) (UInt64.size - 1)
  frames : ∀ frame ∈ board.frames.toList, frame.value.toNat ≤ count
  room : board.frames.size ≤ maxFrames

theorem issued_empty (limits : Limits) : (empty limits).Issued limits.maxFrames 0 where
  limit := rfl
  next := rfl
  frames := by simp [empty, FrameSet.empty]
  room := Nat.zero_le _

variable {board : Switchboard} {maxFrames count : Nat}

/-- A frame that is taken in gets the next identity. -/
theorem Issued.register
    (issued : board.Issued maxFrames count) (room : ¬ board.maxFrames ≤ board.frames.size) :
    board.register.board.Issued maxFrames (count + 1) := by
  have number : board.nextFrame.toNat ≤ count + 1 := by
    rw [issued.next]
    exact Nat.min_le_left _ _
  rw [register_of_room board room]
  constructor
  · exact issued.limit
  · rw [toNat_successor, issued.next]
    omega
  · intro frame inside
    rcases FrameSet.mem_insert.mp inside with rfl | old
    · exact number
    · exact Nat.le_succ_of_le (issued.frames frame old)
  · have grown := board.frames.size_insert_le ⟨board.nextFrame⟩
    have limit := issued.limit
    simp only
    omega

theorem Issued.unregister (issued : board.Issued maxFrames count) (frame : FrameId) :
    (board.unregister frame).board.Issued maxFrames count := by
  unfold Switchboard.unregister
  split
  · constructor
    · exact issued.limit
    · exact issued.next
    · intro other inside
      exact issued.frames other (FrameSet.mem_erase.mp inside).1
    · exact Nat.le_trans (board.frames.size_erase_le frame) issued.room
  · exact issued

theorem Issued.of_steady
    {after : Switchboard} (issued : board.Issued maxFrames count) (steady : board.Steady after) :
    after.Issued maxFrames count where
  limit := steady.limit.trans issued.limit
  next := (congrArg UInt64.toNat steady.next).trans issued.next
  frames := steady.frames ▸ issued.frames
  room := steady.frames ▸ issued.room

/-- A frame is refused exactly when all places are taken. -/
theorem Issued.refused_iff (issued : board.Issued maxFrames count) :
    board.register.reply = .error (.tooManyFrames maxFrames) ↔ board.frames.size = maxFrames := by
  have limit := issued.limit
  have room := issued.room
  by_cases full : board.maxFrames ≤ board.frames.size
  · rw [board.register_of_full full, limit]
    exact iff_of_true rfl (by omega)
  · rw [board.register_of_room full]
    exact iff_of_false nofun (by omega)

/-- Owners and members come from claims and wishes to join only. -/
theorem participants_handle
    {now : Instant} {command : Command} {frame : FrameId}
    (inside : frame ∈ (board.handle now command).board.table.participants) :
    frame ∈ board.table.participants ∨ command.claimant? = some frame := by
  cases command with
  | register =>
      left
      simp only [handle, Turn.map, register] at inside
      split at inside <;> exact inside
  | unregister other =>
      left
      simp only [handle, Turn.map, unregister] at inside
      split at inside <;> exact inside
  | claim other session =>
      simp only [handle, Turn.map, claim] at inside
      split at inside
      · exact .inl inside
      · rename_i outcome table claimed
        rcases SessionTable.mem_participants_claim claimed inside with old | new
        · exact .inl old
        · exact .inr (congrArg some new.symm)
  | join other session displayName =>
      rcases SessionTable.mem_participants_join inside with old | new
      · exact .inl old
      · exact .inr (congrArg some new.symm)
  | describe | list | count | deliver =>
      exact .inl inside

end Switchboard

/-! ## Steps -/

namespace Step

/-- The frame that a step takes in. -/
def admitted? (step : Step) : Option FrameId :=
  match step.reply with
  | .registered (.ok frame) => some frame
  | _ => none

/-- The frames that some steps take in, in order. -/
def admitted (steps : List Step) : List FrameId :=
  steps.filterMap admitted?

theorem admitted_cons (step : Step) (rest : List Step) :
    admitted (step :: rest) = step.admitted?.toList ++ admitted rest := by
  unfold admitted
  cases taken : step.admitted? <;> simp [taken]

theorem admitted_append (past future : List Step) :
    admitted (past ++ future) = admitted past ++ admitted future :=
  List.filterMap_append

/-- Only registering takes a frame in. -/
theorem admitted?_eq_none {step : Step} (other : step.command ≠ .register) :
    step.admitted? = none := by
  rcases step with ⟨board, now, command⟩
  cases command with
  | register =>
      exact absurd rfl other
  | unregister | claim | join | describe | list | count | deliver =>
      rfl

theorem reply_of_register {step : Step} (asked : step.command = .register) :
    step.reply = .registered step.before.register.reply := by
  rw [reply, turn, asked]
  rfl

theorem after_of_register {step : Step} (asked : step.command = .register) :
    step.after = step.before.register.board := by
  rw [after, turn, asked]
  rfl

variable {step : Step} {maxFrames count : Nat}

/-- A step takes in the next frame exactly when it is asked to and there is room. -/
theorem admitted?_of_register (asked : step.command = .register) :
    step.admitted? =
      if step.before.maxFrames ≤ step.before.frames.size then none
      else some ⟨step.before.nextFrame⟩ := by
  rw [admitted?, reply_of_register asked]
  by_cases full : step.before.maxFrames ≤ step.before.frames.size
  · rw [Switchboard.register_of_full _ full, if_pos full]
  · rw [Switchboard.register_of_room _ full, if_neg full]

/-- Every step counts the frame that it takes in. -/
theorem issued_after (issued : step.before.Issued maxFrames count) :
    step.after.Issued maxFrames (count + step.admitted?.toList.length) := by
  by_cases comes : step.command = .register
  · rw [after_of_register comes, admitted?_of_register comes]
    split
    · rename_i full
      rw [Switchboard.register_of_full _ full]
      exact issued
    · rename_i room
      exact issued.register room
  · rw [admitted?_eq_none comes]
    by_cases goes : ∃ frame, step.command = .unregister frame
    · rcases goes with ⟨frame, asked⟩
      rw [after, turn, asked]
      exact issued.unregister frame
    · exact issued.of_steady
        (step.before.steady_handle step.now comes fun frame asked => goes ⟨frame, asked⟩)

/-- The frame that a step takes in has the number of the frames taken in so far, and one more. -/
theorem toNat_of_admitted?
    (issued : step.before.Issued maxFrames count) (few : count + 1 < UInt64.size)
    {frame : FrameId} (admitted : step.admitted? = some frame) :
    frame.value.toNat = count + 1 := by
  have asked : step.command = .register := by
    by_cases comes : step.command = .register
    · exact comes
    · simp [admitted?_eq_none comes] at admitted
  rw [admitted?_of_register asked] at admitted
  split at admitted
  · cases admitted
  · cases admitted
    rw [issued.next]
    omega

end Step

/-! ## Runs -/

namespace Switchboard

variable {board : Switchboard} {commands : List (Instant × Command)} {past future : List Step}
  {maxFrames count : Nat}

/-- The count goes on along a run. -/
theorem issued_afterSteps
    (issued : board.Issued maxFrames count) (split : board.run commands = past ++ future) :
    (board.afterSteps past).Issued maxFrames (count + (Step.admitted past).length) := by
  induction past generalizing board commands count with
  | nil =>
      exact issued
  | cons step past ih =>
      rcases before_of_run_eq_cons split with ⟨here, rest, continues⟩
      have after := ih (Step.issued_after (here ▸ issued)) continues.symm
      rw [Step.admitted_cons, List.length_append, ← Nat.add_assoc]
      exact after

/-- The state before a step of a run is the one that the steps before it have led to. -/
theorem before_eq_afterSteps
    {step : Step} (split : board.run commands = past ++ step :: future) :
    step.before = board.afterSteps past := by
  rcases run_eq_append split with ⟨rest, here⟩
  exact (before_of_run_eq_cons here.symm).1

/-- The frames that a run takes in are numbered in order. -/
theorem toNat_admitted
    (issued : board.Issued maxFrames count)
    (few : count + (Step.admitted (board.run commands)).length < UInt64.size) :
    (Step.admitted (board.run commands)).map (·.value.toNat) =
      List.range' (count + 1) (Step.admitted (board.run commands)).length := by
  induction commands generalizing board count with
  | nil =>
      rfl
  | cons timed rest ih =>
      let step : Step := ⟨board, timed.1, timed.2⟩
      have after : step.after.Issued maxFrames (count + step.admitted?.toList.length) :=
        Step.issued_after issued
      have run : board.run (timed :: rest) = step :: step.after.run rest := rfl
      rw [run, Step.admitted_cons] at few ⊢
      cases admitted : step.admitted? with
      | none =>
          rw [admitted] at after few
          exact ih after few
      | some frame =>
          rw [admitted] at after few
          rw [Option.toList_some, List.singleton_append, List.length_cons] at few ⊢
          have number := Step.toNat_of_admitted? issued (by omega) admitted
          have later := ih after (by simpa using by omega)
          rw [List.map_cons, List.range'_succ, number]
          exact congrArg _ later

/-- Claims and wishes to join are made for frames that were known or have been taken in before. -/
def Entitled (known : List FrameId) : List Step → Prop
  | [] => True
  | step :: rest =>
      (∀ frame ∈ step.command.claimant?, frame ∈ known) ∧
        Entitled (known ++ step.admitted?.toList) rest

instance decidableEntitled : (known : List FrameId) → (steps : List Step) →
    Decidable (Entitled known steps)
  | _, [] => .isTrue trivial
  | known, step :: rest =>
      have := decidableEntitled (known ++ step.admitted?.toList) rest
      inferInstanceAs <| Decidable <|
        (∀ frame ∈ step.command.claimant?, frame ∈ known) ∧
          Entitled (known ++ step.admitted?.toList) rest

/-- Who takes part in a session has been taken in. -/
theorem admitted_of_mem_participants
    {known : List FrameId} (start : ∀ frame ∈ board.table.participants, frame ∈ known)
    (entitled : Entitled known (board.run commands))
    (split : board.run commands = past ++ future) {frame : FrameId}
    (inside : frame ∈ (board.afterSteps past).table.participants) :
    frame ∈ known ++ Step.admitted past := by
  induction past generalizing board commands known with
  | nil =>
      simpa [Step.admitted] using start frame inside
  | cons step past ih =>
      rcases before_of_run_eq_cons split with ⟨here, rest, continues⟩
      rw [split] at entitled
      rcases entitled with ⟨claimants, later⟩
      have started : ∀ frame ∈ step.after.table.participants,
          frame ∈ known ++ step.admitted?.toList := by
        intro frame takesPart
        apply List.mem_append_left
        rcases participants_handle takesPart with old | claimant
        · exact start frame (here ▸ old)
        · exact claimants frame claimant
      rw [Step.admitted_cons, ← List.append_assoc]
      exact ih started (continues ▸ later) continues.symm inside

/-- A frame that is no owner is refused what has an owner, then and later. -/
theorem claim_refused_of_owned
    {session : SessionId} {owner frame : FrameId} (owned : board.owner? session = some owner)
    (stranger : frame ≠ owner) {later : Step} (member : later ∈ board.run commands)
    (asked : later.command = .claim frame session) :
    later.reply = .claimed (.ok false) := by
  have known := holds_of_mem_run (fun board => board.owner? session = some owner)
    (fun _ => Step.owner?_after_of_owned) owned member
  exact ((Step.respects_of_owned known.1).answersOther frame stranger asked).1

/-- What a state shows after some steps: there are not too many frames, and every owner and member
has a smaller number than the next frame will get. -/
structure Numbers (board : Switchboard) (maxFrames : Nat) (past : List Step) : Prop where
  room : board.frames.size ≤ maxFrames
  next :
    (Step.admitted past).length + 1 < UInt64.size →
      board.nextFrame.toNat = (Step.admitted past).length + 1
  below :
    ∀ frame ∈ board.table.participants, frame.value.toNat < (Step.admitted past).length + 1

end Switchboard

/-- What a wish to register shows, and the steps after it: it is refused exactly when there is no
room, and the frame that is taken in has no part in the sessions that there are. -/
structure Step.Admits (step : Step) (maxFrames : Nat) (future : List Step) : Prop where
  reply :
    step.reply = .registered (.error (.tooManyFrames maxFrames)) ↔
      step.before.frames.size = maxFrames
  fails : step.admitted? = none ↔ step.before.frames.size = maxFrames
  stranger :
    ∀ frame, step.admitted? = some frame → frame ∉ step.after.table.participants
  refused :
    ∀ frame, step.admitted? = some frame →
      ∀ session, (step.after.table.describe session).isSome = true →
        ∀ later ∈ future, later.command = .claim frame session →
          later.reply = .claimed (.ok false)

namespace Switchboard

section Runs

variable {limits : Limits}
  (few : (Step.admitted ((empty limits).run commands)).length < UInt64.size)
  (entitled : Entitled [] ((empty limits).run commands))
  (split : (empty limits).run commands = past ++ future)

include few in
theorem toNat_admitted_run :
    (Step.admitted ((empty limits).run commands)).map (·.value.toNat) =
      List.range' 1 (Step.admitted ((empty limits).run commands)).length := by
  rw [← Nat.zero_add 1]
  apply toNat_admitted (issued_empty limits)
  rw [Nat.zero_add]
  exact few

include few split in
/-- The frames that have been taken in have the first numbers. -/
theorem toNat_le_of_mem_admitted {frame : FrameId} (inside : frame ∈ Step.admitted past) :
    frame.value.toNat ≤ (Step.admitted past).length := by
  have numbered := toNat_admitted_run few
  rw [split, Step.admitted_append, List.length_append, List.map_append, ← List.range'_append_1]
    at numbered
  have first := List.append_inj_left numbered (by simp)
  have number := List.mem_map_of_mem (f := (·.value.toNat)) inside
  rw [first, List.mem_range'_1] at number
  omega

include few entitled split in
theorem numbers_afterSteps :
    ((empty limits).afterSteps past).Numbers limits.maxFrames past := by
  have issued := issued_afterSteps (issued_empty limits) split
  rw [Nat.zero_add] at issued
  constructor
  · exact issued.room
  · intro room
    rw [issued.next]
    omega
  · intro frame inside
    have unknown : ∀ frame ∈ (empty limits).table.participants, frame ∈ ([] : List FrameId) :=
      nofun
    have admitted := admitted_of_mem_participants unknown entitled split inside
    exact Nat.lt_succ_of_le (toNat_le_of_mem_admitted few split admitted)

end Runs

section Registering

variable {limits : Limits} {step : Step}
  (few : (Step.admitted ((empty limits).run commands)).length < UInt64.size)
  (entitled : Entitled [] ((empty limits).run commands))
  (split : (empty limits).run commands = past ++ step :: future)

include few entitled split in
/-- A frame that is taken in has a greater number than all that take part in sessions. -/
theorem notMem_participants_of_admitted? {frame : FrameId}
    (admitted : step.admitted? = some frame) : frame ∉ step.before.table.participants := by
  have issued := issued_afterSteps (issued_empty limits) split
  have numbers := numbers_afterSteps few entitled split
  rw [← before_eq_afterSteps split] at issued numbers
  have count : (Step.admitted past).length + 1 < UInt64.size := by
    rw [split, Step.admitted_append, Step.admitted_cons, admitted, List.length_append,
      List.length_append, Option.toList_some, List.length_singleton] at few
    omega
  rw [Nat.zero_add] at issued
  have number := Step.toNat_of_admitted? issued count admitted
  intro inside
  have below := numbers.below frame inside
  omega

include few entitled split in
theorem admits_of_register (asked : step.command = .register) :
    step.Admits limits.maxFrames future := by
  have issued := issued_afterSteps (issued_empty limits) split
  rw [← before_eq_afterSteps split] at issued
  have limit := issued.limit
  have room := issued.room
  have table : step.after.table = step.before.table := by
    rw [Step.after_of_register asked]
    unfold register
    split <;> rfl
  have stranger : ∀ frame, step.admitted? = some frame →
      frame ∉ step.after.table.participants := by
    rw [table]
    exact fun frame => notMem_participants_of_admitted? few entitled split
  constructor
  · rw [Step.reply_of_register asked, Reply.registered.injEq]
    exact issued.refused_iff
  · rw [Step.admitted?_of_register asked]
    by_cases full : step.before.maxFrames ≤ step.before.frames.size
    · simp only [full, if_true, true_iff]
      omega
    · simp only [full, if_false, reduceCtorEq, false_iff]
      omega
  · exact stranger
  · intro frame admitted session described later member claimed
    rcases Option.isSome_iff_exists.mp described with ⟨record, found⟩
    have owned : step.after.owner? session = some record.owner := by
      simp [owner?, SessionTable.owner?, found]
    have different : frame ≠ record.owner := by
      rintro rfl
      exact stranger _ admitted (SessionTable.mem_participants_of_owner? owned)
    rcases run_eq_append split with ⟨rest, here⟩
    rcases before_of_run_eq_cons here.symm with ⟨_, remaining, continues⟩
    rw [continues] at member
    exact claim_refused_of_owned owned different member claimed

end Registering

/--
Identities are given out in order and never again, so nobody inherits anything.  The frames that a
run takes in are numbered from one, whoever is refused or goes in between.  There are never more of
them than the limit, and one is refused exactly when the limit is reached.  Every owner and member
has a smaller number than the next frame will get; so a frame that has just been taken in takes part
in no session, and is refused those that there are as often as it claims them.
-/
theorem identities_given_out_once
    (limits : Limits) (commands : List (Instant × Command))
    (few : (Step.admitted ((empty limits).run commands)).length < UInt64.size)
    (entitled : Entitled [] ((empty limits).run commands)) :
    (Step.admitted ((empty limits).run commands)).map (·.value.toNat) =
        List.range' 1 (Step.admitted ((empty limits).run commands)).length ∧
      (∀ past future, (empty limits).run commands = past ++ future →
        ((empty limits).afterSteps past).Numbers limits.maxFrames past) ∧
      ∀ past step future, (empty limits).run commands = past ++ step :: future →
        step.command = .register → step.Admits limits.maxFrames future := by
  refine ⟨?_, ?_, ?_⟩
  · exact toNat_admitted_run few
  · intro past future split
    exact numbers_afterSteps few entitled split
  · intro past step future split asked
    exact admits_of_register few entitled split asked

/-- A frame that comes after the owner has gone, and after another was refused, is the second one;
it does not get the session of the first. -/
theorem newcomer_refused_after_farewell :
    let commands : List (Instant × Command) :=
      [(.epoch, .register), (.epoch, .register), (.epoch, .claim ⟨1⟩ ⟨"plan"⟩),
        (.epoch, .unregister ⟨1⟩), (.epoch, .register), (.epoch, .claim ⟨2⟩ ⟨"plan"⟩)]
    let run := (empty ⟨1, 2⟩).run commands
    (Step.admitted run).map (·.value.toNat) = [1, 2] ∧
      run.getLast?.map Step.reply = some (.claimed (.ok false)) := by
  intro commands run
  have given := identities_given_out_once ⟨1, 2⟩ commands (by decide) (by decide)
  refine ⟨given.1, ?_⟩
  have admits := given.2.2 (run.take 4) (run.get ⟨4, by decide⟩) (run.drop 5) rfl rfl
  have last : run.get ⟨5, by decide⟩ ∈ run.drop 5 := List.mem_singleton_self _
  exact congrArg some (admits.refused ⟨2⟩ rfl ⟨"plan"⟩ rfl _ last rfl)

end Switchboard

end SessionBus
