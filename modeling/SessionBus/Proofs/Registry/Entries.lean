import SessionBus.Proofs.Registry.Asking
import SessionBus.Proofs.Registry.Ownership

/-!
# Whose command changes an entry

A frame enters a session by its own claim or its own wish to join, and only the latter gives it
another name.  No command of one frame touches the entries of the others, and nobody is made an
owner but by a claim of its own.
-/

namespace SessionBus

/-! ## Tables -/

/-- The entries of a frame among the members of a session. -/
def Session.entriesOf (session : Session) (frame : FrameId) : List Member :=
  session.members.filter (·.frame == frame)

namespace Session

variable (session : Session) (frame other : FrameId) (displayName : String)

theorem entriesOf_rename_other (different : other ≠ frame) :
    (session.rename frame displayName).entriesOf other = session.entriesOf other := by
  simp only [entriesOf, rename]
  induction session.members with
  | nil =>
      rfl
  | cons member rest ih =>
      rw [List.map_cons, List.filter_cons, List.filter_cons, ih]
      by_cases here : member.frame = frame
      · have unseen : (frame == other) = false := by
          simpa using Ne.symm different
        simp [here, unseen]
      · simp [here]

theorem displayName_of_mem_rename {member : Member}
    (inside : member ∈ (session.rename frame displayName).entriesOf frame) :
    member.displayName = some displayName := by
  simp only [entriesOf, rename, List.mem_filter, List.mem_map] at inside
  rcases inside with ⟨⟨before, _, rfl⟩, own⟩
  by_cases here : before.frame = frame <;> simp_all

theorem entriesOf_enroll_other (now : Instant) (different : other ≠ frame) :
    (session.enroll frame displayName now).entriesOf other = session.entriesOf other := by
  have unseen : (frame == other) = false := by
    simpa using Ne.symm different
  simp [entriesOf, enroll, List.filter_append, unseen]

theorem displayName_of_mem_enroll (now : Instant) (new : session.hasMember frame = false)
    {member : Member} (inside : member ∈ (session.enroll frame displayName now).entriesOf frame) :
    member.displayName = some displayName := by
  simp only [entriesOf, enroll, List.mem_filter, List.mem_append, List.mem_singleton] at inside
  rcases inside with ⟨old | rfl, own⟩
  · have known : session.hasMember frame = true := List.any_eq_true.mpr ⟨member, old, own⟩
    rw [new] at known
    cases known
  · rfl

end Session

namespace SessionTable

/-- The entries of a frame in the session of a key. -/
def entries (table : SessionTable) (id : SessionId) (frame : FrameId) : List Member :=
  ((table.describe id).map (·.entriesOf frame)).getD []

/-- A claim changes no entries but those of the claimant, which has no name yet. -/
theorem entries_claim
    {table after : SessionTable} {claimant : FrameId} {session : SessionId} {now : Instant}
    {outcome : ClaimOutcome} (claimed : table.claim claimant session now = .ok (outcome, after))
    (id : SessionId) (frame : FrameId) :
    after.entries id frame = table.entries id frame ∨
      claimant = frame ∧ session = id ∧
        ∀ member ∈ after.entries id frame, member.displayName = none := by
  unfold claim at claimed
  split at claimed
  · cases claimed
    exact .inl rfl
  · rename_i absent
    split at claimed
    · cases claimed
    · cases claimed
      have described := describe_founded absent claimant now id
      by_cases here : id = session
      · subst here
        rw [if_pos rfl] at described
        by_cases own : claimant = frame
        · right
          refine ⟨own, rfl, ?_⟩
          simp only [entries, described, Option.map_some, Option.getD_some]
          intro member inside
          obtain rfl := List.mem_singleton.mp (List.mem_filter.mp inside).1
          rfl
        · left
          rw [entries, entries, described, absent]
          simp [Session.entriesOf, Session.founded, own]
      · left
        rw [if_neg here] at described
        rw [entries, described]
        rfl

/-- A wish to join changes no entries but those of the frame that joins, which get its name. -/
theorem entries_join
    (table : SessionTable) (joining : FrameId) (session : SessionId) (displayName : String)
    (now : Instant) (id : SessionId) (frame : FrameId) :
    let after := (table.join joining session displayName now).2
    after.entries id frame = table.entries id frame ∨
      joining = frame ∧ session = id ∧
        ∀ member ∈ after.entries id frame, member.displayName = some displayName := by
  intro after
  cases found : table.describe session with
  | none =>
      left
      simp only [after, join, found]
  | some record =>
      let change : Session → Session :=
        if record.hasMember joining then (·.rename joining displayName)
        else (·.enroll joining displayName now)
      have keepsKey : ∀ other, (change other).id = other.id := by
        intro other
        simp only [change]
        split <;> rfl
      have modified : after = table.modify session change := by
        simp only [after, join, found, change]
        split <;> rfl
      have described := describe_modify table session id keepsKey
      rw [← modified] at described
      by_cases here : id = session
      · subst here
        rw [if_pos rfl, found, Option.map_some] at described
        have before : table.entries id frame = record.entriesOf frame := by
          rw [entries, found]
          rfl
        have entered : after.entries id frame = (change record).entriesOf frame := by
          rw [entries, described]
          rfl
        rw [before, entered]
        simp only [change]
        by_cases own : joining = frame
        · right
          subst own
          refine ⟨rfl, trivial, fun member inside => ?_⟩
          split at inside
          · exact record.displayName_of_mem_rename _ _ inside
          · rename_i new
            exact record.displayName_of_mem_enroll _ _ now (Bool.eq_false_iff.mpr new) inside
        · left
          split
          · exact record.entriesOf_rename_other _ _ _ (Ne.symm own)
          · exact record.entriesOf_enroll_other _ _ _ now (Ne.symm own)
      · left
        rw [if_neg here] at described
        rw [entries, described]
        rfl

end SessionTable

/-! ## Commands -/

namespace Switchboard

variable {board : Switchboard}

/-- What an entry of a frame says when a command has just changed it. -/
def Changes (command : Command) (id : SessionId) (frame : FrameId) (entries : List Member) :
    Prop :=
  command = .claim frame id ∧ (∀ member ∈ entries, member.displayName = none) ∨
    ∃ displayName, command = .join frame id displayName ∧
      ∀ member ∈ entries, member.displayName = some displayName

theorem entries_handle
    (board : Switchboard) (now : Instant) (command : Command) (id : SessionId) (frame : FrameId) :
    let after := (board.handle now command).board.table
    after.entries id frame = board.table.entries id frame ∨
      Changes command id frame (after.entries id frame) := by
  intro after
  cases command with
  | register =>
      left
      simp only [after, handle, Turn.map, register]
      split <;> rfl
  | unregister other =>
      left
      simp only [after, handle, Turn.map, unregister]
      split <;> rfl
  | claim other session =>
      simp only [after, handle, Turn.map, claim]
      split
      · exact .inl rfl
      · rename_i claimed
        rcases SessionTable.entries_claim claimed id frame with same | ⟨rfl, rfl, nameless⟩
        · exact .inl same
        · exact .inr (.inl ⟨rfl, nameless⟩)
  | join other session displayName =>
      rcases SessionTable.entries_join board.table other session displayName now id frame with
        same | ⟨rfl, rfl, named⟩
      · exact .inl same
      · exact .inr (.inr ⟨displayName, rfl, named⟩)
  | describe | list | count | deliver =>
      exact .inl rfl

/-- A session gets another owner only by a claim of that frame. -/
theorem owner?_handle
    (board : Switchboard) (now : Instant) (command : Command) (id : SessionId) :
    let after := (board.handle now command).board
    after.owner? id = board.owner? id ∨
      ∃ frame, command = .claim frame id ∧ after.owner? id = some frame := by
  intro after
  cases owned : board.owner? id with
  | some owner =>
      exact .inl (owner?_handle_of_owned owned now command)
  | none =>
      let step : Step := ⟨board, now, command⟩
      have unowned : step.before.owner? id = none := owned
      have won : after.owner? id = step.winner? id := Step.owner?_after_of_unowned unowned
      cases winner : step.winner? id with
      | none =>
          exact .inl (won.trans winner)
      | some frame =>
          right
          refine ⟨frame, ?_, won.trans winner⟩
          unfold Step.winner? at winner
          split at winner
          · rename_i claimant session asked _
            simp only [Option.ite_none_right_eq_some, Option.some.injEq] at winner
            obtain ⟨rfl, rfl⟩ := winner
            exact asked
          · cases winner

end Switchboard

/-! ## Exchanges -/

namespace Exchange

def owner? (exchange : Exchange) (id : SessionId) : Option FrameId :=
  (exchange.describe id).map (·.owner)

/-- The entries of a frame in the session of a key. -/
def entries (exchange : Exchange) (id : SessionId) (frame : FrameId) : List Member :=
  ((exchange.describe id).map (·.entriesOf frame)).getD []

variable (exchange : Exchange)

theorem owner?_ask (now : Instant) (command : Command) (id : SessionId) :
    (exchange.ask now command).owner? id = exchange.owner? id ∨
      ∃ frame, command = .claim frame id ∧ (exchange.ask now command).owner? id = some frame := by
  rcases exchange with ⟨_ | board, inboxes, observers⟩
  · exact .inl rfl
  · exact board.owner?_handle now command id

theorem entries_ask (now : Instant) (command : Command) (id : SessionId) (frame : FrameId) :
    (exchange.ask now command).entries id frame = exchange.entries id frame ∨
      Switchboard.Changes command id frame ((exchange.ask now command).entries id frame) := by
  rcases exchange with ⟨_ | board, inboxes, observers⟩
  · exact .inl rfl
  · exact board.entries_handle now command id frame

/-- Of several commands, one has made the last change. -/
theorem owner?_askAll (commands : List (Instant × Command)) (id : SessionId) :
    (exchange.askAll commands).owner? id = exchange.owner? id ∨
      ∃ now frame, (now, .claim frame id) ∈ commands ∧
        (exchange.askAll commands).owner? id = some frame := by
  induction commands generalizing exchange with
  | nil =>
      exact .inl rfl
  | cons timed rest ih =>
      rcases timed with ⟨now, command⟩
      rcases ih (exchange.ask now command) with same | ⟨later, frame, asked, owner⟩
      · rcases exchange.owner?_ask now command id with kept | ⟨frame, rfl, owner⟩
        · exact .inl (same.trans kept)
        · exact .inr ⟨now, frame, List.mem_cons_self, same.trans owner⟩
      · exact .inr ⟨later, frame, List.mem_cons_of_mem _ asked, owner⟩

theorem entries_askAll
    (commands : List (Instant × Command)) (id : SessionId) (frame : FrameId) :
    (exchange.askAll commands).entries id frame = exchange.entries id frame ∨
      ∃ now command, (now, command) ∈ commands ∧
        Switchboard.Changes command id frame ((exchange.askAll commands).entries id frame) := by
  induction commands generalizing exchange with
  | nil =>
      exact .inl rfl
  | cons timed rest ih =>
      rcases timed with ⟨now, command⟩
      rcases ih (exchange.ask now command) with same | ⟨later, other, asked, changed⟩
      · rcases exchange.entries_ask now command id frame with kept | changed
        · exact .inl (same.trans kept)
        · right
          refine ⟨now, command, List.mem_cons_self, ?_⟩
          rw [← same] at changed
          exact changed
      · exact .inr ⟨later, other, List.mem_cons_of_mem _ asked, changed⟩

/-- Of several commands, one has handed over a packet that has come to wait. -/
theorem waits_of_askAll {commands : List (Instant × Command)} {frame : FrameId} {packet : Packet}
    (waits : (exchange.askAll commands).Waits frame packet) :
    (∃ now route, (now, .deliver route packet) ∈ commands) ∨ exchange.Waits frame packet := by
  induction commands generalizing exchange with
  | nil =>
      exact .inr waits
  | cons timed rest ih =>
      rcases timed with ⟨now, command⟩
      rcases ih (exchange.ask now command) waits with ⟨later, route, asked⟩ | before
      · exact .inl ⟨later, route, List.mem_cons_of_mem _ asked⟩
      · rcases waits_of_ask before with ⟨route, rfl⟩ | old
        · exact .inl ⟨now, route, List.mem_cons_self⟩
        · exact .inr old

end Exchange

end SessionBus
