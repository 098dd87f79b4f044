import SessionBus.Proofs.Registry.Growth

/-!
# Who is listed as a member

A frame is listed in the record of a session from the first claim or wish to join of its own that
succeeds.  Nothing else lists a frame, and none is ever struck off.
-/

namespace SessionBus

namespace SessionTable

/-- The record of a session lists a frame among the members. -/
def Lists (table : SessionTable) (session : SessionId) (frame : FrameId) : Prop :=
  ∃ record, table.describe session = some record ∧ frame ∈ record.members.map (·.frame)

variable {table : SessionTable}

theorem not_lists_empty (maxSessions : Nat) (session : SessionId) (frame : FrameId) :
    ¬ (empty maxSessions).Lists session frame := by
  simp [Lists, describe, empty]

/-- The owner of a session is listed as its first member. -/
theorem lists_of_owner?
    {maxSessions : Nat} (formed : table.Formed maxSessions) {session : SessionId}
    {owner : FrameId} (owned : table.owner? session = some owner) :
    table.Lists session owner := by
  rcases Option.map_eq_some_iff.mp owned with ⟨record, found, rfl⟩
  rcases (formed.records session record found).founder with ⟨first, others, split, own, _, _⟩
  refine ⟨record, found, ?_⟩
  rw [split, ← own]
  exact List.mem_cons_self

/-- A new record lists its founder. -/
theorem lists_founded
    {id : SessionId} (absent : table.describe id = none) (founder : FrameId) (now : Instant)
    (session : SessionId) (frame : FrameId) :
    Lists { table with sessions := insertSession (.founded id founder now) table.sessions }
        session frame ↔
      table.Lists session frame ∨ session = id ∧ frame = founder := by
  unfold Lists
  rw [describe_founded absent]
  by_cases here : session = id
  · subst here
    simp [absent, Session.founded, eq_comm]
  · simp [here]

/-- Who joins a session that there is, is listed. -/
theorem lists_enter_join
    {id : SessionId} {record : Session} (known : table.describe id = some record)
    (joiner : FrameId) (displayName : String) (now : Instant) (session : SessionId)
    (frame : FrameId) :
    (table.enter now (.join joiner id displayName)).Lists session frame ↔
      table.Lists session frame ∨ session = id ∧ frame = joiner := by
  unfold Lists
  rw [describe_enter_join]
  by_cases here : session = id
  · subst here
    have key := id_of_describe known
    simp only [known, Option.map_some, Option.some.injEq, exists_eq_left', true_and,
      Session.entered, key, if_true]
    split
    · rename_i already
      rw [Session.frames_rename]
      constructor
      · exact Or.inl
      · rintro (listed | rfl)
        · exact listed
        · exact Session.hasMember_eq_true.mp already
    · simp [Session.enroll]
  · have unmoved : ∀ other : Session, table.describe session = some other →
        other.entered now (.join joiner id displayName) = other := by
      intro other found
      have elsewhere : id ≠ other.id := by
        rw [id_of_describe found]
        exact Ne.symm here
      simp only [Session.entered, if_neg elsewhere]
    cases found : table.describe session with
    | none =>
        simp [here]
    | some other =>
        simp [here, unmoved other found]

end SessionTable

namespace Switchboard

/-- A claim that succeeds lists the claimant, and one that does not lists nobody. -/
theorem lists_claim
    {board : Switchboard} {maxSessions : Nat} (formed : board.table.Formed maxSessions)
    {frame : FrameId} {session : SessionId} {now : Instant} {claimed : Bool}
    (said : (board.claim frame session now).reply = .ok claimed) (id : SessionId)
    (other : FrameId) :
    (board.claim frame session now).board.table.Lists id other ↔
      board.table.Lists id other ∨ claimed = true ∧ id = session ∧ other = frame := by
  rcases board.claim_cases frame session now with
    ⟨owner, owned, answer⟩ | ⟨unowned, refused | founded⟩
  · rw [answer] at said ⊢
    cases said
    constructor
    · exact Or.inl
    · rintro (listed | ⟨own, rfl, rfl⟩)
      · exact listed
      · rw [← of_decide_eq_true own]
        exact SessionTable.lists_of_owner? formed owned
  · rw [refused] at said
    cases said
  · rw [founded] at said ⊢
    cases said
    have absent : board.table.describe session = none := Option.map_eq_none_iff.mp unowned
    simpa using SessionTable.lists_founded absent frame now id other

/-- A wish to join that succeeds lists the frame, and one that does not lists nobody. -/
theorem lists_join
    (board : Switchboard) (frame : FrameId) (session : SessionId) (displayName : String)
    (now : Instant) (id : SessionId) (other : FrameId) :
    (board.join frame session displayName now).board.table.Lists id other ↔
      board.table.Lists id other ∨
        (board.join frame session displayName now).reply = true ∧ id = session ∧
          other = frame := by
  rcases board.join_cases frame session displayName now with
    ⟨_, refused⟩ | ⟨⟨record, known⟩, granted⟩
  · rw [refused]
    simp
  · rw [granted]
    simpa using SessionTable.lists_enter_join known frame displayName now id other

end Switchboard

end SessionBus
