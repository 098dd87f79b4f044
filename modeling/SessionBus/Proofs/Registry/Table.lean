import SessionBus.Registry.Table

/-!
# Looking up sessions in the table

What a claim and a wish to join do to the record that the table gives for a key.  A claim adds a
record only where there was none, and joining changes the members of one record but never its owner,
so the owner that a key has once is the owner that it keeps.
-/

namespace SessionBus.SessionTable

theorem mem_insertSession {record session : Session} {sessions : List Session} :
    session ∈ insertSession record sessions ↔ session = record ∨ session ∈ sessions := by
  induction sessions with
  | nil =>
      simp [insertSession]
  | cons next rest ih =>
      unfold insertSession
      split
      · simp
      · rw [List.mem_cons, ih, List.mem_cons]
        exact or_left_comm

/-- A record is found under its own key once it has been put into a list without that key. -/
theorem find?_insertSession_self
    (record : Session) {sessions : List Session}
    (absent : sessions.find? (fun session => session.id == record.id) = none) :
    (insertSession record sessions).find? (fun session => session.id == record.id) =
      some record := by
  induction sessions with
  | nil =>
      simp [insertSession]
  | cons next rest ih =>
      have skipped : (next.id == record.id) = false := by
        simpa using List.find?_eq_none.mp absent next List.mem_cons_self
      have restAbsent : rest.find? (fun session => session.id == record.id) = none := by
        simpa [List.find?_cons, skipped] using absent
      unfold insertSession
      split
      · simp
      · simp only [List.find?_cons, skipped]
        exact ih restAbsent

/-- Other keys do not see the record that is put in. -/
theorem find?_insertSession_other
    {record : Session} {sessions : List Session} {id : SessionId}
    (other : record.id ≠ id) :
    (insertSession record sessions).find? (fun session => session.id == id) =
      sessions.find? (fun session => session.id == id) := by
  have skipped : (record.id == id) = false := by
    simpa using other
  induction sessions with
  | nil =>
      simp [insertSession, skipped]
  | cons next rest ih =>
      unfold insertSession
      split
      · simp [List.find?_cons, skipped]
      · simp [List.find?_cons, ih]

/-- A new record is found under its key, and the other keys do not see it. -/
theorem describe_founded
    {table : SessionTable} {id : SessionId} (absent : table.describe id = none)
    (frame : FrameId) (now : Instant) (other : SessionId) :
    describe { table with sessions := insertSession (.founded id frame now) table.sessions }
        other =
      if other = id then some (.founded id frame now) else table.describe other := by
  split
  · rename_i here
    subst here
    exact find?_insertSession_self (.founded other frame now) absent
  · rename_i different
    have unseen : (Session.founded id frame now).id ≠ other := Ne.symm different
    exact find?_insertSession_other unseen

/-- What is found under a key has that key. -/
theorem id_of_describe
    {table : SessionTable} {id : SessionId} {record : Session}
    (found : table.describe id = some record) :
    record.id = id := by
  simpa using List.find?_some found

/-- A change that keeps the key of a record is seen under that key only. -/
theorem describe_modify
    (table : SessionTable) (id other : SessionId) {change : Session → Session}
    (keepsKey : ∀ session, (change session).id = session.id) :
    (table.modify id change).describe other =
      if other = id then (table.describe other).map change else table.describe other := by
  have sameKeys :
      ((fun session : Session => session.id == other) ∘ fun session =>
        if session.id = id then change session else session) =
      fun session => session.id == other := by
    funext session
    by_cases here : session.id = id <;> simp [here, keepsKey]
  rw [describe, modify, List.find?_map, sameKeys, ← describe]
  cases found : table.describe other with
  | none =>
      simp
  | some record =>
      have key := id_of_describe found
      by_cases asked : other = id
      · simp [asked, key]
      · simp [asked, key]

def owner? (table : SessionTable) (id : SessionId) : Option FrameId :=
  (table.describe id).map (·.owner)

/-- A change that keeps keys and owners is not seen by asking for owners. -/
theorem owner?_modify
    (table : SessionTable) (id other : SessionId) {change : Session → Session}
    (keepsKey : ∀ session, (change session).id = session.id)
    (keepsOwner : ∀ session, (change session).owner = session.owner) :
    (table.modify id change).owner? other = table.owner? other := by
  rw [owner?, describe_modify table id other keepsKey]
  split
  · rw [Option.map_map]
    exact congrArg (fun owner => (table.describe other).map owner) (funext keepsOwner)
  · rfl

/-- A claim of a session that has an owner is answered by that owner and changes nothing. -/
theorem claim_of_owned
    {table : SessionTable} {id : SessionId} {owner : FrameId}
    (owned : table.owner? id = some owner) (frame : FrameId) (now : Instant) :
    table.claim frame id now =
      .ok (if owner = frame then .alreadyOwner else .ownedBy owner, table) := by
  rcases Option.map_eq_some_iff.mp owned with ⟨record, found, rfl⟩
  simp only [claim, found]

/-- A claim of a session without owner succeeds exactly when there is room for it. -/
theorem claim_of_unowned
    {table : SessionTable} {id : SessionId}
    (unowned : table.owner? id = none) (frame : FrameId) (now : Instant) :
    table.claim frame id now =
      if table.maxSessions ≤ table.size then .error (.tooManySessions table.maxSessions)
      else .ok (.claimed,
        { table with sessions := insertSession (.founded id frame now) table.sessions }) := by
  have absent : table.describe id = none := Option.map_eq_none_iff.mp unowned
  simp only [claim, absent]

/-- A new record makes its founder the owner of its key and leaves the other keys alone. -/
theorem owner?_founded
    {table : SessionTable} {id : SessionId}
    (unowned : table.owner? id = none) (frame : FrameId) (now : Instant) (other : SessionId) :
    owner? { table with sessions := insertSession (.founded id frame now) table.sessions } other =
      if other = id then some frame else table.owner? other := by
  have absent : table.describe id = none := Option.map_eq_none_iff.mp unowned
  split
  · rename_i asked
    subst asked
    have found := find?_insertSession_self (.founded other frame now) absent
    exact congrArg (Option.map (·.owner)) found
  · rename_i asked
    have unseen : (Session.founded id frame now).id ≠ other := fun equal => asked equal.symm
    exact congrArg (Option.map (·.owner)) (find?_insertSession_other unseen)

theorem owner?_join
    (table : SessionTable) (frame : FrameId) (id : SessionId) (displayName : String)
    (now : Instant) (other : SessionId) :
    (table.join frame id displayName now).2.owner? other = table.owner? other := by
  unfold join
  split
  · rfl
  · split
    · exact owner?_modify table id other (fun _ => rfl) (fun _ => rfl)
    · exact owner?_modify table id other (fun _ => rfl) (fun _ => rfl)

/-- Joining succeeds exactly when the session has an owner. -/
theorem succeeded_join
    (table : SessionTable) (frame : FrameId) (id : SessionId) (displayName : String)
    (now : Instant) :
    (table.join frame id displayName now).1.succeeded = (table.owner? id).isSome := by
  unfold join owner?
  split
  · rename_i absent
    simp [absent, JoinOutcome.succeeded]
  · rename_i record found
    split <;> simp [found, JoinOutcome.succeeded]

end SessionBus.SessionTable
