import SessionBus.Proofs.Keyed
import SessionBus.Proofs.Registry.Table
import SessionBus.Proofs.Text.Order
import SessionBus.Registry.Switchboard

/-!
# How the table of sessions grows

Frames enter sessions by claims and by wishes to join, and the table only ever grows by that.  A
record begins with its owner and keeps its members in the order in which they came, each frame once;
the records stand in the order of their keys and there is room for all of them.  What a record has
once it keeps, except that a member that joins again takes another name.

The main statement says all this of every table that entrances lead to, and of any two tables of
which one comes later than the other.
-/

namespace SessionBus

/-- How a frame tries to enter a session. -/
inductive Entrance where
  | claim (frame : FrameId) (id : SessionId)
  | join (frame : FrameId) (id : SessionId) (displayName : String)

namespace Entrance

/-- The name that a frame gives itself in a session. -/
def name? (id : SessionId) (frame : FrameId) : Entrance → Option String
  | .claim _ _ => none
  | .join other session displayName =>
      if other = frame ∧ session = id then some displayName else none

/-- The name that a frame has last given itself in a session. -/
def lastName? (entrances : List (Instant × Entrance)) (id : SessionId) (frame : FrameId) :
    Option String :=
  (entrances.filterMap fun timed => timed.2.name? id frame).getLast?

theorem lastName?_append
    (before after : List (Instant × Entrance)) (id : SessionId) (frame : FrameId) :
    lastName? (before ++ after) id frame =
      (lastName? after id frame).or (lastName? before id frame) := by
  rw [lastName?, List.filterMap_append, List.getLast?_append]
  rfl

theorem lastName?_singleton
    (now : Instant) (entrance : Entrance) (id : SessionId) (frame : FrameId) :
    lastName? [(now, entrance)] id frame = entrance.name? id frame := by
  cases given : entrance.name? id frame <;> simp [lastName?, given]

end Entrance

/-! ## Records -/

/-- The member under a new name, if there is one. -/
def Member.renamed (member : Member) (name? : Option String) : Member :=
  { member with displayName := name?.or member.displayName }

theorem Member.renamed_renamed (member : Member) (first second : Option String) :
    (member.renamed first).renamed second = member.renamed (second.or first) := by
  simp [renamed, Option.or_assoc]

namespace Session

/-- The record of a session when a frame has tried to enter one. -/
def entered (session : Session) (now : Instant) : Entrance → Session
  | .claim _ _ => session
  | .join frame id displayName =>
      if id = session.id then
        if session.hasMember frame then session.rename frame displayName
        else session.enroll frame displayName now
      else session

/-- Every frame is a member once, and the first member is the owner, the only one in that role. -/
structure Formed (session : Session) : Prop where
  distinct : (session.members.map (·.frame)).Nodup
  founder :
    ∃ first others, session.members = first :: others ∧ first.frame = session.owner ∧
      first.role = .owner ∧ ∀ member ∈ others, member.role ≠ .owner

/-- A record that has become another one over some entrances.  The members that it had are the first
ones still, as they were but for the names that they have given themselves since. -/
structure GrowsTo
    (earlier : Session) (entrances : List (Instant × Entrance)) (later : Session) : Prop where
  id : later.id = earlier.id
  owner : later.owner = earlier.owner
  createdAt : later.createdAt = earlier.createdAt
  members :
    earlier.members.map (fun member =>
      member.renamed (Entrance.lastName? entrances earlier.id member.frame)) <+: later.members

theorem hasMember_eq_true {session : Session} {frame : FrameId} :
    session.hasMember frame = true ↔ frame ∈ session.members.map (·.frame) := by
  simp [hasMember]

theorem formed_founded (id : SessionId) (owner : FrameId) (now : Instant) :
    (founded id owner now).Formed where
  distinct := by simp [founded]
  founder := ⟨⟨owner, none, .owner, now⟩, [], rfl, rfl, rfl, by simp⟩

theorem frames_rename (session : Session) (frame : FrameId) (displayName : String) :
    (session.rename frame displayName).members.map (·.frame) = session.members.map (·.frame) := by
  unfold Session.rename
  rw [List.map_map]
  apply List.map_congr_left
  intro member _
  simp only [Function.comp_def]
  split <;> rfl

/-- Another name changes nothing but names. -/
theorem Formed.rename
    {session : Session} (formed : session.Formed) (frame : FrameId) (displayName : String) :
    (session.rename frame displayName).Formed := by
  let change : Member → Member := fun member =>
    if member.frame = frame then { member with displayName := some displayName } else member
  have frames : ∀ member, (change member).frame = member.frame := by
    intro member
    simp only [change]
    split <;> rfl
  have roles : ∀ member, (change member).role = member.role := by
    intro member
    simp only [change]
    split <;> rfl
  constructor
  · rw [frames_rename]
    exact formed.distinct
  · rcases formed.founder with ⟨first, others, split, own, role, plain⟩
    refine ⟨change first, others.map change, ?_, (frames first).trans own,
      (roles first).trans role, ?_⟩
    · simp only [Session.rename, split]
      rfl
    · simp only [List.forall_mem_map, roles]
      exact plain

/-- A frame that is no member yet is put behind the members. -/
theorem Formed.enroll
    {session : Session} (formed : session.Formed) {frame : FrameId}
    (new : session.hasMember frame = false) (displayName : String) (now : Instant) :
    (session.enroll frame displayName now).Formed := by
  constructor
  · apply Keyed.apart_append.mpr ⟨formed.distinct, ?_⟩
    rintro member inside rfl
    have known := hasMember_eq_true.mpr (List.mem_map_of_mem inside)
    rw [new] at known
    cases known
  · rcases formed.founder with ⟨first, others, split, own, role, plain⟩
    refine ⟨first, others ++ [⟨frame, some displayName, .member, now⟩], ?_, own, role, ?_⟩
    · simp only [Session.enroll, split]
      rfl
    · simp only [List.forall_mem_append, List.forall_mem_singleton]
      exact ⟨plain, nofun⟩

theorem Formed.entered
    {session : Session} (formed : session.Formed) (now : Instant) (entrance : Entrance) :
    (session.entered now entrance).Formed := by
  cases entrance with
  | claim frame id =>
      exact formed
  | join frame id displayName =>
      simp only [Session.entered]
      split
      · split
        · exact formed.rename frame displayName
        · rename_i new
          exact formed.enroll (Bool.eq_false_iff.mpr new) displayName now
      · exact formed

/-! ## Growing records -/

/-- Where nobody gives a name, all members stay as they are. -/
theorem map_renamed_of_none
    {members : List Member} (names : FrameId → Option String)
    (silent : ∀ member ∈ members, names member.frame = none) :
    members.map (fun member => member.renamed (names member.frame)) = members := by
  refine (List.map_congr_left fun member inside => ?_).trans (List.map_id' members)
  rw [silent member inside]
  rfl

theorem GrowsTo.refl (session : Session) : session.GrowsTo [] session := by
  refine ⟨rfl, rfl, rfl, ⟨[], (List.append_nil _).trans ?_⟩⟩
  exact map_renamed_of_none (Entrance.lastName? [] session.id) fun _ _ => rfl

theorem GrowsTo.trans
    {first second third : Session} {before after : List (Instant × Entrance)}
    (early : first.GrowsTo before second) (late : second.GrowsTo after third) :
    first.GrowsTo (before ++ after) third where
  id := late.id.trans early.id
  owner := late.owner.trans early.owner
  createdAt := late.createdAt.trans early.createdAt
  members := by
    have once := early.members.map fun member =>
      member.renamed (Entrance.lastName? after second.id member.frame)
    have twice := once.trans late.members
    rw [List.map_map, early.id] at twice
    simp only [Entrance.lastName?_append, ← Member.renamed_renamed]
    exact twice

/-- A member that joins again takes its new name. -/
theorem map_renamed_of_join
    (session : Session) (frame : FrameId) (displayName : String) :
    session.members.map (fun member => member.renamed
        ((Entrance.join frame session.id displayName).name? session.id member.frame)) =
      (session.rename frame displayName).members := by
  apply List.map_congr_left
  intro member _
  by_cases own : member.frame = frame
  · simp [Entrance.name?, Member.renamed, own]
  · have other : ¬ frame = member.frame := fun same => own same.symm
    simp [Entrance.name?, Member.renamed, own, other]

theorem growsTo_entered (session : Session) (now : Instant) (entrance : Entrance) :
    session.GrowsTo [(now, entrance)] (session.entered now entrance) := by
  have quiet : (∀ member ∈ session.members, entrance.name? session.id member.frame = none) →
      session.members.map (fun member => member.renamed
        (Entrance.lastName? [(now, entrance)] session.id member.frame)) = session.members := by
    intro silent
    simp only [Entrance.lastName?_singleton]
    exact map_renamed_of_none (fun frame => entrance.name? session.id frame) silent
  cases entrance with
  | claim frame id =>
      exact ⟨rfl, rfl, rfl, ⟨[], (List.append_nil _).trans (quiet fun _ _ => rfl)⟩⟩
  | join frame id displayName =>
      simp only [entered]
      split
      · rename_i here
        subst here
        split
        · refine ⟨rfl, rfl, rfl, ⟨[], (List.append_nil _).trans ?_⟩⟩
          simp only [Entrance.lastName?_singleton]
          exact map_renamed_of_join session frame displayName
        · rename_i new
          refine ⟨rfl, rfl, rfl, ?_⟩
          rw [quiet]
          · exact List.prefix_append _ _
          · intro member inside
            have other : ¬ frame = member.frame := by
              rintro rfl
              exact new (hasMember_eq_true.mpr (List.mem_map_of_mem inside))
            simp [Entrance.name?, other]
      · rename_i elsewhere
        refine ⟨rfl, rfl, rfl, ⟨[], (List.append_nil _).trans (quiet fun _ _ => ?_)⟩⟩
        simp [Entrance.name?, elsewhere]

end Session

/-! ## Tables -/

namespace SessionTable

/-- The table when a frame has tried to enter a session. -/
def enter (table : SessionTable) (now : Instant) : Entrance → SessionTable
  | .claim frame id =>
      match table.claim frame id now with
      | .ok (_, after) => after
      | .error _ => table
  | .join frame id displayName => (table.join frame id displayName now).2

def enterAll (table : SessionTable) : List (Instant × Entrance) → SessionTable
  | [] => table
  | (now, entrance) :: rest => (table.enter now entrance).enterAll rest

variable {table : SessionTable} {maxSessions : Nat}

/-- A claim of a new session adds its record, if there is room; any other changes nothing. -/
theorem enter_claim (table : SessionTable) (now : Instant) (frame : FrameId) (id : SessionId) :
    table.enter now (.claim frame id) = table ∨
      table.describe id = none ∧ table.size < table.maxSessions ∧
        table.enter now (.claim frame id) =
          { table with sessions := insertSession (.founded id frame now) table.sessions } := by
  simp only [enter, claim]
  cases known : table.describe id with
  | some record =>
      exact .inl rfl
  | none =>
      simp only
      by_cases full : table.maxSessions ≤ table.size
      · rw [if_pos full]
        exact .inl rfl
      · rw [if_neg full]
        exact .inr ⟨trivial, Nat.lt_of_not_le full, rfl⟩

/-- A wish to join changes the record of its session, if there is one, and no key. -/
theorem enter_join
    (table : SessionTable) (now : Instant) (frame : FrameId) (id : SessionId)
    (displayName : String) :
    table.describe id = none ∧ table.enter now (.join frame id displayName) = table ∨
      ∃ record, table.describe id = some record ∧
        ∃ change : Session → Session, (∀ session, (change session).id = session.id) ∧
          table.enter now (.join frame id displayName) = table.modify id change ∧
            change record = record.entered now (.join frame id displayName) := by
  simp only [enter, join]
  cases known : table.describe id with
  | none =>
      exact .inl ⟨rfl, rfl⟩
  | some record =>
      have key := id_of_describe known
      right
      by_cases member : record.hasMember frame = true
      · refine ⟨record, rfl, (·.rename frame displayName), fun _ => rfl, ?_, ?_⟩
        · simp [member]
        · simp [Session.entered, key, member]
      · refine ⟨record, rfl, (·.enroll frame displayName now), fun _ => rfl, ?_, ?_⟩
        · simp [member]
        · simp [Session.entered, key, member]

/-- A record that is there stays there, as what the entrance makes of it. -/
theorem describe_enter_of_known
    {id : SessionId} {record : Session} (known : table.describe id = some record)
    (now : Instant) (entrance : Entrance) :
    (table.enter now entrance).describe id = some (record.entered now entrance) := by
  cases entrance with
  | claim frame session =>
      rcases enter_claim table now frame session with same | ⟨absent, _, added⟩
      · rw [same]
        exact known
      · have other : id ≠ session := by
          rintro rfl
          rw [absent] at known
          cases known
        rw [added, describe_founded absent, if_neg other]
        exact known
  | join frame session displayName =>
      by_cases here : id = session
      · subst here
        rcases enter_join table now frame id displayName with
          ⟨absent, _⟩ | ⟨found, described, change, keepsKey, modified, outcome⟩
        · rw [absent] at known
          cases known
        · obtain rfl : found = record := Option.some.inj (described.symm.trans known)
          rw [modified, describe_modify table id id keepsKey, if_pos rfl, known, Option.map_some,
            outcome]
      · have unmoved : record.entered now (.join frame session displayName) = record := by
          have elsewhere : session ≠ record.id := by
            rw [id_of_describe known]
            exact Ne.symm here
          simp only [Session.entered, if_neg elsewhere]
        rw [unmoved]
        rcases enter_join table now frame session displayName with
          ⟨_, same⟩ | ⟨_, _, change, keepsKey, modified, _⟩
        · rw [same]
          exact known
        · rw [modified, describe_modify table session id keepsKey, if_neg here]
          exact known

/-- A wish to join adds no record. -/
theorem describe_enter_join
    (table : SessionTable) (now : Instant) (frame : FrameId) (session : SessionId)
    (displayName : String) (id : SessionId) :
    (table.enter now (.join frame session displayName)).describe id =
      (table.describe id).map (·.entered now (.join frame session displayName)) := by
  cases known : table.describe id with
  | some record =>
      exact describe_enter_of_known known now _
  | none =>
      rcases enter_join table now frame session displayName with
        ⟨_, same⟩ | ⟨_, _, change, keepsKey, modified, _⟩
      · rw [same]
        exact known
      · rw [modified, describe_modify table session id keepsKey, known]
        simp

/-- A record that has not been there is a new one. -/
theorem founded_of_describe_enter
    {id : SessionId} (unknown : table.describe id = none) {now : Instant} {entrance : Entrance}
    {record : Session} (found : (table.enter now entrance).describe id = some record) :
    ∃ frame, record = .founded id frame now := by
  cases entrance with
  | claim frame session =>
      rcases enter_claim table now frame session with same | ⟨absent, _, added⟩
      · rw [same, unknown] at found
        cases found
      · rw [added, describe_founded absent] at found
        split at found
        · rename_i here
          subst here
          exact ⟨frame, (Option.some.inj found).symm⟩
        · rw [unknown] at found
          cases found
  | join frame session displayName =>
      rw [describe_enter_join, unknown] at found
      cases found

/-! ## The order of the records -/

/-- The records stand in the order of their keys, no two under one key. -/
def Ordered (sessions : List Session) : Prop :=
  sessions.Pairwise fun earlier later => earlier.id.key < later.id.key

/-- A new record is put where its key belongs. -/
theorem ordered_insertSession
    {record : Session} {sessions : List Session} (ordered : Ordered sessions)
    (new : ∀ session ∈ sessions, session.id ≠ record.id) :
    Ordered (insertSession record sessions) := by
  unfold Ordered at ordered ⊢
  induction sessions with
  | nil =>
      simp [insertSession]
  | cons next rest ih =>
      rcases List.pairwise_cons.mp ordered with ⟨first, restOrdered⟩
      unfold insertSession
      split
      · rename_i before
        refine List.pairwise_cons.mpr ⟨?_, ordered⟩
        rintro session (_ | ⟨_, inside⟩)
        · exact before
        · exact String.lt_trans before (first session inside)
      · rename_i notBefore
        refine List.pairwise_cons.mpr
          ⟨?_, ih restOrdered fun session inside => new session (List.mem_cons_of_mem _ inside)⟩
        intro session inside
        rcases mem_insertSession.mp inside with rfl | old
        · refine Decidable.byContradiction fun notAfter => ?_
          have same : next.id.key = session.id.key :=
            String.le_antisymm (String.not_lt.mp notBefore) (String.not_lt.mp notAfter)
          exact new next List.mem_cons_self (congrArg SessionId.mk same)
        · exact first session old

theorem ordered_modify
    (ordered : Ordered table.sessions) (id : SessionId) {change : Session → Session}
    (keepsKey : ∀ session, (change session).id = session.id) :
    Ordered (table.modify id change).sessions := by
  refine List.pairwise_map.mpr (ordered.imp fun {earlier later} before => ?_)
  have keys : ∀ session : Session,
      (if session.id = id then change session else session).id = session.id := by
    intro session
    split
    · exact keepsKey session
    · rfl
  rw [keys, keys]
  exact before

/-- The records in the table are those that are found under their keys. -/
theorem mem_sessions_iff (ordered : Ordered table.sessions) {session : Session} :
    session ∈ table.sessions ↔ ∃ id, table.describe id = some session := by
  constructor
  · intro inside
    have apart : (table.sessions.map (·.id)).Nodup := by
      refine List.pairwise_map.mpr (ordered.imp fun {earlier later} before same => ?_)
      rw [same] at before
      exact String.lt_irrefl _ before
    exact ⟨session.id, Keyed.find?_of_mem apart inside⟩
  · rintro ⟨id, found⟩
    exact List.mem_of_find?_eq_some found

/-! ## Reachable tables -/

/-- Room for all records, the order of their keys, and records that are formed. -/
structure Formed (table : SessionTable) (maxSessions : Nat) : Prop where
  limit : table.maxSessions = maxSessions
  room : table.size ≤ maxSessions
  ordered : Ordered table.sessions
  records : ∀ id session, table.describe id = some session → session.Formed

theorem formed_empty (maxSessions : Nat) : (empty maxSessions).Formed maxSessions where
  limit := rfl
  room := Nat.zero_le _
  ordered := List.Pairwise.nil
  records := by simp [describe, empty]

theorem length_insertSession (record : Session) (sessions : List Session) :
    (insertSession record sessions).length = sessions.length + 1 := by
  induction sessions with
  | nil =>
      rfl
  | cons next rest ih =>
      unfold insertSession
      split
      · rfl
      · simp [ih]

theorem Formed.enter
    (formed : table.Formed maxSessions) (now : Instant) (entrance : Entrance) :
    (table.enter now entrance).Formed maxSessions := by
  have records : ∀ id session, (table.enter now entrance).describe id = some session →
      session.Formed := by
    intro id session found
    cases known : table.describe id with
    | none =>
        rcases founded_of_describe_enter known found with ⟨frame, rfl⟩
        exact Session.formed_founded id frame now
    | some record =>
        rw [describe_enter_of_known known] at found
        cases found
        exact (formed.records id record known).entered now entrance
  cases entrance with
  | claim frame id =>
      rcases enter_claim table now frame id with same | ⟨absent, room, added⟩
      · rw [same]
        exact formed
      · refine ⟨?_, ?_, ?_, records⟩
        · rw [added]
          exact formed.limit
        · rw [added, size, length_insertSession, ← formed.limit]
          exact room
        · rw [added]
          refine ordered_insertSession formed.ordered fun session inside same => ?_
          exact List.find?_eq_none.mp absent session inside (beq_iff_eq.mpr same)
  | join frame id displayName =>
      rcases enter_join table now frame id displayName with
        ⟨_, same⟩ | ⟨_, _, change, keepsKey, modified, _⟩
      · rw [same]
        exact formed
      · refine ⟨?_, ?_, ?_, records⟩
        · rw [modified]
          exact formed.limit
        · rw [modified, size, modify, List.length_map]
          exact formed.room
        · rw [modified]
          exact ordered_modify formed.ordered id keepsKey

theorem Formed.enterAll
    (formed : table.Formed maxSessions) (entrances : List (Instant × Entrance)) :
    (table.enterAll entrances).Formed maxSessions := by
  induction entrances generalizing table with
  | nil =>
      exact formed
  | cons timed rest ih =>
      exact ih (formed.enter timed.1 timed.2)

theorem growsTo_enterAll
    {id : SessionId} {session : Session} (known : table.describe id = some session)
    (entrances : List (Instant × Entrance)) :
    ∃ later, (table.enterAll entrances).describe id = some later ∧
      session.GrowsTo entrances later := by
  induction entrances generalizing table session with
  | nil =>
      exact ⟨session, known, .refl session⟩
  | cons timed rest ih =>
      rcases timed with ⟨now, entrance⟩
      have next := describe_enter_of_known known now entrance
      rcases ih next with ⟨later, found, grown⟩
      exact ⟨later, found, (session.growsTo_entered now entrance).trans grown⟩

/-- After any entrances there is room for all records, every record is formed, they stand in the
order of the bytes of their keys, and they are what is found under the keys.  Whatever frames try
after that, each record is found again and has only grown. -/
theorem formed_and_growing
    (maxSessions : Nat) (past future : List (Instant × Entrance)) :
    let table := (empty maxSessions).enterAll past
    table.size ≤ maxSessions ∧
      (∀ session ∈ table.sessions, session.Formed) ∧
      (table.sessions.map (·.id.key.toUTF8.toList)).Pairwise (· < ·) ∧
      (∀ session, session ∈ table.sessions ↔ ∃ id, table.describe id = some session) ∧
      ∀ id session, table.describe id = some session →
        ∃ later, (table.enterAll future).describe id = some later ∧
          session.GrowsTo future later := by
  intro table
  have formed : table.Formed maxSessions := (formed_empty maxSessions).enterAll past
  refine ⟨formed.room, ?_, ?_, fun session => mem_sessions_iff formed.ordered, ?_⟩
  · intro session inside
    rcases (mem_sessions_iff formed.ordered).mp inside with ⟨id, found⟩
    exact formed.records id session found
  · exact List.pairwise_map.mpr (formed.ordered.imp Text.bytes_lt_of_lt)
  · intro id session found
    exact growsTo_enterAll found future

end SessionTable

/-! ## Turns of the switchboard -/

namespace Switchboard

/-- A claim is answered from the record, refused for want of room, or founds the session. -/
theorem claim_cases
    (board : Switchboard) (frame : FrameId) (session : SessionId) (now : Instant) :
    (∃ owner, board.table.owner? session = some owner ∧
        board.claim frame session now = { reply := .ok (decide (owner = frame)), board }) ∨
      board.table.owner? session = none ∧
        (board.claim frame session now =
            { reply := .error (.tooManySessions board.table.maxSessions), board } ∨
          board.claim frame session now =
            { reply := .ok true
              board := { board with
                table := { board.table with
                  sessions := SessionTable.insertSession (.founded session frame now)
                    board.table.sessions } }
              events := [.claimed session frame] }) := by
  cases owned : board.table.owner? session with
  | some owner =>
      refine .inl ⟨owner, rfl, ?_⟩
      rw [claim, SessionTable.claim_of_owned owned]
      by_cases own : owner = frame <;> simp [own, ClaimOutcome.succeeded]
  | none =>
      refine .inr ⟨rfl, ?_⟩
      rw [claim, SessionTable.claim_of_unowned owned]
      by_cases full : board.table.maxSessions ≤ board.table.size
      · rw [if_pos full]
        exact .inl rfl
      · rw [if_neg full]
        exact .inr rfl

/-- A wish to join is refused where there is no record, and else it changes the record. -/
theorem join_cases
    (board : Switchboard) (frame : FrameId) (session : SessionId) (displayName : String)
    (now : Instant) :
    board.table.describe session = none ∧
        board.join frame session displayName now = { reply := false, board } ∨
      (∃ record, board.table.describe session = some record) ∧
        board.join frame session displayName now =
          { reply := true
            board := { board with table := board.table.enter now (.join frame session displayName) }
            events := [.joined session frame displayName] } := by
  cases known : board.table.describe session with
  | none =>
      simp [join, SessionTable.join, known, JoinOutcome.succeeded]
  | some record =>
      refine .inr ⟨⟨record, rfl⟩, ?_⟩
      by_cases member : record.hasMember frame = true <;>
        simp [join, SessionTable.enter, SessionTable.join, known, member, JoinOutcome.succeeded]

/-- Only claims and wishes to join reach the table. -/
theorem table_handle (board : Switchboard) (now : Instant) (command : Command) :
    (board.handle now command).board.table = board.table ∨
      ∃ entrance, (board.handle now command).board.table = board.table.enter now entrance := by
  cases command with
  | register =>
      left
      simp only [handle, Turn.map, register]
      split <;> rfl
  | unregister frame =>
      left
      simp only [handle, Turn.map, unregister]
      split <;> rfl
  | claim frame session =>
      refine .inr ⟨.claim frame session, ?_⟩
      simp only [handle, Turn.map, claim, SessionTable.enter]
      cases board.table.claim frame session now <;> rfl
  | join frame session displayName =>
      exact .inr ⟨.join frame session displayName, rfl⟩
  | describe | list | count | deliver =>
      exact .inl rfl

/-- Every table of a switchboard is one that entrances lead to. -/
theorem formed_handle
    {board : Switchboard} {maxSessions : Nat} (formed : board.table.Formed maxSessions)
    (now : Instant) (command : Command) :
    (board.handle now command).board.table.Formed maxSessions := by
  rcases board.table_handle now command with same | ⟨entrance, entered⟩
  · rw [same]
    exact formed
  · rw [entered]
    exact formed.enter now entrance

end Switchboard

end SessionBus
