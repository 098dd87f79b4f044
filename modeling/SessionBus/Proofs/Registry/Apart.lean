import SessionBus.Proofs.Registry.Confined
import SessionBus.Proofs.Registry.Timeless

/-!
# Sessions do not interfere

Many sessions share one table, and each lives as if it had a table of its own.  To say so, a session
is followed alone: what its users are told, and what becomes of its record, is computed from the
questions about this session and from nothing else, clocks included.  Every table that finds room
for all sessions agrees with this, whatever else it is asked in between, so any two such tables
agree with each other.  Want of room is the one thing by which the users of a session notice the
others.
-/

namespace SessionBus

/-- The session that a frame tries to enter. -/
def Entrance.session : Entrance → SessionId
  | .claim _ id => id
  | .join _ id _ => id

/-- Times play no part in what becomes of a record. -/
theorem Session.timeless_entered (session : Session) (now : Instant) (entrance : Entrance) :
    (session.entered now entrance).timeless = session.timeless.entered .epoch entrance := by
  cases entrance with
  | claim frame id =>
      rfl
  | join frame id displayName =>
      have key : session.timeless.id = session.id := rfl
      simp only [entered, key, hasMember_timeless]
      split
      · split
        · exact session.timeless_rename frame displayName
        · exact session.timeless_enroll frame displayName now
      · rfl

namespace SessionTable

/-! ## Questions and answers -/

/-- What the users of a table ask: to enter a session, or to see the record of one. -/
inductive Question where
  | enter (entrance : Entrance)
  | describe (id : SessionId)

namespace Question

def session : Question → SessionId
  | .enter entrance => entrance.session
  | .describe id => id

/-- The questions about one session, in their order. -/
def about (id : SessionId) (questions : List Question) : List Question :=
  questions.filter (·.session == id)

end Question

/-- What a table answers. -/
inductive Answer where
  | claimed (result : Except SwitchboardError ClaimOutcome)
  | joined (outcome : JoinOutcome)
  | described (record : Option Session)

namespace Answer

/-- The answer without the times in it. -/
def timeless : Answer → Answer
  | .described record => .described (record.map Session.timeless)
  | other => other

/-- A claim has found no room for a new session. -/
def isCrowded : Answer → Bool
  | .claimed (.error (.tooManySessions _)) => true
  | _ => false

end Answer

def answer (table : SessionTable) (now : Instant) : Question → Answer
  | .enter (.claim frame id) => .claimed ((table.claim frame id now).map Prod.fst)
  | .enter (.join frame id displayName) => .joined (table.join frame id displayName now).1
  | .describe id => .described (table.describe id)

/-- The table when it has been asked. -/
def asked (table : SessionTable) (now : Instant) : Question → SessionTable
  | .enter entrance => table.enter now entrance
  | .describe _ => table

def askedAll (table : SessionTable) : List (Instant × Question) → SessionTable
  | [] => table
  | (now, question) :: rest => (table.asked now question).askedAll rest

/-- The questions that a table is asked, each with its answer. -/
def answers (table : SessionTable) : List (Instant × Question) → List (Question × Answer)
  | [] => []
  | (now, question) :: rest =>
      (question, table.answer now question) :: (table.asked now question).answers rest

/-- What the users of one session are told, times aside. -/
def answersAbout (table : SessionTable) (id : SessionId) (timed : List (Instant × Question)) :
    List Answer :=
  ((table.answers timed).filter (·.1.session == id)).map (·.2.timeless)

/-- The record of a session, times aside. -/
def recordOf (table : SessionTable) (id : SessionId) : Option Session :=
  (table.describe id).map Session.timeless

/-- The table has room for all sessions that are claimed. -/
def HasRoom (table : SessionTable) (timed : List (Instant × Question)) : Prop :=
  ∀ told ∈ table.answers timed, told.2.isCrowded = false

instance (table : SessionTable) (timed : List (Instant × Question)) :
    Decidable (table.HasRoom timed) :=
  inferInstanceAs (Decidable (∀ told ∈ table.answers timed, told.2.isCrowded = false))

/-! ## A session alone -/

namespace Alone

/-- The answer to a question about a session, from the record that the session has. -/
def answer (record? : Option Session) : Question → Answer
  | .enter (.claim frame _) =>
      match record? with
      | some record =>
          .claimed (.ok (if record.owner = frame then .alreadyOwner else .ownedBy record.owner))
      | none => .claimed (.ok .claimed)
  | .enter (.join frame _ _) =>
      match record? with
      | some record => .joined (if record.hasMember frame then .alreadyMember else .joined)
      | none => .joined .noOwner
  | .describe _ => .described record?

/-- What becomes of the record. -/
def after (record? : Option Session) : Question → Option Session
  | .enter (.claim frame id) => some (record?.getD (.founded id frame .epoch))
  | .enter (.join frame id displayName) =>
      record?.map (·.entered .epoch (.join frame id displayName))
  | .describe _ => record?

def answers (record? : Option Session) : List Question → List Answer
  | [] => []
  | question :: rest => answer record? question :: answers (after record? question) rest

def afterAll (record? : Option Session) (questions : List Question) : Option Session :=
  questions.foldl after record?

end Alone

variable {table : SessionTable} {id : SessionId} {question : Question}

/-! ## One question -/

/-- A question about another session does not touch the record. -/
theorem describe_asked_other (now : Instant) (other : question.session ≠ id) :
    (table.asked now question).describe id = table.describe id := by
  cases question with
  | describe session =>
      rfl
  | enter entrance =>
      cases entrance with
      | claim frame session =>
          have spared := (table.others_enter_claim now frame session).2
          exact describe_eq_of_others spared (Ne.symm other)
      | join frame session displayName =>
          have spared := (table.others_enter_join now frame session displayName).2
          exact describe_eq_of_others spared (Ne.symm other)

/-- A claim of a new session is told of want of room exactly when the table is full. -/
theorem isCrowded_claim
    (unknown : table.describe id = none) (frame : FrameId) (now : Instant) :
    (table.answer now (.enter (.claim frame id))).isCrowded =
      decide (table.maxSessions ≤ table.size) := by
  by_cases full : table.maxSessions ≤ table.size <;>
    simp [answer, claim, unknown, full, Except.map, Answer.isCrowded]

section Room

variable (now : Instant) (room : (table.answer now question).isCrowded = false)

include room

/-- A table with room answers a question as the session alone does. -/
theorem answer_eq_alone :
    (table.answer now question).timeless =
      Alone.answer (table.recordOf question.session) question := by
  cases question with
  | describe session =>
      rfl
  | enter entrance =>
      cases entrance with
      | claim frame session =>
          simp only [Question.session, Entrance.session]
          cases known : table.describe session with
          | some record =>
              simp only [answer, claim, recordOf, known]
              rfl
          | none =>
              rw [isCrowded_claim known, decide_eq_false_iff_not] at room
              simp only [answer, claim, recordOf, known, if_neg room]
              rfl
      | join frame session displayName =>
          simp only [answer, join, recordOf, Question.session, Entrance.session]
          cases table.describe session with
          | some record =>
              simp only [Alone.answer, Option.map_some, Session.hasMember_timeless]
              split <;> rfl
          | none =>
              rfl

/-- The record changes in a table with room as it does alone. -/
theorem recordOf_asked :
    (table.asked now question).recordOf question.session =
      Alone.after (table.recordOf question.session) question := by
  cases question with
  | describe session =>
      rfl
  | enter entrance =>
      simp only [recordOf, asked, Question.session]
      cases known : table.describe entrance.session with
      | some record =>
          rw [describe_enter_of_known known now entrance, Option.map_some, Option.map_some,
            Session.timeless_entered]
          cases entrance <;> rfl
      | none =>
          cases entrance with
          | claim frame session =>
              simp only [Entrance.session] at known ⊢
              rw [isCrowded_claim known, decide_eq_false_iff_not] at room
              simp only [enter, claim, known, if_neg room]
              rw [describe_founded known, if_pos rfl]
              rfl
          | join frame session displayName =>
              simp only [Entrance.session] at known ⊢
              rw [describe_enter_join, known]
              rfl

end Room

/-! ## All questions -/

/-- In a table with room the users of a session are told what they are told alone, and the record
becomes what it becomes alone. -/
theorem answersAbout_eq_alone
    {timed : List (Instant × Question)} (room : table.HasRoom timed) (id : SessionId) :
    table.answersAbout id timed =
        Alone.answers (table.recordOf id) (Question.about id (timed.map Prod.snd)) ∧
      (table.askedAll timed).recordOf id =
        Alone.afterAll (table.recordOf id) (Question.about id (timed.map Prod.snd)) := by
  induction timed generalizing table with
  | nil =>
      exact ⟨rfl, rfl⟩
  | cons first rest ih =>
      rcases first with ⟨now, question⟩
      have here : (table.answer now question).isCrowded = false := room _ List.mem_cons_self
      have later := ih fun told inside => room told (List.mem_cons_of_mem _ inside)
      by_cases own : question.session = id
      · subst own
        rw [recordOf_asked now here] at later
        simp only [answersAbout, answers, Question.about, List.map_cons, List.filter_cons,
          beq_self_eq_true, if_true, answer_eq_alone now here]
        exact ⟨congrArg _ later.1, later.2⟩
      · have record : (table.asked now question).recordOf id = table.recordOf id :=
          congrArg (Option.map Session.timeless) (describe_asked_other now own)
        have skipped : (question.session == id) = false := beq_false_of_ne own
        rw [record] at later
        simp only [answersAbout, answers, Question.about, List.map_cons, List.filter_cons, skipped,
          Bool.false_eq_true, if_false]
        exact later

/-! ## A table of one's own -/

/-- A session that is still unknown has left no trace. -/
theorem asked_eq_of_unknown
    {now : Instant} (unknown : (table.asked now question).describe question.session = none) :
    table.asked now question = table := by
  cases question with
  | describe session =>
      rfl
  | enter entrance =>
      cases entrance with
      | claim frame session =>
          rcases table.enter_claim now frame session with same | ⟨absent, _, added⟩
          · exact same
          · simp only [asked, Question.session, Entrance.session] at unknown
            rw [added, describe_founded absent, if_pos rfl] at unknown
            cases unknown
      | join frame session displayName =>
          rcases table.enter_join now frame session displayName with
            ⟨_, same⟩ | ⟨record, known, _⟩
          · exact same
          · simp only [asked, Question.session, Entrance.session] at unknown
            rw [describe_enter_of_known known] at unknown
            cases unknown

/-- A place for a session is enough for any questions about it. -/
theorem hasRoom_of_place
    {timed : List (Instant × Question)}
    (place : table.describe id = none → table.size < table.maxSessions)
    (own : ∀ question ∈ timed.map Prod.snd, question.session = id) :
    table.HasRoom timed := by
  induction timed generalizing table with
  | nil =>
      exact fun _ inside => absurd inside List.not_mem_nil
  | cons first rest ih =>
      rcases first with ⟨now, question⟩
      rcases List.forall_mem_cons.mp own with ⟨here, own⟩
      obtain rfl : question.session = id := here
      have later : (table.asked now question).HasRoom rest := by
        refine ih (fun unknown => ?_) own
        have same := asked_eq_of_unknown unknown
        rw [same] at unknown ⊢
        exact place unknown
      refine List.forall_mem_cons.mpr ⟨?_, later⟩
      cases question with
      | describe session =>
          rfl
      | enter entrance =>
          cases entrance with
          | join frame session displayName =>
              rfl
          | claim frame session =>
              cases known : table.describe session with
              | some record =>
                  simp only [answer, claim, known]
                  rfl
              | none =>
                  rw [isCrowded_claim known, decide_eq_false_iff_not, Nat.not_le]
                  exact place known

theorem map_fst_answers (table : SessionTable) (timed : List (Instant × Question)) :
    (table.answers timed).map Prod.fst = timed.map Prod.snd := by
  induction timed generalizing table with
  | nil =>
      rfl
  | cons first rest ih =>
      exact congrArg (first.2 :: ·) (ih (table.asked first.1 first.2))

/-- Where all questions are about one session, all answers are. -/
theorem answersAbout_of_own
    {timed : List (Instant × Question)}
    (own : ∀ question ∈ timed.map Prod.snd, question.session = id) :
    table.answersAbout id timed = (table.answers timed).map (·.2.timeless) := by
  refine congrArg (List.map _) (List.filter_eq_self.mpr fun told inside => beq_iff_eq.mpr ?_)
  rw [← table.map_fst_answers timed] at own
  exact own told.1 (List.mem_map_of_mem inside)

/--
Sessions do not interfere.  The users of a session in a table that has room for all sessions are
told what they would be told if their questions were the only ones to a new table with a place in
it, and the record of the session ends as it would there.  So two tables with room that are asked
the same about a session cannot be told apart by its users, whatever else is asked of either, and
when.
-/
theorem sessions_apart
    (maxSessions : Nat) (timed : List (Instant × Question))
    (room : (empty maxSessions).HasRoom timed) (id : SessionId) :
    (∀ most alone, 1 ≤ most → alone.map Prod.snd = Question.about id (timed.map Prod.snd) →
        ((empty most).answers alone).map (·.2.timeless) =
            (empty maxSessions).answersAbout id timed ∧
          ((empty most).askedAll alone).recordOf id =
            ((empty maxSessions).askedAll timed).recordOf id) ∧
      ∀ most other, (empty most).HasRoom other →
        Question.about id (other.map Prod.snd) = Question.about id (timed.map Prod.snd) →
          (empty most).answersAbout id other = (empty maxSessions).answersAbout id timed ∧
            ((empty most).askedAll other).recordOf id =
              ((empty maxSessions).askedAll timed).recordOf id := by
  have unknown : ∀ most, (empty most).recordOf id = none := fun _ => rfl
  have same : ∀ most other, (empty most).HasRoom other →
      Question.about id (other.map Prod.snd) = Question.about id (timed.map Prod.snd) →
        (empty most).answersAbout id other = (empty maxSessions).answersAbout id timed ∧
          ((empty most).askedAll other).recordOf id =
            ((empty maxSessions).askedAll timed).recordOf id := by
    intro most other otherRoom agree
    rcases answersAbout_eq_alone room id with ⟨told, record⟩
    rcases answersAbout_eq_alone otherRoom id with ⟨otherTold, otherRecord⟩
    rw [agree, unknown] at otherTold otherRecord
    exact ⟨otherTold.trans told.symm, otherRecord.trans record.symm⟩
  refine ⟨fun most alone place only => ?_, same⟩
  have own : ∀ question ∈ alone.map Prod.snd, question.session = id := by
    rw [only]
    exact fun question inside => beq_iff_eq.mp (List.mem_filter.mp inside).2
  have aloneRoom : (empty most).HasRoom alone := hasRoom_of_place (fun _ => place) own
  rw [← answersAbout_of_own own]
  refine same most alone aloneRoom ?_
  have kept : Question.about id (alone.map Prod.snd) = alone.map Prod.snd :=
    List.filter_eq_self.mpr fun question inside => beq_iff_eq.mpr (own question inside)
  rw [kept]
  exact only

/-- A guest of one session is told the same in a table that others fill up meanwhile, under keys
like its own, as in one where it is alone with its host on another day. -/
theorem guest_told_as_alone :
    let day : Instant := ⟨2024, 2, 29, 12, 0, 0, 0, by decide⟩
    let host : Question := .enter (.claim ⟨1⟩ ⟨"a"⟩)
    let guest : Question := .enter (.join ⟨2⟩ ⟨"a"⟩ "guest")
    let rival : Question := .enter (.claim ⟨2⟩ ⟨"a"⟩)
    let timed : List (Instant × Question) :=
      [(.epoch, .enter (.claim ⟨2⟩ ⟨""⟩)), (.epoch, host),
        (.epoch, .enter (.join ⟨1⟩ ⟨"ab"⟩ "host")), (.epoch, guest),
        (.epoch, .enter (.join ⟨1⟩ ⟨""⟩ "guest")), (.epoch, rival)]
    let alone := [(day, host), (day, guest), (day, rival)]
    (empty 2).HasRoom timed ∧
      ((empty 1).answers alone).map (·.2.timeless) = (empty 2).answersAbout ⟨"a"⟩ timed ∧
      ((empty 1).askedAll alone).recordOf ⟨"a"⟩ = ((empty 2).askedAll timed).recordOf ⟨"a"⟩ := by
  intro day host guest rival timed alone
  have room : (empty 2).HasRoom timed := by decide
  exact ⟨room, (sessions_apart 2 timed room ⟨"a"⟩).1 1 alone (Nat.le_refl 1) rfl⟩

end SessionTable

end SessionBus
