import SessionBus.Proofs.Hub.Fate
import SessionBus.Proofs.Hub.LineReader

/-!
# The lines of a connection

What a hub hears on a connection are the lines of the bytes that it has read there, one after the
other.  It hears all of them before anything else happens on the connection, unless one of them
closes it: then those behind it are not heard any more.
-/

namespace SessionBus.Hub

/-- The bytes that an act takes from a connection. -/
def Act.bytesOn (number : Nat) : Act → List UInt8
  | .read other bytes => if other = number then bytes else []
  | _ => []

/-- What an act hears on a connection. -/
def Act.heardOn (number : Nat) : Act → Option Incoming
  | .hear other _ incoming => if other = number then some incoming else none
  | _ => none

/-- All bytes that have been read on a connection. -/
def received (number : Nat) (moments : List Moment) : List UInt8 :=
  moments.flatMap fun moment => moment.act.bytesOn number

/-- All that has been heard on a connection. -/
def heard (number : Nat) (moments : List Moment) : List Incoming :=
  moments.filterMap fun moment => moment.act.heardOn number

/-- What a reader makes of all bytes that have been read on a connection. -/
def reading (max number : Nat) (moments : List Moment) : List Incoming × LineReader :=
  (LineReader.start max).feed (received number moments)

variable {hub : Hub} {limits : Limits} {max number : Nat} {past moments : List Moment}

theorem received_append (number : Nat) (past moments : List Moment) :
    received number (past ++ moments) = received number past ++ received number moments :=
  List.flatMap_append

theorem heard_append (number : Nat) (past moments : List Moment) :
    heard number (past ++ moments) = heard number past ++ heard number moments :=
  List.filterMap_append

/-- An act on another connection has nothing to do with the lines of this one. -/
theorem Act.silent_of_number {act : Act} (other : act.number? ≠ some number) :
    act.bytesOn number = [] ∧ act.heardOn number = none := by
  cases act with
  | read own | hear own =>
      have different : own ≠ number := fun same => other (congrArg some same)
      simp [bytesOn, heardOn, different]
  | accept | forward | leave | pass | stop =>
      exact ⟨rfl, rfl⟩

theorem received_run (hub : Hub) (acts : List Act) :
    received number (hub.run acts) = acts.flatMap (Act.bytesOn number) := by
  induction acts generalizing hub with
  | nil =>
      rfl
  | cons act rest ih =>
      exact congrArg _ (ih (hub.perform act).1)

theorem heard_run (hub : Hub) (acts : List Act) :
    heard number (hub.run acts) = acts.filterMap (Act.heardOn number) := by
  induction acts generalizing hub with
  | nil =>
      rfl
  | cons act rest ih =>
      have later := ih (hub.perform act).1
      simp only [heard] at later
      simp only [run, heard, List.filterMap_cons, later]

theorem silent_run {acts : List Act}
    (silent : ∀ act ∈ acts, act.bytesOn number = [] ∧ act.heardOn number = none) (hub : Hub) :
    received number (hub.run acts) = [] ∧ heard number (hub.run acts) = [] := by
  rw [received_run, heard_run, List.flatMap_eq_nil_iff, List.filterMap_eq_nil_iff]
  exact ⟨fun act inside => (silent act inside).1, fun act inside => (silent act inside).2⟩

/-! ## The reader of a connection -/

/-- A connection changes by what is done on it only. -/
theorem connection?_perform
    {act : Act} (allowed : hub.Allows act) (other : act.number? ≠ some number)
    (born : act ≠ .accept) :
    (hub.perform act).1.connection? number = hub.connection? number := by
  cases act with
  | accept =>
      exact absurd rfl born
  | forward | pass | stop =>
      rfl
  | read own bytes =>
      have different : number ≠ own := fun same => other (congrArg some same.symm)
      rcases allowed with ⟨connection, known⟩
      obtain rfl := number_of_connection? known
      simp only [perform, known]
      refine (hub.connection?_setConnection
        { connection with reader := (connection.reader.feed bytes).2 } known number).trans ?_
      exact if_neg different
  | hear own now incoming =>
      have different : number ≠ own := fun same => other (congrArg some same.symm)
      rcases allowed with ⟨connection, known⟩
      simp only [perform, known]
      rw [connection?_carryOut _ known, if_neg different]
  | leave own =>
      have different : number ≠ own := fun same => other (congrArg some same.symm)
      simp only [perform]
      cases known : hub.connection? own with
      | none =>
          rfl
      | some connection =>
          rw [connection?_carryOut _ known, if_neg different]

theorem received_concat (number : Nat) (past : List Moment) (hub : Hub) (act : Act) :
    received number (past ++ [⟨hub, act⟩]) = received number past ++ act.bytesOn number := by
  rw [received_append, received, received, List.flatMap_singleton]

theorem heard_concat (number : Nat) (past : List Moment) (hub : Hub) (act : Act) :
    heard number (past ++ [⟨hub, act⟩]) = heard number past ++ (act.heardOn number).toList := by
  rw [heard_append, heard, heard, List.filterMap_cons, List.filterMap_nil]
  cases act.heardOn number <;> rfl

/-- The reader of a connection has read its bytes, and nothing comes on a connection that has not
been taken in yet. -/
structure Attends (hub : Hub) (max number : Nat) (past : List Moment) : Prop where
  reader :
    ∀ connection, hub.connection? number = some connection →
      connection.reader = (reading max number past).2
  unborn :
    ¬ number < hub.nextNumber → received number past = [] ∧ heard number past = []

/-- A connection goes on with the bytes that are read on it, or has just been taken in. -/
theorem reader_perform
    (consistent : hub.Consistent max) {act : Act} (allowed : hub.Allows act) {after : Connection}
    (there : (hub.perform act).1.connection? number = some after) :
    (∃ before, hub.connection? number = some before ∧
        after.reader = (before.reader.feed (act.bytesOn number)).2) ∨
      ¬ number < hub.nextNumber ∧ act.bytesOn number = [] ∧ after.reader = .start max := by
  by_cases own : act.number? = some number
  · left
    cases known : hub.connection? number with
    | none =>
        rw [perform_of_absent own known, known] at there
        cases there
    | some connection =>
        refine ⟨connection, rfl, ?_⟩
        cases act with
        | accept | forward | pass | stop =>
            cases own
        | read _ bytes =>
            cases own
            obtain rfl := number_of_connection? known
            have found := hub.connection?_setConnection
              { connection with reader := (connection.reader.feed bytes).2 } known connection.number
            have alive := consistent.alive connection (mem_of_connection? known)
            simp only [Hub.perform, known] at there
            rw [if_pos rfl, if_neg alive, there, Option.some.injEq] at found
            rw [found, Act.bytesOn, if_pos rfl]
        | hear _ now incoming =>
            cases own
            simp only [Hub.perform, known] at there
            rw [connection?_carryOut _ known, if_pos rfl] at there
            split at there
            · cases there
            · cases there
              rfl
        | leave =>
            cases own
            simp only [Hub.perform, known] at there
            rw [connection?_carryOut _ known, if_pos rfl, if_pos (stage_farewell hub connection)]
              at there
            cases there
  · have nothing := (Act.silent_of_number own).1
    rw [nothing]
    by_cases comes : act = .accept
    · subst comes
      rw [show (hub.perform .accept).1 = hub.accept.2 from rfl, Hub.accept] at there
      split at there
      · exact .inl ⟨after, there, rfl⟩
      · simp only [Hub.connection?, List.find?_append, Option.or_eq_some_iff] at there
        rcases there with old | ⟨_, new⟩
        · exact .inl ⟨after, old, rfl⟩
        · have own := List.find?_some new
          obtain rfl := List.mem_singleton.mp (List.mem_of_find?_eq_some new)
          have next : hub.nextNumber = number := by simpa using own
          exact .inr ⟨next ▸ Nat.lt_irrefl _, rfl, congrArg LineReader.start consistent.limit⟩
    · rw [connection?_perform allowed own comes] at there
      exact .inl ⟨after, there, rfl⟩

/-- What is done on a connection is done after it has been taken in. -/
theorem number_lt_of_allows
    (consistent : hub.Consistent max) {act : Act} (allowed : hub.Allows act) :
    (act.bytesOn number = [] ∧ act.heardOn number = none) ∨ number < hub.nextNumber := by
  have born : ∀ connection, hub.connection? number = some connection → number < hub.nextNumber := by
    intro connection known
    have below := consistent.numbered _ (mem_of_connection? known)
    rwa [number_of_connection? known] at below
  by_cases own : act.number? = some number
  · cases act with
    | accept | forward | pass | stop =>
        cases own
    | leave =>
        exact .inl ⟨rfl, rfl⟩
    | read | hear =>
        cases own
        rcases allowed with ⟨connection, known⟩
        exact .inr (born connection known)
  · exact .inl (Act.silent_of_number own)

theorem nextNumber_le_perform (hub : Hub) (act : Act) :
    hub.nextNumber ≤ (hub.perform act).1.nextNumber := by
  by_cases comes : act = .accept
  · subst comes
    rw [show (hub.perform .accept).1 = hub.accept.2 from rfl, Hub.accept]
    split
    · exact Nat.le_refl _
    · exact Nat.le_succ _
  · exact Nat.le_of_eq (hub.nextNumber_perform comes).symm

theorem Attends.perform
    (attends : hub.Attends max number past) (consistent : hub.Consistent max) {act : Act}
    (allowed : hub.Allows act) :
    (hub.perform act).1.Attends max number (past ++ [⟨hub, act⟩]) := by
  constructor
  · intro after there
    rw [reading, received_concat, LineReader.feed_append]
    rcases reader_perform consistent allowed there with
      ⟨before, known, reader⟩ | ⟨unborn, noBytes, reader⟩
    · rw [reader, attends.reader before known]
      rfl
    · rw [reader, noBytes, (attends.unborn unborn).1]
      rfl
  · intro unborn
    have before : ¬ number < hub.nextNumber :=
      fun below => unborn (Nat.lt_of_lt_of_le below (hub.nextNumber_le_perform act))
    rcases number_lt_of_allows consistent allowed with ⟨noBytes, nothing⟩ | born
    · rw [received_concat, heard_concat, noBytes, nothing, List.append_nil]
      simpa using attends.unborn before
    · exact absurd born before

theorem Reached.attends
    (reached : Reached limits max past hub) (number : Nat) : hub.Attends max number past := by
  induction reached with
  | start =>
      exact ⟨nofun, fun _ => ⟨rfl, rfl⟩⟩
  | act reached act allowed ih =>
      exact ih.perform reached.consistent allowed

/-! ## All lines are heard -/

/-- A line has closed a connection when it was heard there. -/
def ClosedByLine (number : Nat) (moments : List Moment) : Prop :=
  ∃ moment ∈ moments, (∃ now incoming, moment.act = .hear number now incoming) ∧
    .close number ∈ moment.outputs

theorem ClosedByLine.mono (closed : ClosedByLine number past) (moments : List Moment) :
    ClosedByLine number (past ++ moments) := by
  rcases closed with ⟨moment, inside, hears⟩
  exact ⟨moment, List.mem_append_left moments inside, hears⟩

theorem ClosedByLine.after (closed : ClosedByLine number moments) (past : List Moment) :
    ClosedByLine number (past ++ moments) := by
  rcases closed with ⟨moment, inside, hears⟩
  exact ⟨moment, List.mem_append_right past inside, hears⟩

theorem connection?_settle
    {connection : Connection} (known : hub.connection? number = some connection) (answer : Answer) :
    (hub.settle connection answer).1.connection? number =
      if (hub.settled answer).stage = .ended then none
      else some { connection with stage := (hub.settled answer).stage } := by
  have carried := connection?_carryOut answer known number
  rw [if_pos rfl] at carried
  rw [settle_eq, ← carried]
  split <;> rfl

theorem heard_hear
    {connection : Connection} (known : hub.connection? number = some connection) (now : Instant)
    (incoming : Incoming) :
    let moments := hub.run (.hear number now incoming ::
      if hub.pausesFor (hub.answerTo connection now incoming) then [.forward] else [])
    received number moments = [] ∧ heard number moments = [incoming] ∧
      ((hub.settled (hub.answerTo connection now incoming)).stage = .ended →
        ClosedByLine number moments) := by
  refine ⟨?_, ?_, ?_⟩
  · split <;> rfl
  · split <;> simp [run, heard, Act.heardOn]
  · intro ended
    refine ⟨_, List.mem_cons_self, ⟨now, incoming, rfl⟩, ?_⟩
    simp [Moment.outputs, perform, known, carryOut_eq, ended, number_of_connection? known]

/-- The lines that were found together are heard one after the other, until one of them closes the
connection. -/
theorem heard_hearings
    (number : Nat) (now : Instant) (found : List Incoming) (hub : Hub) {connection : Connection}
    (known : hub.connection? number = some connection) :
    let moments := hub.run (hub.hearings number now found)
    received number moments = [] ∧
      (heard number moments = found ∨
        heard number moments <+: found ∧ ClosedByLine number moments) := by
  induction found generalizing hub connection with
  | nil =>
      exact ⟨rfl, .inl rfl⟩
  | cons incoming rest ih =>
      intro moments
      rcases heard_hear known now incoming with ⟨noBytes, here, closes⟩
      have performed := performAll_hear known now incoming
      have split : moments =
          hub.run (.hear number now incoming ::
            if hub.pausesFor (hub.answerTo connection now incoming) then [.forward] else []) ++
          (hub.settle connection (hub.answerTo connection now incoming)).1.run
            ((hub.settle connection (hub.answerTo connection now incoming)).1.hearings number now
              rest) := by
        simp only [moments, hearings, known]
        rw [← List.cons_append, run_append, performed]
      rw [split, received_append, heard_append, noBytes, here]
      have goesOn := connection?_settle known (hub.answerTo connection now incoming)
      split at goesOn
      · -- The line has closed the connection, and the lines behind it are not heard.
        rename_i ended
        have silent : (hub.settle connection
            (hub.answerTo connection now incoming)).1.hearings number now rest = [] := by
          cases rest with
          | nil =>
              rfl
          | cons =>
              simp only [hearings, goesOn]
        rw [silent]
        exact ⟨rfl, .inr ⟨⟨rest, rfl⟩, (closes ended).mono _⟩⟩
      · rcases ih _ goesOn with ⟨noMore, all | ⟨within, closed⟩⟩
        · exact ⟨noMore, .inl (congrArg _ all)⟩
        · exact ⟨noMore, .inr ⟨(List.prefix_append_right_inj [incoming]).mpr within,
            closed.after _⟩⟩

theorem silent_leavings (connections : List Connection) :
    ∀ act ∈ leavings connections, act.bytesOn number = [] ∧ act.heardOn number = none := by
  intro act inside
  rcases List.mem_map.mp inside with ⟨connection, _, rfl⟩
  exact ⟨rfl, rfl⟩

theorem silent_hearings
    {other : Nat} (different : other ≠ number) (now : Instant) (found : List Incoming) (hub : Hub) :
    ∀ act ∈ hub.hearings other now found,
      act.bytesOn number = [] ∧ act.heardOn number = none := by
  induction found generalizing hub with
  | nil =>
      simp [hearings]
  | cons incoming rest ih =>
      cases known : hub.connection? other with
      | none =>
          simp [hearings, known]
      | some connection =>
          simp only [hearings, known, List.forall_mem_cons, List.forall_mem_append]
          refine ⟨⟨rfl, if_neg different⟩, ?_, ih _⟩
          split
          · simp [Act.bytesOn, Act.heardOn]
          · simp

/-- The lines of the bytes that come on a connection are heard. -/
theorem heard_bytes
    (consistent : hub.Consistent max) {connection : Connection}
    (known : hub.connection? number = some connection) (now : Instant) (bytes : List UInt8) :
    let moments := hub.run (hub.actsFor (.bytes number now bytes))
    received number moments = bytes ∧
      (heard number moments = (connection.reader.feed bytes).1 ∨
        heard number moments <+: (connection.reader.feed bytes).1 ∧
          ClosedByLine number moments) := by
  obtain rfl := number_of_connection? known
  let changed : Connection := { connection with reader := (connection.reader.feed bytes).2 }
  have found := hub.connection?_setConnection changed known connection.number
  have alive : changed.stage ≠ .ended := consistent.alive connection (mem_of_connection? known)
  rw [if_pos rfl, if_neg alive] at found
  have performed : (hub.perform (.read connection.number bytes)).1 = hub.setConnection changed := by
    simp only [perform, known]
    rfl
  have acts : hub.actsFor (.bytes connection.number now bytes) =
      .read connection.number bytes ::
        ((hub.setConnection changed).hearings connection.number now
          (connection.reader.feed bytes).1 ++ [.forward]) := by
    simp only [actsFor, known]
    rfl
  rcases heard_hearings connection.number now (connection.reader.feed bytes).1 _ found with
    ⟨noBytes, lines⟩
  rw [received_run] at noBytes
  rw [heard_run] at lines
  have own : (Act.read connection.number bytes).bytesOn connection.number = bytes := if_pos rfl
  have heardAll : heard connection.number (hub.run (hub.actsFor (.bytes connection.number now
      bytes))) = ((hub.setConnection changed).hearings connection.number now
        (connection.reader.feed bytes).1).filterMap (Act.heardOn connection.number) := by
    have none : (Act.read connection.number bytes).heardOn connection.number = none := rfl
    rw [heard_run, acts, List.filterMap_cons_none none, List.filterMap_append]
    exact List.append_nil _
  constructor
  · rw [received_run, acts, List.flatMap_cons, own, List.flatMap_append, noBytes]
    exact List.append_nil bytes
  · rw [heardAll]
    refine lines.imp_right ?_
    rintro ⟨within, moment, inside, hears⟩
    refine ⟨within, moment, ?_, hears⟩
    rw [acts, run, performed, run_append]
    exact List.mem_cons_of_mem _ (List.mem_append_left _ inside)

/-- The line that is left at the end of a stream is heard. -/
theorem heard_endOfStream
    {connection : Connection} (known : hub.connection? number = some connection) (now : Instant) :
    let moments := hub.run (hub.actsFor (.endOfStream number now))
    received number moments = [] ∧
      (heard number moments = connection.reader.finish.toList ∨
        heard number moments <+: connection.reader.finish.toList ∧
          ClosedByLine number moments) := by
  have acts : hub.actsFor (.endOfStream number now) =
      hub.hearings number now connection.reader.finish.toList ++ [.leave number, .forward] := by
    simp only [actsFor, known]
  rcases heard_hearings number now connection.reader.finish.toList hub known with ⟨noBytes, lines⟩
  rw [received_run] at noBytes
  rw [heard_run] at lines
  have heardAll : heard number (hub.run (hub.actsFor (.endOfStream number now))) =
      (hub.hearings number now connection.reader.finish.toList).filterMap (Act.heardOn number) := by
    rw [heard_run, acts, List.filterMap_append]
    exact List.append_nil _
  constructor
  · rw [received_run, acts, List.flatMap_append, noBytes]
    rfl
  · rw [heardAll]
    refine lines.imp_right ?_
    rintro ⟨within, moment, inside, hears⟩
    refine ⟨within, moment, ?_, hears⟩
    rw [acts, run_append]
    exact List.mem_append_left _ inside

theorem absent_leave (hub : Hub) (number : Nat) :
    (hub.perform (.leave number)).1.connection? number = none := by
  rw [Hub.connection?, List.find?_eq_none]
  intro connection inside
  simpa using (mem_perform_leave inside).2

/-- What a hub has heard on a connection: all lines of its bytes as long as it is open, and all of
them up to one that has closed it, or up to its end, afterwards. -/
inductive Hears (hub : Hub) (max number : Nat) (past : List Moment) : Prop
  | all (lines : heard number past = (reading max number past).1)
  | finished
      (absent : hub.connection? number = none)
      (lines : heard number past =
        (reading max number past).1 ++ (reading max number past).2.finish.toList)
  | cut
      (absent : hub.connection? number = none)
      (lines : heard number past <+:
        (reading max number past).1 ++ (reading max number past).2.finish.toList)
      (closed : ClosedByLine number past)

theorem Reached.absent
    (reached : Reached limits max past hub) (closed : .close number ∈ told past) :
    hub.connection? number = none := by
  cases reached.standing number with
  | unborn next absent | gone next absent =>
      exact Option.map_eq_none_iff.mp absent
  | greeting deadline next stage quiet =>
      exact absurd rfl (quiet _ closed)
  | serving frame next stage identity goesOn =>
      exact absurd closed goesOn

theorem Reached.closed
    (reached : Reached limits max past hub) (born : number < hub.nextNumber)
    (absent : hub.connection? number = none) : .close number ∈ told past := by
  have none : hub.stage? number = none := Option.map_eq_none_iff.mpr absent
  cases reached.standing number with
  | unborn next =>
      exact absurd born next
  | gone next stage identity closed =>
      exact closed
  | greeting deadline next stage | serving frame next stage =>
      rw [none] at stage
      cases stage

theorem ClosedByLine.close_mem (closed : ClosedByLine number moments) :
    .close number ∈ told moments := by
  rcases closed with ⟨moment, inside, _, closes⟩
  exact List.mem_flatMap.mpr ⟨moment, inside, closes⟩

/-- Whatever has been heard is one of the lines, in their order. -/
theorem Hears.within (hears : hub.Hears max number past) :
    heard number past <+:
      (reading max number past).1 ++ (reading max number past).2.finish.toList := by
  cases hears with
  | all lines =>
      exact ⟨_, congrArg (· ++ _) lines⟩
  | finished absent lines =>
      exact ⟨[], (List.append_nil _).trans lines⟩
  | cut absent within closed =>
      exact within

/-- As long as nothing comes on a connection, all its lines have been heard. -/
theorem Hears.silent
    (hears : hub.Hears max number past) (reached : Reached limits max past hub) {after : Hub}
    (later : Reached limits max (past ++ moments) after)
    (noBytes : received number moments = []) (nothing : heard number moments = []) :
    after.Hears max number (past ++ moments) := by
  have read : reading max number (past ++ moments) = reading max number past := by
    rw [reading, received_append, noBytes, List.append_nil]
    rfl
  have lines : heard number (past ++ moments) = heard number past := by
    rw [heard_append, nothing, List.append_nil]
  have stays (absent : hub.connection? number = none) (born : number < hub.nextNumber) :
      after.connection? number = none := by
    apply later.absent
    rw [told_append]
    exact List.mem_append_left _ (reached.closed born absent)
  by_cases born : number < hub.nextNumber
  · cases hears with
    | all all =>
        exact .all (by rw [lines, read, all])
    | finished absent all =>
        exact .finished (stays absent born) (by rw [lines, read, all])
    | cut absent within closed =>
        exact .cut (stays absent born) (by rw [lines, read]; exact within) (closed.mono moments)
  · have unborn := (reached.attends number).unborn born
    exact .all (by rw [lines, read, unborn.2, reading, unborn.1]; rfl)

/-- On a connection that is there, every line that has been read has been heard. -/
theorem Hears.heard_eq
    (hears : hub.Hears max number past) {connection : Connection}
    (known : hub.connection? number = some connection) :
    heard number past = (reading max number past).1 := by
  cases hears with
  | all all =>
      exact all
  | finished absent | cut absent =>
      rw [known] at absent
      cases absent

theorem Hears.takeBytes
    (hears : hub.Hears max number past) (reached : Reached limits max past hub)
    {connection : Connection} (known : hub.connection? number = some connection) (now : Instant)
    (bytes : List UInt8) :
    (hub.take (.bytes number now bytes)).1.Hears max number
      (past ++ hub.run (hub.actsFor (.bytes number now bytes))) := by
  have later := reached.take (.bytes number now bytes)
  have reader := (reached.attends number).reader connection known
  rcases heard_bytes reached.consistent known now bytes with ⟨taken, lines⟩
  have read : reading max number (past ++ hub.run (hub.actsFor (.bytes number now bytes))) =
      ((reading max number past).1 ++ (connection.reader.feed bytes).1,
        (connection.reader.feed bytes).2) := by
    rw [reading, received_append, taken, LineReader.feed_append, reader]
    rfl
  rcases lines with whole | ⟨within, closed⟩
  · exact .all (by rw [heard_append, hears.heard_eq known, whole, read])
  · have closedLater := later.absent (told_append past _ ▸
      List.mem_append_right _ closed.close_mem)
    refine .cut closedLater ?_ (closed.after past)
    rw [heard_append, hears.heard_eq known, read, List.append_assoc]
    exact (List.prefix_append_right_inj _).mpr (within.trans (List.prefix_append _ _))

theorem Hears.takeEndOfStream
    (hears : hub.Hears max number past) (reached : Reached limits max past hub)
    {connection : Connection} (known : hub.connection? number = some connection) (now : Instant) :
    (hub.take (.endOfStream number now)).1.Hears max number
      (past ++ hub.run (hub.actsFor (.endOfStream number now))) := by
  have later := reached.take (.endOfStream number now)
  have reader := (reached.attends number).reader connection known
  rcases heard_endOfStream known now with ⟨noBytes, lines⟩
  have read : reading max number (past ++ hub.run (hub.actsFor (.endOfStream number now))) =
      reading max number past := by
    rw [reading, received_append, noBytes, List.append_nil]
    rfl
  rcases lines with whole | ⟨within, closed⟩
  · refine .finished ?_ (by rw [heard_append, hears.heard_eq known, whole, read, reader])
    rw [← performAll_actsFor reached.consistent.apart, actsFor]
    simp only [known, performAll_append, performAll]
    exact absent_leave _ number
  · have closedLater := later.absent (told_append past _ ▸
      List.mem_append_right _ closed.close_mem)
    refine .cut closedLater ?_ (closed.after past)
    rw [heard_append, hears.heard_eq known, read, ← reader]
    exact (List.prefix_append_right_inj _).mpr within

theorem Hears.take
    (hears : hub.Hears max number past) (reached : Reached limits max past hub) (input : Input) :
    (hub.take input).1.Hears max number (past ++ hub.run (hub.actsFor input)) := by
  have later := reached.take input
  have silent (quiet : ∀ act ∈ hub.actsFor input,
      act.bytesOn number = [] ∧ act.heardOn number = none) :
      (hub.take input).1.Hears max number (past ++ hub.run (hub.actsFor input)) := by
    rcases silent_run quiet hub with ⟨noBytes, nothing⟩
    exact hears.silent reached later noBytes nothing
  cases input with
  | connection =>
      exact silent (by simp [actsFor, Act.bytesOn, Act.heardOn])
  | time milliseconds =>
      apply silent
      rw [actsFor, List.forall_mem_cons]
      exact ⟨⟨rfl, rfl⟩, silent_leavings _⟩
  | shutdown =>
      apply silent
      rw [actsFor, List.forall_mem_append]
      exact ⟨silent_leavings _, by simp [Act.bytesOn, Act.heardOn]⟩
  | bytes other now bytes =>
      cases known : hub.connection? other with
      | none =>
          exact silent (by simp [actsFor, known])
      | some connection =>
          by_cases own : other = number
          · subst own
            exact hears.takeBytes reached known now bytes
          · apply silent
            simp only [actsFor, known, List.forall_mem_cons, List.forall_mem_append]
            refine ⟨⟨if_neg own, rfl⟩, silent_hearings own now _ _, ?_⟩
            simp [Act.bytesOn, Act.heardOn]
  | endOfStream other now =>
      cases known : hub.connection? other with
      | none =>
          exact silent (by simp [actsFor, known])
      | some connection =>
          by_cases own : other = number
          · subst own
            exact hears.takeEndOfStream reached known now
          · apply silent
            simp only [actsFor, known, List.forall_mem_append]
            refine ⟨silent_hearings own now _ _, ?_⟩
            simp [Act.bytesOn, Act.heardOn]

/-- Whatever comes to a hub, it hears the lines of each connection. -/
theorem hears_history (limits : Limits) (max : Nat) (inputs : List Input) (number : Nat) :
    ((start limits max).takeAll inputs).1.Hears max number
      ((start limits max).history inputs) := by
  have along : ∀ (inputs : List Input) (past : List Moment) (hub : Hub),
      Reached limits max past hub → hub.Hears max number past →
        (hub.takeAll inputs).1.Hears max number (past ++ hub.history inputs) := by
    intro inputs
    induction inputs with
    | nil =>
        intro past hub _ hears
        rw [history, List.append_nil]
        exact hears
    | cons input rest ih =>
        intro past hub reached hears
        rw [history, ← List.append_assoc]
        exact ih _ _ (reached.take input) (hears.take reached input)
  exact along inputs [] _ .start (.all rfl)

end SessionBus.Hub
