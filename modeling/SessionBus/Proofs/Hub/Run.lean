import SessionBus.Proofs.Hub.Acts
import SessionBus.Proofs.Hub.Server

/-!
# Runs of a hub

Whatever comes to a hub makes it perform some acts, one after the other.  A history is the list of
these acts for all that comes, from the start on; each moment of it remembers the hub that acted, so
that what is said about a moment can speak of the hub before and after it and of what was written.

What every act keeps holds at each moment of a history.
-/

namespace SessionBus.Hub

/-! ## What comes to a hub -/

/-- What comes to a hub: connections, bytes on them and their ends, time, and the wish to stop. -/
inductive Input where
  | connection
  | bytes (number : Nat) (now : Instant) (bytes : List UInt8)
  | endOfStream (number : Nat) (now : Instant)
  | time (milliseconds : Nat)
  | shutdown

def take (hub : Hub) : Input → Hub × List Output
  | .connection => (hub.accept.2, [])
  | .bytes number now bytes => hub.receive number now bytes
  | .endOfStream number now => hub.finish number now
  | .time milliseconds => hub.wait milliseconds
  | .shutdown => hub.shutdown

def takeAll (hub : Hub) : List Input → Hub × List Output
  | [] => (hub, [])
  | input :: rest =>
    let (hub, outputs) := hub.take input
    let (hub, more) := hub.takeAll rest
    (hub, outputs ++ more)

/-! ## The acts for an input -/

def performAll (hub : Hub) : List Act → Hub × List Output
  | [] => (hub, [])
  | act :: rest =>
    let (hub, outputs) := hub.perform act
    let (hub, more) := hub.performAll rest
    (hub, outputs ++ more)

/-- Handling lines is done one by one, until the connection ends. -/
def hearings (hub : Hub) (number : Nat) (now : Instant) : List Incoming → List Act
  | [] => []
  | incoming :: rest =>
    match hub.connection? number with
    | none => []
    | some connection =>
      let answer := hub.answerTo connection now incoming
      .hear number now incoming ::
        ((if hub.pausesFor answer then [.forward] else []) ++
          (hub.settle connection answer).1.hearings number now rest)

def leavings (connections : List Connection) : List Act :=
  connections.map fun connection => .leave connection.number

/-- The acts that an input makes a hub perform. -/
def actsFor (hub : Hub) : Input → List Act
  | .connection => [.accept]
  | .bytes number now bytes =>
    match hub.connection? number with
    | none => []
    | some connection =>
      let (found, reader) := connection.reader.feed bytes
      .read number bytes ::
        ((hub.setConnection { connection with reader }).hearings number now found ++ [.forward])
  | .endOfStream number now =>
    match hub.connection? number with
    | none => []
    | some connection =>
      hub.hearings number now connection.reader.finish.toList ++ [.leave number, .forward]
  | .time milliseconds =>
    .pass milliseconds ::
      leavings (hub.connections.filter (isLate (hub.clock + milliseconds)))
  | .shutdown =>
    leavings (hub.connections.filter fun connection => (servedFrame? connection).isSome) ++ [.stop]

variable {hub : Hub}

theorem performAll_append (hub : Hub) (first second : List Act) :
    hub.performAll (first ++ second) =
      (((hub.performAll first).1.performAll second).1,
        (hub.performAll first).2 ++ ((hub.performAll first).1.performAll second).2) := by
  induction first generalizing hub with
  | nil =>
      rfl
  | cons act rest ih =>
      simp only [List.cons_append, performAll, ih, List.append_assoc]

/-- An answer is carried out by one act, or by two. -/
theorem performAll_hear
    {number : Nat} {connection : Connection} (known : hub.connection? number = some connection)
    (now : Instant) (incoming : Incoming) :
    hub.performAll (.hear number now incoming ::
        if hub.pausesFor (hub.answerTo connection now incoming) then [.forward] else []) =
      hub.settle connection (hub.answerTo connection now incoming) := by
  rw [settle_eq]
  split <;> simp [performAll, perform, known]

theorem handleAll_eq
    (hub : Hub) (number : Nat) (now : Instant) (found : List Incoming) (outputs : List Output) :
    hub.handleAll number now outputs found =
      ((hub.performAll (hub.hearings number now found)).1,
        outputs ++ (hub.performAll (hub.hearings number now found)).2) := by
  induction found generalizing hub outputs with
  | nil =>
      simp [handleAll, hearings, performAll]
  | cons incoming rest ih =>
      cases known : hub.connection? number with
      | none =>
          simp [handleAll, hearings, known, performAll]
      | some connection =>
          have heard := performAll_hear known now incoming
          simp only [handleAll, hearings, known]
          rw [← List.cons_append, performAll_append, heard, ← List.append_assoc]
          exact ih _ _

/-- A connection that is left ends. -/
theorem stage_farewell (hub : Hub) (connection : Connection) :
    (hub.settled (hub.farewell connection)).stage = .ended := by
  unfold farewell Connection.endOfStream
  cases connection.stage <;> rfl

theorem perform_leave
    {connection : Connection} (known : hub.connection? connection.number = some connection) :
    hub.perform (.leave connection.number) =
      hub.settle connection (Connection.endOfStream hub.exchange connection.stage) := by
  have quiet : hub.pausesFor (hub.farewell connection) = false := by
    simp [pausesFor, stage_farewell]
  have settles := settle_eq connection (hub.farewell connection) hub
  rw [quiet] at settles
  simp only [perform, known]
  exact settles.symm

/-- Connections that are ended one after the other are left one after the other. -/
theorem foldl_settle_eq
    (connections : List Connection) (apart : (connections.map (·.number)).Nodup) (hub : Hub)
    (known : ∀ connection ∈ connections,
      hub.connection? connection.number = some connection) (outputs : List Output) :
    connections.foldl
        (fun (hub, outputs) connection =>
          let (hub, more) :=
            hub.settle connection (Connection.endOfStream hub.exchange connection.stage)
          (hub, outputs ++ more))
        (hub, outputs) =
      ((hub.performAll (leavings connections)).1,
        outputs ++ (hub.performAll (leavings connections)).2) := by
  induction connections generalizing hub outputs with
  | nil =>
      simp [leavings, performAll]
  | cons connection rest ih =>
      rw [List.map_cons, List.nodup_cons] at apart
      have here := known connection List.mem_cons_self
      have left := perform_leave here
      have others : ∀ other ∈ rest,
          (hub.perform (.leave connection.number)).1.connection? other.number = some other := by
        intro other inside
        have different : other.number ≠ connection.number :=
          fun same => apart.1 (same ▸ List.mem_map_of_mem inside)
        have kept := connection?_carryOut (hub.farewell connection) here other.number
        rw [if_neg different] at kept
        simp only [perform, here]
        exact kept.trans (known other (List.mem_cons_of_mem _ inside))
      have later := ih apart.2 _ others
      simp only [List.foldl_cons, ← left, later, leavings, List.map_cons, performAll,
        List.append_assoc]

theorem closeWhere_eq
    (hub : Hub) (apart : (hub.connections.map (·.number)).Nodup) (condition : Connection → Bool) :
    hub.closeWhere condition =
      hub.performAll (leavings (hub.connections.filter condition)) := by
  have known : ∀ connection ∈ hub.connections.filter condition,
      hub.connection? connection.number = some connection :=
    fun connection inside => connection?_of_mem apart (List.mem_filter.mp inside).1
  have folded := foldl_settle_eq (hub.connections.filter condition)
    (apart.sublist (List.filter_sublist.map _)) hub known []
  rw [List.nil_append] at folded
  exact folded

/-- Whether the hub shuts down makes no difference to a connection that is left. -/
theorem perform_leave_stopping (hub : Hub) (number : Nat) :
    ({ hub with stopping := true } : Hub).perform (.leave number) =
      ({ (hub.perform (.leave number)).1 with stopping := true },
        (hub.perform (.leave number)).2) := by
  have same : ({ hub with stopping := true } : Hub).connection? number = hub.connection? number :=
    rfl
  simp only [perform, same]
  cases hub.connection? number with
  | none =>
      rfl
  | some connection =>
      simp only [carryOut_eq, stage_farewell]
      unfold farewell Connection.endOfStream
      cases connection.stage <;> rfl

theorem performAll_leavings_stopping (hub : Hub) (connections : List Connection) :
    ({ hub with stopping := true } : Hub).performAll (leavings connections) =
      ({ (hub.performAll (leavings connections)).1 with stopping := true },
        (hub.performAll (leavings connections)).2) := by
  induction connections generalizing hub with
  | nil =>
      rfl
  | cons connection rest ih =>
      simp only [leavings, List.map_cons, performAll, perform_leave_stopping]
      have later := ih (hub.perform (.leave connection.number)).1
      simp only [leavings] at later
      rw [later]

/-- A hub takes an input by performing the acts for it. -/
theorem performAll_actsFor
    (apart : (hub.connections.map (·.number)).Nodup) (input : Input) :
    hub.performAll (hub.actsFor input) = hub.take input := by
  cases input with
  | connection =>
      rfl
  | bytes number now bytes =>
      cases known : hub.connection? number with
      | none =>
          simp [actsFor, take, receive, known, performAll]
      | some connection =>
          simp only [actsFor, take, receive, known, handleAll_eq, List.nil_append]
          simp only [performAll, perform, known, performAll_append, List.nil_append,
            List.append_nil]
  | endOfStream number now =>
      cases known : hub.connection? number with
      | none =>
          simp [actsFor, take, finish, known, performAll]
      | some connection =>
          simp only [actsFor, take, finish, known, handleAll_eq, List.nil_append,
            performAll_append]
          generalize hub.performAll _ = handled
          cases left : handled.1.connection? number with
          | none =>
              simp [performAll, perform, left]
          | some connection =>
              obtain rfl := number_of_connection? left
              simp only [performAll, perform_leave left]
              simp [perform]
  | time milliseconds =>
      have closed := closeWhere_eq { hub with clock := hub.clock + milliseconds } apart
        (isLate (hub.clock + milliseconds))
      simp only [take, wait, closed, actsFor, performAll, perform, List.nil_append]
  | shutdown =>
      have closed := closeWhere_eq { hub with stopping := true } apart
        (fun connection => (servedFrame? connection).isSome)
      simp only [take, shutdown, closed, actsFor, performAll_append, performAll, perform,
        performAll_leavings_stopping, List.append_nil]

/-! ## Histories -/

/-- A hub and what it does next. -/
structure Moment where
  before : Hub
  act : Act

namespace Moment

def after (moment : Moment) : Hub :=
  (moment.before.perform moment.act).1

def outputs (moment : Moment) : List Output :=
  (moment.before.perform moment.act).2

end Moment

def run (hub : Hub) : List Act → List Moment
  | [] => []
  | act :: rest => ⟨hub, act⟩ :: (hub.perform act).1.run rest

/-- What a hub does, act by act, with all that comes to it. -/
def history (hub : Hub) : List Input → List Moment
  | [] => []
  | input :: rest => hub.run (hub.actsFor input) ++ (hub.take input).1.history rest

/-- All that has been written and closed. -/
def told (moments : List Moment) : List Output :=
  moments.flatMap Moment.outputs

theorem told_append (past future : List Moment) :
    told (past ++ future) = told past ++ told future :=
  List.flatMap_append

theorem told_concat (past : List Moment) (hub : Hub) (act : Act) :
    told (past ++ [⟨hub, act⟩]) = told past ++ (hub.perform act).2 := by
  rw [told_append, told, told, List.flatMap_singleton]
  rfl

theorem told_run (hub : Hub) (acts : List Act) : told (hub.run acts) = (hub.performAll acts).2 := by
  induction acts generalizing hub with
  | nil =>
      rfl
  | cons act rest ih =>
      exact congrArg _ (ih (hub.perform act).1)

theorem run_append (hub : Hub) (first second : List Act) :
    hub.run (first ++ second) = hub.run first ++ (hub.performAll first).1.run second := by
  induction first generalizing hub with
  | nil =>
      rfl
  | cons act rest ih =>
      exact congrArg _ (ih (hub.perform act).1)

/-! ## What every act keeps -/

/-- No connection has ended or shares its number, they keep to the limit of the hub, a hub that
shuts down serves nobody, and the switchboard runs. -/
structure Consistent (hub : Hub) (max : Nat) : Prop where
  limit : hub.maxMessageSize = max
  apart : (hub.connections.map (·.number)).Nodup
  numbered : ∀ connection ∈ hub.connections, connection.number < hub.nextNumber
  alive : ∀ connection ∈ hub.connections, connection.stage ≠ .ended
  readers : ∀ connection ∈ hub.connections, connection.reader.max = max
  idle : hub.stopping = true → ∀ connection ∈ hub.connections, servedFrame? connection = none
  running : hub.exchange.board.isSome = true

/-- A hub reads bytes and hears lines on its connections only, and stops when it serves nobody. -/
def Allows (hub : Hub) : Act → Prop
  | .read number _ => ∃ connection, hub.connection? number = some connection
  | .hear number _ _ => ∃ connection, hub.connection? number = some connection
  | .stop => ∀ connection ∈ hub.connections, servedFrame? connection = none
  | _ => True

variable {max : Nat}

theorem consistent_start (limits : Limits) (max : Nat) : (start limits max).Consistent max where
  limit := rfl
  apart := List.nodup_nil
  numbered := nofun
  alive := nofun
  readers := nofun
  idle := nofun
  running := rfl

/-- A hub that serves a frame does not shut down. -/
theorem Consistent.running_of_serving
    (consistent : hub.Consistent max) {number : Nat} {connection : Connection}
    (known : hub.connection? number = some connection) {frame : FrameId}
    (serving : connection.stage = .serving frame) : hub.stopping = false := by
  cases stopping : hub.stopping with
  | false =>
      rfl
  | true =>
      have idle := consistent.idle stopping connection (mem_of_connection? known)
      rw [servedFrame?, serving] at idle
      cases idle

/-- One connection changes, to something that the hub may keep. -/
theorem Consistent.setConnection
    (consistent : hub.Consistent max) {exchange : Exchange}
    (running : exchange.board.isSome = true) {connection : Connection} (changed : Connection)
    (known : connection ∈ hub.connections) (number : changed.number = connection.number)
    (reader : changed.reader.max = max)
    (idle : hub.stopping = true → changed.stage ≠ .ended → servedFrame? changed = none) :
    (({ hub with exchange } : Hub).setConnection changed).Consistent max := by
  have kept := numbers_setConnection ({ hub with exchange } : Hub) changed
  constructor
  · exact consistent.limit
  · exact consistent.apart.sublist kept
  · intro other inside
    rcases mem_setConnection inside with ⟨rfl, _⟩ | old
    · exact number ▸ consistent.numbered connection known
    · exact consistent.numbered other old
  · intro other inside
    rcases mem_setConnection inside with ⟨rfl, alive⟩ | old
    · exact alive
    · exact consistent.alive other old
  · intro other inside
    rcases mem_setConnection inside with ⟨rfl, _⟩ | old
    · exact reader
    · exact consistent.readers other old
  · intro stopping other inside
    rcases mem_setConnection inside with ⟨rfl, alive⟩ | old
    · exact idle stopping alive
    · exact consistent.idle stopping other old
  · exact running

/-- An answer that ends a connection or serves a frame keeps the hub in order. -/
theorem Consistent.carryOut
    (consistent : hub.Consistent max) {connection : Connection}
    (known : connection ∈ hub.connections) {answer : Answer}
    (running : (hub.settled answer).exchange.board.isSome = true)
    (stage : answer.stage = .ended ∨ ∃ frame, answer.stage = .serving frame) :
    (hub.carryOut connection answer).1.Consistent max := by
  rw [carryOut_eq]
  refine consistent.setConnection running
    { connection with stage := (hub.settled answer).stage } known rfl
    (consistent.readers connection known) ?_
  intro stopping alive
  exfalso
  apply alive
  rcases stage with ended | ⟨frame, serving⟩
  · rcases stage_settled answer hub with same | ended'
    · exact same.trans ended
    · exact ended'
  · simp [settled, serving, stopping, Connection.release, Connection.hangUp]

theorem isSome_ask
    {exchange : Exchange} (running : exchange.board.isSome = true) (now : Instant)
    (command : Command) : (exchange.ask now command).board.isSome = true := by
  rw [Exchange.board_ask, Option.isSome_map]
  exact running

theorem isSome_settled
    (hub : Hub) {answer : Answer} (running : answer.exchange.board.isSome = true) :
    (hub.settled answer).exchange.board.isSome = true := by
  unfold settled
  split
  · split
    · rw [Connection.release, Connection.hangUp, answer.exchange.unregister_eq_ask .epoch]
      exact isSome_ask running _ _
    · exact running
  · exact running

theorem isSome_answerTo
    (running : hub.exchange.board.isSome = true) (connection : Connection) (now : Instant)
    (incoming : Incoming) :
    (hub.answerTo connection now incoming).exchange.board.isSome = true := by
  rw [answerTo, Connection.exchange_handle]
  cases Connection.command? hub.maxMessageSize connection.stage incoming with
  | none =>
      exact running
  | some command =>
      exact isSome_ask running now command

theorem isSome_farewell
    (running : hub.exchange.board.isSome = true) (connection : Connection) :
    (hub.farewell connection).exchange.board.isSome = true := by
  unfold farewell Connection.endOfStream
  cases connection.stage with
  | ended | greeting =>
      exact running
  | serving frame =>
      simp only [Connection.release, Connection.hangUp,
        hub.exchange.unregister_eq_ask .epoch]
      exact isSome_ask running _ _

/-- Packets are written without the switchboard. -/
theorem board_forward (hub : Hub) : hub.forward.1.exchange.board = hub.exchange.board := by
  refine List.foldlRecOn
    (motive := fun done : Exchange × List Output => done.1.board = hub.exchange.board)
    hub.connections _ rfl ?_
  intro done same connection _
  simp only [forwardOne]
  split
  · exact same
  · exact same

/-- A connection that is taken on has a number of its own and is served nothing yet. -/
theorem Consistent.accept (consistent : hub.Consistent max) : hub.accept.2.Consistent max := by
  unfold Hub.accept
  split
  · exact consistent
  · rename_i running
    constructor
    · exact consistent.limit
    · apply Keyed.apart_append.mpr ⟨consistent.apart, ?_⟩
      exact fun other inside => Nat.ne_of_lt (consistent.numbered other inside)
    · intro other inside
      rcases List.mem_append.mp inside with old | new
      · exact Nat.lt_succ_of_lt (consistent.numbered other old)
      · rw [List.mem_singleton.mp new]
        exact Nat.lt_succ_self _
    · intro other inside
      rcases List.mem_append.mp inside with old | new
      · exact consistent.alive other old
      · rw [List.mem_singleton.mp new]
        nofun
    · intro other inside
      rcases List.mem_append.mp inside with old | new
      · exact consistent.readers other old
      · rw [List.mem_singleton.mp new]
        exact consistent.limit
    · exact fun stopping => absurd stopping running
    · exact consistent.running

theorem Consistent.perform
    (consistent : hub.Consistent max) {act : Act} (allowed : hub.Allows act) :
    (hub.perform act).1.Consistent max := by
  cases act with
  | accept =>
      exact consistent.accept
  | read number bytes =>
      simp only [Hub.perform]
      cases known : hub.connection? number with
      | none =>
          exact consistent
      | some connection =>
          have inside := mem_of_connection? known
          refine consistent.setConnection consistent.running
            { connection with reader := (connection.reader.feed bytes).2 } inside rfl ?_ ?_
          · exact (LineReader.feed_max _ _).trans (consistent.readers connection inside)
          · exact fun stopping _ => consistent.idle stopping connection inside
  | hear number now incoming =>
      rcases allowed with ⟨connection, known⟩
      simp only [Hub.perform, known]
      apply consistent.carryOut (mem_of_connection? known)
      · exact isSome_settled hub (isSome_answerTo consistent.running _ _ _)
      · exact Connection.stage_handle hub.exchange now hub.maxMessageSize _ _
  | forward =>
      exact ⟨consistent.limit, consistent.apart, consistent.numbered, consistent.alive,
        consistent.readers, consistent.idle, board_forward hub ▸ consistent.running⟩
  | leave number =>
      simp only [Hub.perform]
      cases known : hub.connection? number with
      | none =>
          exact consistent
      | some connection =>
          apply consistent.carryOut (mem_of_connection? known)
          · exact isSome_settled hub (isSome_farewell consistent.running connection)
          · left
            unfold farewell Connection.endOfStream
            cases connection.stage <;> rfl
  | pass milliseconds =>
      exact ⟨consistent.limit, consistent.apart, consistent.numbered, consistent.alive,
        consistent.readers, consistent.idle, consistent.running⟩
  | stop =>
      exact ⟨consistent.limit, consistent.apart, consistent.numbered, consistent.alive,
        consistent.readers, fun _ => allowed, consistent.running⟩

/-! ## Reachable hubs -/

/-- A hub that has done some things since its start. -/
inductive Reached (limits : Limits) (max : Nat) : List Moment → Hub → Prop
  | start : Reached limits max [] (Hub.start limits max)
  | act {past : List Moment} {hub : Hub} (reached : Reached limits max past hub) (act : Act)
      (allowed : hub.Allows act) :
      Reached limits max (past ++ [⟨hub, act⟩]) (hub.perform act).1

namespace Reached

variable {limits : Limits} {past future : List Moment} {moment : Moment}

theorem consistent (reached : Reached limits max past hub) : hub.Consistent max := by
  induction reached with
  | start =>
      exact consistent_start limits max
  | act _ act allowed ih =>
      exact ih.perform allowed

/-- At every moment the hub has done what was before. -/
theorem of_append (reached : Reached limits max (past ++ moment :: future) hub) :
    Reached limits max past moment.before ∧ moment.before.Allows moment.act ∧
      Reached limits max (past ++ [moment]) moment.after := by
  generalize whole : past ++ moment :: future = all at reached
  induction reached generalizing future with
  | start =>
      simp at whole
  | act reached act allowed ih =>
      rcases List.eq_nil_or_concat future with rfl | ⟨between, last, rfl⟩
      · rcases List.append_inj' whole rfl with ⟨rfl, same⟩
        obtain rfl := (List.cons.inj same).1
        exact ⟨reached, allowed, .act reached act allowed⟩
      · rw [List.concat_eq_append, ← List.cons_append, ← List.append_assoc] at whole
        exact ih (List.append_inj' whole rfl).1

theorem performAll
    (reached : Reached limits max past hub) {acts : List Act}
    (allowed : ∀ moment ∈ hub.run acts, moment.before.Allows moment.act) :
    Reached limits max (past ++ hub.run acts) (hub.performAll acts).1 := by
  induction acts generalizing past hub with
  | nil =>
      rw [run, List.append_nil]
      exact reached
  | cons act rest ih =>
      rw [run, List.forall_mem_cons] at allowed
      rw [run, List.append_cons]
      exact ih (.act reached act allowed.1) allowed.2

end Reached

/-! ## What an input allows -/

theorem mem_perform_leave {number : Nat} {connection : Connection}
    (inside : connection ∈ (hub.perform (.leave number)).1.connections) :
    connection ∈ hub.connections ∧ connection.number ≠ number := by
  simp only [perform] at inside
  cases known : hub.connection? number with
  | none =>
      rw [known] at inside
      have absent := List.find?_eq_none.mp known connection inside
      exact ⟨inside, by simpa using absent⟩
  | some left =>
      obtain rfl := number_of_connection? known
      simp only [known, carryOut_eq, stage_farewell, setConnection, List.mem_filter] at inside
      exact ⟨inside.1, by simpa using inside.2⟩

theorem mem_performAll_leavings {connections : List Connection} {connection : Connection}
    (inside : connection ∈ (hub.performAll (leavings connections)).1.connections) :
    connection ∈ hub.connections ∧ connection.number ∉ connections.map (·.number) := by
  induction connections generalizing hub with
  | nil =>
      exact ⟨inside, nofun⟩
  | cons first rest ih =>
      rcases ih inside with ⟨later, others⟩
      rcases mem_perform_leave later with ⟨before, different⟩
      refine ⟨before, ?_⟩
      rw [List.map_cons, List.mem_cons, not_or]
      exact ⟨different, others⟩

theorem allows_hearings (number : Nat) (now : Instant) (found : List Incoming) :
    ∀ moment ∈ hub.run (hub.hearings number now found), moment.before.Allows moment.act := by
  induction found generalizing hub with
  | nil =>
      simp [hearings, run]
  | cons incoming rest ih =>
      cases known : hub.connection? number with
      | none =>
          simp [hearings, known, run]
      | some connection =>
          have heard := performAll_hear known now incoming
          simp only [hearings, known]
          rw [← List.cons_append, run_append, heard]
          intro moment inside
          rcases List.mem_append.mp inside with first | later
          · split at first
            · simp only [run, List.mem_cons, List.not_mem_nil, or_false] at first
              rcases first with rfl | rfl
              · exact ⟨connection, known⟩
              · trivial
            · obtain rfl := List.mem_singleton.mp first
              exact ⟨connection, known⟩
          · exact ih moment later

theorem allows_leavings (connections : List Connection) :
    ∀ moment ∈ hub.run (leavings connections), moment.before.Allows moment.act := by
  induction connections generalizing hub with
  | nil =>
      simp [leavings, run]
  | cons connection rest ih =>
      intro moment inside
      rcases List.mem_cons.mp inside with rfl | later
      · trivial
      · exact ih moment later

theorem forall_mem_run_append
    {property : Moment → Prop} {first second : List Act}
    (holds : ∀ moment ∈ hub.run first, property moment)
    (later : ∀ moment ∈ (hub.performAll first).1.run second, property moment) :
    ∀ moment ∈ hub.run (first ++ second), property moment := by
  rw [run_append]
  exact fun moment inside => (List.mem_append.mp inside).elim (holds moment) (later moment)

/-- What an input makes a hub do is allowed. -/
theorem allows_actsFor (hub : Hub) (input : Input) :
    ∀ moment ∈ hub.run (hub.actsFor input), moment.before.Allows moment.act := by
  cases input with
  | connection =>
      rintro moment inside
      obtain rfl := List.mem_singleton.mp inside
      trivial
  | bytes number now bytes =>
      cases known : hub.connection? number with
      | none =>
          simp [actsFor, known, run]
      | some connection =>
          simp only [actsFor, known]
          rw [← List.cons_append]
          apply forall_mem_run_append
          · intro moment inside
            rcases List.mem_cons.mp inside with rfl | later
            · exact ⟨connection, known⟩
            · simp only [perform, known] at later
              exact allows_hearings number now _ moment later
          · rintro moment inside
            obtain rfl := List.mem_singleton.mp inside
            trivial
  | endOfStream number now =>
      cases known : hub.connection? number with
      | none =>
          simp [actsFor, known, run]
      | some connection =>
          simp only [actsFor, known]
          apply forall_mem_run_append
          · exact allows_hearings number now _
          · intro moment inside
            rcases List.mem_cons.mp inside with rfl | later
            · trivial
            · obtain rfl := List.mem_singleton.mp later
              trivial
  | time milliseconds =>
      intro moment inside
      rcases List.mem_cons.mp inside with rfl | later
      · trivial
      · exact allows_leavings _ moment later
  | shutdown =>
      apply forall_mem_run_append
      · exact allows_leavings _
      · rintro moment inside
        obtain rfl := List.mem_singleton.mp inside
        intro connection left
        rcases mem_performAll_leavings left with ⟨known, others⟩
        cases served : servedFrame? connection with
        | none =>
            rfl
        | some frame =>
            refine absurd (List.mem_map_of_mem ?_) others
            exact List.mem_filter.mpr ⟨known, by simp [served]⟩

namespace Reached

variable {limits : Limits} {past future : List Moment}

theorem take (reached : Reached limits max past hub) (input : Input) :
    Reached limits max (past ++ hub.run (hub.actsFor input)) (hub.take input).1 := by
  have performed := reached.performAll (hub.allows_actsFor input)
  rw [performAll_actsFor reached.consistent.apart] at performed
  exact performed

theorem takeAll (reached : Reached limits max past hub) (inputs : List Input) :
    Reached limits max (past ++ hub.history inputs) (hub.takeAll inputs).1 := by
  induction inputs generalizing past hub with
  | nil =>
      rw [history, List.append_nil]
      exact reached
  | cons input rest ih =>
      rw [history, ← List.append_assoc]
      exact ih (reached.take input)

end Reached

/-- A history leads from the start of a hub to the hub that has taken all inputs. -/
theorem reached_history (limits : Limits) (max : Nat) (inputs : List Input) :
    Reached limits max ((start limits max).history inputs)
      ((start limits max).takeAll inputs).1 :=
  Reached.takeAll .start inputs

theorem told_history_of_reached
    {limits : Limits} {past : List Moment} (reached : Reached limits max past hub)
    (inputs : List Input) : told (hub.history inputs) = (hub.takeAll inputs).2 := by
  induction inputs generalizing past hub with
  | nil =>
      rfl
  | cons input rest ih =>
      have taken := performAll_actsFor reached.consistent.apart input
      simp only [history, told_append, told_run, taken, Hub.takeAll, ih (reached.take input)]

/-- A history tells all that the hub writes and closes. -/
theorem told_history (limits : Limits) (max : Nat) (inputs : List Input) :
    told ((start limits max).history inputs) = ((start limits max).takeAll inputs).2 :=
  told_history_of_reached .start inputs

end SessionBus.Hub
