import SessionBus.Hub.Server
import SessionBus.Proofs.Keyed
import SessionBus.Proofs.Registry.Asking

/-!
# The single acts of a hub

Whatever comes to a hub, it does one thing after the other: it takes a connection in, takes bytes
into a line reader, handles one line, writes the packets that wait, or ends a connection.  Every one
of these acts concerns a single connection, and asks the switchboard little: a line gives it at most
one command, and a connection that ends takes its frame out.
-/

namespace SessionBus

/-! ## Commands -/

/-- The command that a request of a frame gives the switchboard.  A packet goes out under the
frame's own identity. -/
def Request.command? (frame : FrameId) : Request → Option Command
  | .connect _ => none
  | .claimSession _ session => some (.claim frame session)
  | .joinSession _ session displayName => some (.join frame session displayName)
  | .describeSession _ session => some (.describe session)
  | .send route packet => some (.deliver route { packet with sender := frame })
  | .ping _ => none
  | .disconnect => some (.unregister frame)

/-- Whether a first message asks to connect, in a version that the hub understands. -/
def FrameMessage.asksToConnect (message : FrameMessage) : Bool :=
  match message.version.requireCompatible, message.request with
  | .ok (), .connect _ => true
  | _, _ => false

namespace Connection

/-- The command that a connection gives the switchboard for what the line reader found. -/
def command? (max : Nat) : Stage → Incoming → Option Command
  | .greeting _, .line text =>
    match Line.parseFrame text max with
    | .ok message => if message.asksToConnect then some .register else none
    | .error _ => none
  | .serving frame, .line text =>
    match Line.parseFrame text max with
    | .ok message => message.request.command? frame
    | .error _ => none
  | .serving frame, .notText => some (.unregister frame)
  | _, _ => none

theorem command?_cases
    {max : Nat} {stage : Stage} {incoming : Incoming} {command : Command}
    (given : command? max stage incoming = some command) :
    command = .register ∧ (∃ deadline, stage = .greeting deadline) ∨
      ∃ frame, stage = .serving frame ∧
        (command = .unregister frame ∨
          ∃ text message, incoming = .line text ∧ Line.parseFrame text max = .ok message ∧
            message.request.command? frame = some command) := by
  cases stage with
  | ended =>
      cases given
  | greeting deadline =>
      cases incoming with
      | tooLong | notText =>
          cases given
      | line text =>
          simp only [command?] at given
          split at given
          · split at given
            · exact .inl ⟨(Option.some.inj given).symm, deadline, rfl⟩
            · cases given
          · cases given
  | serving frame =>
      right
      refine ⟨frame, rfl, ?_⟩
      cases incoming with
      | tooLong =>
          cases given
      | notText =>
          exact .inl (Option.some.inj given).symm
      | line text =>
          simp only [command?] at given
          split at given
          · rename_i message parsed
            exact .inr ⟨text, message, rfl, parsed, given⟩
          · cases given

variable (exchange : Exchange) (now : Instant)

theorem exchange_serve (frame : FrameId) (request : Request) :
    (serve exchange frame now request).exchange =
      (request.command? frame).elim exchange (exchange.ask now) := by
  cases request with
  | connect | ping =>
      rfl
  | claimSession request session =>
      exact exchange.claim_eq_ask frame session now
  | joinSession request session displayName =>
      exact exchange.join_eq_ask frame session displayName now
  | describeSession request session =>
      exact (exchange.ask_describe now session).symm
  | send route packet =>
      exact exchange.deliver_eq_ask now route _
  | disconnect =>
      exact exchange.unregister_eq_ask now frame

/-- The answer to a first message that asks to connect. -/
theorem greet_of_asks {message : FrameMessage} (asks : message.asksToConnect = true) :
    greet exchange message =
      match exchange.register with
      | (.error error, exchange) => refuse (.reject error.message) exchange
      | (.ok frame, exchange) => goOn exchange frame [.accept frame] := by
  unfold FrameMessage.asksToConnect at asks
  unfold greet
  split at asks
  · rename_i compatible connect
    simp only [compatible, connect]
    rfl
  · cases asks

/-- Any other first message is refused at once. -/
theorem greet_of_not_asks {message : FrameMessage} (other : message.asksToConnect = false) :
    ∃ reply, greet exchange message = refuse reply exchange ∧
      ((∃ reason, reply = .reject reason) ∨ ∃ reason, reply = .complaint reason) := by
  unfold FrameMessage.asksToConnect at other
  unfold greet
  split
  · exact ⟨_, rfl, .inl ⟨_, rfl⟩⟩
  · rename_i compatible
    rw [compatible] at other
    split
    · rename_i connect
      rw [connect] at other
      cases other
    · exact ⟨_, rfl, .inr ⟨_, rfl⟩⟩

theorem exchange_greet (message : FrameMessage) :
    (greet exchange message).exchange =
      if message.asksToConnect then exchange.ask now .register else exchange := by
  split
  · rename_i asks
    rw [greet_of_asks exchange asks, ← exchange.register_eq_ask]
    split <;> rename_i registered <;> rw [registered] <;> rfl
  · rename_i other
    rcases greet_of_not_asks exchange (Bool.not_eq_true _ ▸ other) with ⟨reply, refused, _⟩
    rw [refused]
    rfl

/-- A connection asks the switchboard nothing but its command. -/
theorem exchange_handle (max : Nat) (stage : Stage) (incoming : Incoming) :
    (handle exchange max now stage incoming).exchange =
      (command? max stage incoming).elim exchange (exchange.ask now) := by
  cases stage with
  | ended =>
      rfl
  | greeting deadline =>
      cases incoming with
      | tooLong | notText =>
          rfl
      | line text =>
          cases parsed : Line.parseFrame text max with
          | error error =>
              simp [handle, command?, parsed, hangUp]
          | ok message =>
              simp only [handle, command?, parsed, exchange_greet exchange now]
              split <;> rfl
  | serving frame =>
      cases incoming with
      | tooLong =>
          rfl
      | notText =>
          exact exchange.unregister_eq_ask now frame
      | line text =>
          cases parsed : Line.parseFrame text max with
          | error error =>
              cases error <;> simp [handle, command?, parsed, goOn]
          | ok message =>
              simp only [handle, command?, parsed, exchange_serve]

/-- What becomes of a connection that is greeted.  A reader that finds no message ends it without a
word; a message that does not ask to connect is refused, and the switchboard says what becomes of
one that does. -/
theorem handle_greeting_cases (max deadline : Nat) (incoming : Incoming) :
    let answer := handle exchange max now (.greeting deadline) incoming
    (answer = hangUp exchange ∧
        ∀ text message, incoming = .line text → Line.parseFrame text max ≠ .ok message) ∨
      ∃ text message, incoming = .line text ∧ Line.parseFrame text max = .ok message ∧
        ((∃ reply, message.asksToConnect = false ∧ answer = refuse reply exchange ∧
            ((∃ reason, reply = .reject reason) ∨ ∃ reason, reply = .complaint reason)) ∨
          message.asksToConnect = true ∧
            ((∃ error, exchange.register.1 = .error error ∧
                answer = refuse (.reject error.message) exchange.register.2) ∨
              ∃ frame, exchange.register.1 = .ok frame ∧
                answer = goOn exchange.register.2 frame [.accept frame])) := by
  intro answer
  cases incoming with
  | tooLong | notText =>
      exact .inl ⟨rfl, nofun⟩
  | line text =>
      cases parsed : Line.parseFrame text max with
      | error error =>
          left
          refine ⟨by simp only [answer, handle, parsed], ?_⟩
          rintro _ message ⟨⟩ read
          rw [parsed] at read
          cases read
      | ok message =>
          right
          have greeted : answer = greet exchange message := by
            simp only [answer, handle, parsed]
          refine ⟨text, message, rfl, parsed, ?_⟩
          cases asks : message.asksToConnect with
          | false =>
              left
              rcases greet_of_not_asks exchange asks with ⟨reply, refused, kind⟩
              exact ⟨reply, rfl, greeted.trans refused, kind⟩
          | true =>
              right
              rw [greeted, greet_of_asks exchange asks]
              rcases exchange.register with ⟨error | frame, after⟩
              · exact ⟨rfl, .inl ⟨error, rfl, rfl⟩⟩
              · exact ⟨rfl, .inr ⟨frame, rfl, rfl⟩⟩

/-- Whether what the reader found makes the hub part from a frame. -/
def isFarewell (max : Nat) : Incoming → Bool
  | .line text =>
    match Line.parseFrame text max with
    | .ok message => message.request = .disconnect
    | .error _ => false
  | .tooLong => false
  | .notText => true

/-- A connection serves its frame until the farewell. -/
theorem stage_handle_serving (max : Nat) (frame : FrameId) (incoming : Incoming) :
    (handle exchange max now (.serving frame) incoming).stage =
      if isFarewell max incoming then .ended else .serving frame := by
  cases incoming with
  | tooLong | notText =>
      rfl
  | line text =>
      cases parsed : Line.parseFrame text max with
      | error error =>
          cases error <;> simp [handle, isFarewell, parsed, goOn]
      | ok message =>
          rcases message with ⟨version, request⟩
          cases request <;>
            simp [handle, isFarewell, parsed, serve, goOn, goOnAfterPause, release, hangUp]

theorem stage_handle (max : Nat) (stage : Stage) (incoming : Incoming) :
    (handle exchange max now stage incoming).stage = .ended ∨
      ∃ frame, (handle exchange max now stage incoming).stage = .serving frame := by
  cases stage with
  | ended =>
      exact .inl rfl
  | greeting deadline =>
      rcases handle_greeting_cases exchange now max deadline incoming with
        ⟨hungUp, _⟩ | ⟨text, message, _, _, ⟨reply, _, refused, _⟩ | ⟨_, ⟨_, _, refused⟩ |
          ⟨frame, _, accepted⟩⟩⟩
      · exact .inl (congrArg Answer.stage hungUp)
      · exact .inl (congrArg Answer.stage refused)
      · exact .inl (congrArg Answer.stage refused)
      · exact .inr ⟨frame, congrArg Answer.stage accepted⟩
  | serving frame =>
      rw [stage_handle_serving]
      split
      · exact .inl rfl
      · exact .inr ⟨frame, rfl⟩

end Connection

/-! ## Acts -/

namespace Hub

/-- One thing that a hub does. -/
inductive Act where
  | accept
  | read (number : Nat) (bytes : List UInt8)
  | hear (number : Nat) (now : Instant) (incoming : Incoming)
  | forward
  | leave (number : Nat)
  | pass (milliseconds : Nat)
  | stop

/-- What is left of an answer: a hub that shuts down serves nobody any longer. -/
def settled (hub : Hub) (answer : Answer) : Answer :=
  match answer.stage with
  | .serving frame => if hub.stopping then Connection.release answer.exchange frame else answer
  | _ => answer

/-- Carries out an answer without the packets that wait. -/
def carryOut (hub : Hub) (connection : Connection) (answer : Answer) : Hub × List Output :=
  hub.settle connection { answer with pauses := false }

/-- The answer to what the line reader of a connection found. -/
def answerTo (hub : Hub) (connection : Connection) (now : Instant) (incoming : Incoming) : Answer :=
  Connection.handle hub.exchange hub.maxMessageSize now connection.stage incoming

def farewell (hub : Hub) (connection : Connection) : Answer :=
  Connection.endOfStream hub.exchange connection.stage

def perform (hub : Hub) : Act → Hub × List Output
  | .accept => (hub.accept.2, [])
  | .read number bytes =>
    match hub.connection? number with
    | none => (hub, [])
    | some connection =>
      (hub.setConnection { connection with reader := (connection.reader.feed bytes).2 }, [])
  | .hear number now incoming =>
    match hub.connection? number with
    | none => (hub, [])
    | some connection => hub.carryOut connection (hub.answerTo connection now incoming)
  | .forward => hub.forward
  | .leave number =>
    match hub.connection? number with
    | none => (hub, [])
    | some connection => hub.carryOut connection (hub.farewell connection)
  | .pass milliseconds => ({ hub with clock := hub.clock + milliseconds }, [])
  | .stop => ({ hub with stopping := true }, [])

/-! ### Stages -/

variable {hub : Hub} {connection : Connection}

theorem number_of_connection? {number : Nat} (known : hub.connection? number = some connection) :
    connection.number = number := by
  simpa using List.find?_some known

theorem mem_of_connection? {number : Nat} (known : hub.connection? number = some connection) :
    connection ∈ hub.connections :=
  List.mem_of_find?_eq_some known

/-- Where the connection of a number stands. -/
def stage? (hub : Hub) (number : Nat) : Option Stage :=
  (hub.connection? number).map (·.stage)

theorem stage?_of_connection? {number : Nat} (known : hub.connection? number = some connection) :
    hub.stage? number = some connection.stage := by
  rw [stage?, known, Option.map_some]

theorem connection?_setConnection
    (hub : Hub) (changed : Connection) (known : hub.connection? changed.number = some connection)
    (number : Nat) :
    (hub.setConnection changed).connection? number =
      if number = changed.number then
        if changed.stage = .ended then none else some changed
      else hub.connection? number := by
  have filtered : (hub.connections.filter fun other => other.number != changed.number).find?
      (fun other => other.number == number) =
        if number = changed.number then none else hub.connection? number := by
    rw [List.find?_filter]
    split
    · rename_i same
      rw [List.find?_eq_none]
      intro other _
      simp [same]
    · rename_i different
      unfold Hub.connection?
      congr 1
      funext other
      by_cases here : other.number = number <;> simp [here, different]
  have mapped : (hub.connections.map fun other =>
      if other.number = changed.number then changed else other).find?
        (fun other => other.number == number) =
          if number = changed.number then some changed else hub.connection? number := by
    have sameKeys : ((fun other : Connection => other.number == number) ∘ fun other =>
        if other.number = changed.number then changed else other) =
          fun other => other.number == number := by
      funext other
      by_cases here : other.number = changed.number <;> simp [here]
    rw [List.find?_map, sameKeys]
    change Option.map _ (hub.connection? number) = _
    split
    · rename_i same
      rw [same, known, Option.map_some, if_pos (number_of_connection? known)]
    · rename_i different
      cases found : hub.connection? number with
      | none =>
          rfl
      | some other =>
          have own : other.number ≠ changed.number := number_of_connection? found ▸ different
          rw [Option.map_some, if_neg own]
  unfold setConnection
  cases stage : changed.stage with
  | ended =>
      exact filtered.trans (by simp)
  | greeting | serving =>
      exact mapped.trans (by simp)

/-- The connections after one has changed. -/
theorem mem_setConnection {changed : Connection}
    (inside : connection ∈ (hub.setConnection changed).connections) :
    connection = changed ∧ changed.stage ≠ .ended ∨ connection ∈ hub.connections := by
  unfold setConnection at inside
  cases stage : changed.stage with
  | ended =>
      simp only [stage] at inside
      exact .inr (List.mem_filter.mp inside).1
  | greeting | serving =>
      simp only [stage] at inside
      rcases List.mem_map.mp inside with ⟨other, known, rfl⟩
      split
      · exact .inl ⟨rfl, nofun⟩
      · exact .inr known

theorem numbers_setConnection (hub : Hub) (changed : Connection) :
    ((hub.setConnection changed).connections.map (·.number)).Sublist
      (hub.connections.map (·.number)) := by
  have replaced : (hub.connections.map fun other =>
      if other.number = changed.number then changed else other).map (·.number) =
        hub.connections.map (·.number) := by
    rw [List.map_map]
    apply List.map_congr_left
    intro other _
    simp only [Function.comp_apply]
    split
    · rename_i same
      exact same.symm
    · rfl
  unfold setConnection
  cases changed.stage with
  | ended =>
      exact List.filter_sublist.map _
  | greeting | serving =>
      simp only [replaced]
      exact .refl _

/-! ### Answers -/

variable (connection : Connection) (answer : Answer)

theorem stage_settled (hub : Hub) :
    (hub.settled answer).stage = answer.stage ∨ (hub.settled answer).stage = .ended := by
  unfold settled
  split
  · split
    · exact .inr rfl
    · exact .inl rfl
  · exact .inl rfl

theorem settled_of_running (running : hub.stopping = false) : hub.settled answer = answer := by
  unfold settled
  split
  · rw [if_neg (Bool.eq_false_iff.mp running)]
  · rfl

theorem carryOut_eq (hub : Hub) :
    hub.carryOut connection answer =
      (({ hub with exchange := (hub.settled answer).exchange } : Hub).setConnection
          { connection with stage := (hub.settled answer).stage },
        answer.messages.map (Output.write connection.number) ++
          if (hub.settled answer).stage = .ended then [.close connection.number] else []) := by
  rcases answer with ⟨messages, stage, exchange, pauses⟩
  cases stage with
  | ended | greeting =>
      simp [carryOut, settle, settled]
  | serving frame =>
      cases stopping : hub.stopping <;>
        simp [carryOut, settle, settled, stopping, Connection.release, Connection.hangUp]

/-- Whether packets that wait are written with an answer. -/
def pausesFor (hub : Hub) : Bool :=
  (hub.settled answer).pauses && (hub.settled answer).stage != .ended

/-- An answer is carried out, and then packets may be written. -/
theorem settle_eq (hub : Hub) :
    hub.settle connection answer =
      if hub.pausesFor answer then
        let carried := hub.carryOut connection answer
        (carried.1.forward.1, carried.2 ++ carried.1.forward.2)
      else hub.carryOut connection answer := by
  rcases answer with ⟨messages, stage, exchange, pauses⟩
  cases stage with
  | ended =>
      simp [carryOut, settle, pausesFor, settled]
  | greeting =>
      cases pauses <;> simp [carryOut, settle, pausesFor, settled]
  | serving frame =>
      cases stopping : hub.stopping <;> cases pauses <;>
        simp [carryOut, settle, pausesFor, settled, stopping, Connection.release,
          Connection.hangUp]

variable {connection} {number : Nat}

/-- An answer changes its own connection only. -/
theorem connection?_carryOut (known : hub.connection? number = some connection) (other : Nat) :
    (hub.carryOut connection answer).1.connection? other =
      if other = number then
        if (hub.settled answer).stage = .ended then none
        else some { connection with stage := (hub.settled answer).stage }
      else hub.connection? other := by
  obtain rfl := number_of_connection? known
  let asked : Hub := { hub with exchange := (hub.settled answer).exchange }
  have found : asked.connection? connection.number = some connection := known
  rw [carryOut_eq]
  exact asked.connection?_setConnection
    { connection with stage := (hub.settled answer).stage } found other

end Hub

end SessionBus
