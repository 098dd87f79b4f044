import SessionBus.Proofs.Hub.Run

/-!
# What becomes of one connection

Every act of a hub concerns one connection at most, apart from the packets that are written to those
of their frames.  So the life of a connection is the same whatever the others do: it is taken in,
hears its first line, serves a frame, and is closed once.
-/

namespace SessionBus

/-! ## What a hub writes -/

/-- The identity that a frame is told. -/
def HubMessage.identity? : HubMessage → Option FrameId
  | .connected _ frame => some frame
  | _ => none

namespace Output

/-- The connection that an output concerns. -/
def number : Output → Nat
  | .write number _ => number
  | .close number => number

theorem mem_messagesTo {number : Nat} {message : HubMessage} {outputs : List Output} :
    message ∈ messagesTo number outputs ↔ .write number message ∈ outputs := by
  unfold messagesTo
  rw [List.mem_filterMap]
  constructor
  · rintro ⟨output, inside, written⟩
    cases output with
    | close other =>
        cases written
    | write other said =>
        simp only [Option.ite_none_right_eq_some, Option.some.injEq] at written
        obtain ⟨rfl, rfl⟩ := written
        exact inside
  · exact fun inside => ⟨_, inside, if_pos rfl⟩

/-- The identities that frames are told on a connection. -/
def identities (number : Nat) (outputs : List Output) : List FrameId :=
  (messagesTo number outputs).filterMap HubMessage.identity?

theorem mem_identities {number : Nat} {frame : FrameId} {outputs : List Output} :
    frame ∈ identities number outputs ↔
      ∃ version, .write number (.connected version frame) ∈ outputs := by
  unfold identities
  rw [List.mem_filterMap]
  constructor
  · rintro ⟨message, inside, told⟩
    cases message with
    | connected version other =>
        cases told
        exact ⟨version, mem_messagesTo.mp inside⟩
    | rejected | sessionClaimed | sessionJoined | sessionDescribed | deliver | pong | error =>
        cases told
  · rintro ⟨version, inside⟩
    exact ⟨_, mem_messagesTo.mpr inside, rfl⟩

theorem messagesTo_append (number : Nat) (first second : List Output) :
    messagesTo number (first ++ second) = messagesTo number first ++ messagesTo number second :=
  List.filterMap_append

theorem identities_append (number : Nat) (first second : List Output) :
    identities number (first ++ second) = identities number first ++ identities number second := by
  rw [identities, messagesTo_append, List.filterMap_append]
  rfl

theorem messagesTo_write (number : Nat) (messages : List HubMessage) :
    messagesTo number (messages.map (.write number)) = messages := by
  induction messages with
  | nil =>
      rfl
  | cons message rest ih =>
      simp only [List.map_cons, messagesTo, List.filterMap_cons, if_true]
      exact congrArg _ ih

theorem messagesTo_eq_nil {number : Nat} {outputs : List Output}
    (quiet : ∀ output ∈ outputs, output.number ≠ number) : messagesTo number outputs = [] := by
  rw [List.eq_nil_iff_forall_not_mem]
  intro message inside
  exact quiet _ (mem_messagesTo.mp inside) rfl

end Output

namespace Hub

variable {hub : Hub} {max : Nat}

/-! ## Packets -/

/-- A packet that is written has waited for the frame of the connection. -/
theorem mem_forwardOne
    {connection : Connection} {exchange : Exchange} {output : Output}
    (inside : output ∈ (forwardOne connection exchange).2) :
    ∃ frame packet, connection.stage = .serving frame ∧ exchange.Waits frame packet ∧
      output = .write connection.number (.deliver packet) := by
  simp only [forwardOne, servedFrame?] at inside
  cases stage : connection.stage with
  | ended | greeting =>
      simp [stage] at inside
  | serving frame =>
      simp only [stage] at inside
      rcases List.mem_map.mp inside with ⟨packet, waiting, rfl⟩
      exact ⟨frame, packet, rfl, Exchange.waits_of_mem_collect waiting, rfl⟩

theorem waits_of_forwardOne
    {connection : Connection} {exchange : Exchange} {frame : FrameId} {packet : Packet}
    (waits : (forwardOne connection exchange).1.Waits frame packet) :
    exchange.Waits frame packet := by
  simp only [forwardOne] at waits
  split at waits
  · exact waits
  · exact Exchange.waits_of_waits_collect waits

theorem forward_connections_waits
    (connections : List Connection) (exchange : Exchange) (outputs : List Output) :
    let forwarded := connections.foldl
      (fun (exchange, outputs) connection =>
        let (exchange, more) := forwardOne connection exchange
        (exchange, outputs ++ more))
      (exchange, outputs)
    (∀ output ∈ forwarded.2, output ∈ outputs ∨
        ∃ connection ∈ connections, ∃ frame packet, connection.stage = .serving frame ∧
          exchange.Waits frame packet ∧ output = .write connection.number (.deliver packet)) ∧
      ∀ frame packet, forwarded.1.Waits frame packet → exchange.Waits frame packet := by
  induction connections generalizing exchange outputs with
  | nil =>
      exact ⟨fun _ => .inl, fun _ _ => id⟩
  | cons connection rest ih =>
      rcases ih (forwardOne connection exchange).1
        (outputs ++ (forwardOne connection exchange).2) with ⟨written, kept⟩
      refine ⟨fun output inside => ?_,
        fun frame packet waits => waits_of_forwardOne (kept frame packet waits)⟩
      rcases written output inside with before | ⟨other, known, frame, packet, serving, waits, same⟩
      · rcases List.mem_append.mp before with old | new
        · exact .inl old
        · rcases mem_forwardOne new with ⟨frame, packet, serving, waits, same⟩
          exact .inr ⟨connection, List.mem_cons_self, frame, packet, serving, waits, same⟩
      · exact .inr ⟨other, List.mem_cons_of_mem _ known, frame, packet, serving,
          waits_of_forwardOne waits, same⟩

theorem mem_forward {output : Output} (inside : output ∈ hub.forward.2) :
    ∃ connection ∈ hub.connections, ∃ frame packet, connection.stage = .serving frame ∧
      hub.exchange.Waits frame packet ∧
        output = .write connection.number (.deliver packet) := by
  rcases (forward_connections_waits hub.connections hub.exchange []).1 output inside with
    none | some
  · cases none
  · exact some

theorem waits_of_forward {frame : FrameId} {packet : Packet}
    (waits : hub.forward.1.exchange.Waits frame packet) : hub.exchange.Waits frame packet :=
  (forward_connections_waits hub.connections hub.exchange []).2 frame packet waits

/-! ## Commands -/

/-- The frame that is taken out because the hub shuts down. -/
def dismissed? (hub : Hub) (answer : Answer) : Option FrameId :=
  match answer.stage with
  | .serving frame => if hub.stopping then some frame else none
  | _ => none

theorem dismissed?_of_running (running : hub.stopping = false) (answer : Answer) :
    hub.dismissed? answer = none := by
  unfold dismissed?
  split
  · rw [running]
    rfl
  · rfl

/-- The commands that an act gives the switchboard. -/
def commandsFor (hub : Hub) : Act → List (Instant × Command)
  | .hear number now incoming =>
    match hub.connection? number with
    | none => []
    | some connection =>
      let asked := Connection.command? hub.maxMessageSize connection.stage incoming
      let dismissed := hub.dismissed? (hub.answerTo connection now incoming)
      (asked.toList ++ dismissed.toList.map Command.unregister).map (now, ·)
  | .leave number =>
    match hub.connection? number with
    | none => []
    | some connection =>
      (servedFrame? connection).toList.map fun frame => (.epoch, .unregister frame)
  | _ => []

theorem exchange_settled (hub : Hub) (now : Instant) (answer : Answer) :
    (hub.settled answer).exchange =
      (hub.dismissed? answer).elim answer.exchange fun frame =>
        answer.exchange.ask now (.unregister frame) := by
  unfold settled dismissed?
  cases answer.stage with
  | ended | greeting =>
      rfl
  | serving frame =>
      simp only
      split
      · exact answer.exchange.unregister_eq_ask now frame
      · rfl

theorem exchange_farewell (hub : Hub) (connection : Connection) :
    (hub.settled (hub.farewell connection)).exchange =
      (servedFrame? connection).elim hub.exchange fun frame =>
        hub.exchange.ask .epoch (.unregister frame) := by
  unfold farewell Connection.endOfStream servedFrame?
  cases connection.stage with
  | ended | greeting =>
      rfl
  | serving frame =>
      exact hub.exchange.unregister_eq_ask .epoch frame

theorem exchange_setConnection (hub : Hub) (changed : Connection) :
    (hub.setConnection changed).exchange = hub.exchange :=
  rfl

/-- Every act but writing packets changes the exchange by its commands only. -/
theorem exchange_perform (hub : Hub) {act : Act} (asks : act ≠ .forward) :
    (hub.perform act).1.exchange = hub.exchange.askAll (hub.commandsFor act) := by
  cases act with
  | forward =>
      exact absurd rfl asks
  | accept =>
      simp only [perform, accept]
      split <;> rfl
  | pass | stop =>
      rfl
  | read number bytes =>
      simp only [perform]
      split <;> rfl
  | hear number now incoming =>
      simp only [perform, commandsFor]
      cases hub.connection? number with
      | none =>
          rfl
      | some connection =>
          simp only [carryOut_eq, exchange_setConnection, exchange_settled hub now]
          have answered : (hub.answerTo connection now incoming).exchange = _ :=
            Connection.exchange_handle hub.exchange now hub.maxMessageSize connection.stage
              incoming
          rw [answered]
          cases Connection.command? hub.maxMessageSize connection.stage incoming <;>
            cases hub.dismissed? (hub.answerTo connection now incoming) <;> rfl
  | leave number =>
      simp only [perform, commandsFor]
      cases hub.connection? number with
      | none =>
          rfl
      | some connection =>
          simp only [carryOut_eq, exchange_setConnection, exchange_farewell]
          cases servedFrame? connection <;> rfl

/-! ## The life of a connection -/

/-- What an act means for the connection of a number: where it stood, where it stands, and what is
written and closed. -/
inductive Fate (hub : Hub) (act : Act) (number : Nat) : Prop
  | spared
      (stage : (hub.perform act).1.stage? number = hub.stage? number)
      (next : number < (hub.perform act).1.nextNumber ↔ number < hub.nextNumber)
      (heard : ∀ now incoming, act ≠ .hear number now incoming)
      (packets : ∀ output ∈ (hub.perform act).2, output.number = number →
        ∃ frame packet, hub.stage? number = some (.serving frame) ∧
          hub.exchange.Waits frame packet ∧ output = .write number (.deliver packet))
  | admitted (act_eq : act = .accept) (next : number = hub.nextNumber) (deadline : Nat)
      (absent : hub.stage? number = none)
      (stage : (hub.perform act).1.stage? number = some (.greeting deadline))
      (taken : number < (hub.perform act).1.nextNumber)
      (silent : (hub.perform act).2 = [])
  | heard (now : Instant) (incoming : Incoming) (act_eq : act = .hear number now incoming)
      (connection : Connection) (known : hub.connection? number = some connection)
      (stage : (hub.perform act).1.stage? number =
        let settled := hub.settled (hub.answerTo connection now incoming)
        if settled.stage = .ended then none else some settled.stage)
      (written : (hub.perform act).2 =
        let answer := hub.answerTo connection now incoming
        answer.messages.map (Output.write number) ++
          if (hub.settled answer).stage = .ended then [.close number] else [])
  | left (act_eq : act = .leave number) (connection : Connection)
      (known : hub.connection? number = some connection)
      (stage : (hub.perform act).1.stage? number = none)
      (written : (hub.perform act).2 = [.close number])

theorem stage?_carryOut
    {number : Nat} {connection : Connection} (known : hub.connection? number = some connection)
    (answer : Answer) (other : Nat) :
    (hub.carryOut connection answer).1.stage? other =
      if other = number then
        if (hub.settled answer).stage = .ended then none else some (hub.settled answer).stage
      else hub.stage? other := by
  rw [stage?, connection?_carryOut answer known]
  split
  · split <;> rfl
  · rfl

theorem number_of_mem_carryOut
    {number : Nat} {connection : Connection} (known : hub.connection? number = some connection)
    {answer : Answer} {output : Output} (inside : output ∈ (hub.carryOut connection answer).2) :
    output.number = number := by
  rw [carryOut_eq, number_of_connection? known] at inside
  rcases List.mem_append.mp inside with written | closed
  · rcases List.mem_map.mp written with ⟨message, _, rfl⟩
    rfl
  · split at closed
    · rw [List.mem_singleton.mp closed]
      rfl
    · cases closed

/-- Whatever is heard, its answer is written back, and the connection closed if it has ended. -/
theorem outputs_hear
    {number : Nat} {connection : Connection} (known : hub.connection? number = some connection)
    (now : Instant) (incoming : Incoming) :
    (hub.perform (.hear number now incoming)).2 =
      (hub.answerTo connection now incoming).messages.map (Output.write number) ++
        if (hub.settled (hub.answerTo connection now incoming)).stage = .ended
        then [.close number] else [] := by
  simp only [perform, known, carryOut_eq, number_of_connection? known]

theorem stage?_accept
    (consistent : hub.Consistent max) (running : hub.stopping = false) (number : Nat) :
    hub.accept.2.stage? number =
      if number = hub.nextNumber then some (.greeting (hub.clock + handshakeTimeout))
      else hub.stage? number := by
  unfold Hub.accept stage? Hub.connection?
  rw [if_neg (Bool.eq_false_iff.mp running)]
  simp only [List.find?_append, List.find?_singleton]
  by_cases next : number = hub.nextNumber
  · subst next
    have absent : hub.connections.find? (fun other => other.number == hub.nextNumber) = none := by
      rw [List.find?_eq_none]
      intro other inside
      have below := consistent.numbered other inside
      simpa using Nat.ne_of_lt below
    simp [absent]
  · have different : hub.nextNumber ≠ number := Ne.symm next
    simp [next, different]

/-- Only a connection that comes takes a number. -/
theorem nextNumber_perform (hub : Hub) {act : Act} (other : act ≠ .accept) :
    (hub.perform act).1.nextNumber = hub.nextNumber := by
  cases act with
  | accept =>
      exact absurd rfl other
  | forward | pass | stop =>
      rfl
  | read =>
      simp only [perform]
      split <;> rfl
  | hear | leave =>
      simp only [perform]
      split
      · rfl
      · rw [carryOut_eq]
        rfl

theorem messages_farewell (hub : Hub) (connection : Connection) :
    (hub.farewell connection).messages = [] := by
  unfold farewell Connection.endOfStream
  cases connection.stage <;> rfl

/-- Nothing becomes of a connection that an act does not concern. -/
theorem Fate.of_quiet {act : Act} {number : Nat}
    (stage : (hub.perform act).1.stage? number = hub.stage? number)
    (next : number < (hub.perform act).1.nextNumber ↔ number < hub.nextNumber)
    (heard : ∀ now incoming, act ≠ .hear number now incoming)
    (quiet : ∀ output ∈ (hub.perform act).2, output.number ≠ number) : Fate hub act number :=
  .spared stage next heard fun output inside same => absurd same (quiet output inside)

/-- Nothing becomes of a connection when an answer is carried out on another one. -/
theorem Fate.of_other
    {act : Act} {number other : Nat} {connection : Connection} {answer : Answer}
    (known : hub.connection? other = some connection) (different : number ≠ other)
    (performed : hub.perform act = hub.carryOut connection answer)
    (heard : ∀ now incoming, act ≠ .hear number now incoming) : Fate hub act number := by
  have stages := stage?_carryOut known answer number
  rw [if_neg different] at stages
  refine .of_quiet ?_ ?_ heard ?_ <;> rw [performed]
  · exact stages
  · rw [carryOut_eq]
    exact .rfl
  · intro output inside
    rw [number_of_mem_carryOut known inside]
    exact Ne.symm different

theorem fate_accept (consistent : hub.Consistent max) (number : Nat) : Fate hub .accept number := by
  cases stopping : hub.stopping with
  | true =>
      have same : hub.perform .accept = (hub, []) := by
        simp [perform, accept, stopping]
      refine .of_quiet ?_ ?_ (by simp) ?_ <;> simp [same]
  | false =>
      have stages := stage?_accept consistent stopping number
      have taken : (hub.perform .accept).1.nextNumber = hub.nextNumber + 1 := by
        simp [perform, accept, stopping]
      by_cases next : number = hub.nextNumber
      · rw [if_pos next] at stages
        refine .admitted rfl next _ ?_ stages ?_ rfl
        · unfold stage? Hub.connection?
          rw [Option.map_eq_none_iff, List.find?_eq_none]
          intro other inside
          have below := consistent.numbered other inside
          simpa [next] using Nat.ne_of_lt below
        · rw [taken]
          omega
      · rw [if_neg next] at stages
        refine .of_quiet stages ?_ (by simp) (by simp [perform])
        rw [taken]
        omega

/-- Bytes that are read change no stage. -/
theorem stage?_read
    (consistent : hub.Consistent max) (number other : Nat) (bytes : List UInt8) :
    (hub.perform (.read other bytes)).1.stage? number = hub.stage? number := by
  cases known : hub.connection? other with
  | none =>
      simp [perform, known]
  | some connection =>
      obtain rfl := number_of_connection? known
      let changed : Connection := { connection with reader := (connection.reader.feed bytes).2 }
      have alive : changed.stage ≠ .ended :=
        consistent.alive connection (mem_of_connection? known)
      have connections := hub.connection?_setConnection changed known number
      simp only [perform, known, stage?]
      refine (congrArg (Option.map (·.stage)) connections).trans ?_
      rw [if_neg alive]
      split
      · rename_i here
        rw [here]
        exact congrArg (Option.map (·.stage)) known.symm
      · rfl

/-- What becomes of a connection when its hub performs an act. -/
theorem fate
    (consistent : hub.Consistent max) {act : Act} (allowed : hub.Allows act) (number : Nat) :
    Fate hub act number := by
  cases act with
  | accept =>
      exact fate_accept consistent number
  | read other bytes =>
      refine .of_quiet (stage?_read consistent number other bytes)
        (by rw [hub.nextNumber_perform (by simp)]) (by simp) ?_
      simp only [perform]
      split <;> simp
  | hear other now incoming =>
      rcases allowed with ⟨connection, known⟩
      have performed : hub.perform (.hear other now incoming) =
          hub.carryOut connection (hub.answerTo connection now incoming) := by
        simp only [perform, known]
      by_cases here : number = other
      · subst here
        refine .heard now incoming rfl connection known ?_ (outputs_hear known now incoming)
        rw [performed, stage?_carryOut known, if_pos rfl]
      · refine .of_other known here performed ?_
        rintro _ _ ⟨⟩
        exact here rfl
  | forward =>
      refine .spared rfl .rfl (by simp) ?_
      rintro output inside rfl
      rcases mem_forward inside with ⟨connection, known, frame, packet, serving, waits, rfl⟩
      have found := connection?_of_mem consistent.apart known
      refine ⟨frame, packet, ?_, waits, rfl⟩
      rw [stage?, Output.number, found, Option.map_some, serving]
  | leave other =>
      cases known : hub.connection? other with
      | none =>
          refine .of_quiet ?_ ?_ (by simp) ?_ <;> simp [perform, known]
      | some connection =>
          have performed : hub.perform (.leave other) =
              hub.carryOut connection (hub.farewell connection) := by
            simp only [perform, known]
          by_cases here : number = other
          · subst here
            refine .left rfl connection known ?_ ?_ <;> rw [performed]
            · rw [stage?_carryOut known, if_pos rfl, if_pos (stage_farewell hub connection)]
            · simp [carryOut_eq, stage_farewell, messages_farewell, number_of_connection? known]
          · exact .of_other known here performed (by simp)
  | pass | stop =>
      exact .of_quiet rfl .rfl (by simp) (by simp [perform])

/-- The connection that an act is about. -/
def Act.number? : Act → Option Nat
  | .read number _ => some number
  | .hear number _ _ => some number
  | .leave number => some number
  | _ => none

/-- Nothing can be done on a connection that is not there. -/
theorem perform_of_absent
    {act : Act} {number : Nat} (own : act.number? = some number)
    (absent : hub.connection? number = none) : hub.perform act = (hub, []) := by
  cases act with
  | read | hear | leave =>
      cases own
      simp only [perform, absent]
  | accept | forward | pass | stop =>
      cases own

/-- Before a connection is accepted, nothing that is done on it changes what the hub serves. -/
theorem exchange_of_greeting
    {act : Act} {number : Nat} (own : act.number? = some number) {connection : Connection}
    (known : hub.connection? number = some connection) {deadline : Nat}
    (greeting : connection.stage = .greeting deadline) :
    (hub.perform act).1.exchange = hub.exchange ∨
      ∃ frame, .write number (.accept frame) ∈ (hub.perform act).2 := by
  cases act with
  | accept | forward | pass | stop =>
      cases own
  | read =>
      cases own
      left
      simp only [perform, known]
      rfl
  | leave =>
      cases own
      left
      have gone : hub.farewell connection = Connection.hangUp hub.exchange := by
        simp only [farewell, Connection.endOfStream, greeting]
      simp only [perform, known, carryOut_eq, gone]
      rfl
  | hear _ now incoming =>
      cases own
      have answered : hub.answerTo connection now incoming =
          Connection.handle hub.exchange hub.maxMessageSize now (.greeting deadline) incoming := by
        simp only [answerTo, greeting]
      simp only [perform, known, carryOut_eq, answered, number_of_connection? known]
      rcases Connection.handle_greeting_cases hub.exchange now hub.maxMessageSize deadline incoming
        with ⟨hungUp, _⟩ | ⟨_, _, _, _, ⟨reply, _, refused, _⟩ |
          ⟨_, ⟨_, error, refused⟩ | ⟨frame, _, accepted⟩⟩⟩
      · left
        rw [hungUp]
        rfl
      · left
        rw [refused]
        rfl
      · left
        rw [refused, hub.exchange.eq_of_refused error]
        rfl
      · right
        rw [accepted]
        exact ⟨frame, List.mem_append_left _ (List.mem_singleton_self _)⟩

/-! ## Where a connection stands -/

/-- What a connection has been told, as it stands: nothing before the first line is handled, then
one identity, until it is closed. -/
inductive Standing (hub : Hub) (number : Nat) (outputs : List Output) : Prop
  | unborn
      (next : ¬ number < hub.nextNumber)
      (stage : hub.stage? number = none)
      (quiet : ∀ output ∈ outputs, output.number ≠ number)
  | greeting (deadline : Nat)
      (next : number < hub.nextNumber)
      (stage : hub.stage? number = some (.greeting deadline))
      (quiet : ∀ output ∈ outputs, output.number ≠ number)
  | serving (frame : FrameId)
      (next : number < hub.nextNumber)
      (stage : hub.stage? number = some (.serving frame))
      (identity : Output.identities number outputs = [frame])
      (goesOn : .close number ∉ outputs)
  | gone
      (next : number < hub.nextNumber)
      (stage : hub.stage? number = none)
      (identity : (Output.identities number outputs).length ≤ 1)
      (closed : .close number ∈ outputs)

/-- The answer to what a frame says tells it no other identity and hands over no packet. -/
theorem plain_serve
    (exchange : Exchange) (frame : FrameId) (now : Instant) (request : Request) :
    ∀ message ∈ (Connection.serve exchange frame now request).messages,
      message.identity? = none ∧ message.isDelivery = false := by
  intro message inside
  cases request with
  | connect | ping =>
      obtain rfl := List.mem_singleton.mp inside
      exact ⟨rfl, rfl⟩
  | claimSession request session =>
      obtain rfl := List.mem_singleton.mp inside
      simp only
      split <;> exact ⟨rfl, rfl⟩
  | joinSession request session displayName =>
      obtain rfl := List.mem_singleton.mp inside
      simp only
      split <;> exact ⟨rfl, rfl⟩
  | describeSession request session =>
      obtain rfl := List.mem_singleton.mp inside
      exact ⟨rfl, rfl⟩
  | send | disconnect =>
      cases inside

theorem plain_handle_serving
    (exchange : Exchange) (now : Instant) (max : Nat) (frame : FrameId) (incoming : Incoming) :
    ∀ message ∈ (Connection.handle exchange max now (.serving frame) incoming).messages,
      message.identity? = none ∧ message.isDelivery = false := by
  intro message inside
  cases incoming with
  | tooLong =>
      obtain rfl := List.mem_singleton.mp inside
      exact ⟨rfl, rfl⟩
  | notText =>
      cases inside
  | line text =>
      simp only [Connection.handle] at inside
      split at inside
      · exact plain_serve _ _ _ _ message inside
      · obtain rfl := List.mem_singleton.mp inside
        exact ⟨rfl, rfl⟩
      · obtain rfl := List.mem_singleton.mp inside
        exact ⟨rfl, rfl⟩

/-- No answer hands over a packet. -/
theorem isDelivery_handle
    (exchange : Exchange) (now : Instant) (max : Nat) (stage : Stage) (incoming : Incoming) :
    ∀ message ∈ (Connection.handle exchange max now stage incoming).messages,
      message.isDelivery = false := by
  intro message inside
  cases stage with
  | ended =>
      cases inside
  | serving frame =>
      exact (plain_handle_serving exchange now max frame incoming message inside).2
  | greeting deadline =>
      rcases Connection.handle_greeting_cases exchange now max deadline incoming with
        ⟨hungUp, _⟩ | ⟨_, _, _, _, ⟨reply, _, refused, kind⟩ | ⟨_, ⟨_, _, refused⟩ |
          ⟨frame, _, accepted⟩⟩⟩
      · rw [hungUp] at inside
        cases inside
      · rw [refused] at inside
        obtain rfl := List.mem_singleton.mp inside
        rcases kind with ⟨_, rfl⟩ | ⟨_, rfl⟩ <;> rfl
      · rw [refused] at inside
        obtain rfl := List.mem_singleton.mp inside
        rfl
      · rw [accepted] at inside
        obtain rfl := List.mem_singleton.mp inside
        rfl

/-- Packets are written by the act that writes all that wait. -/
theorem eq_forward_of_delivered {act : Act} {number : Nat} {packet : Packet}
    (inside : .write number (.deliver packet) ∈ (hub.perform act).2) : act = .forward := by
  have undelivered : ∀ (connection : Connection) (answer : Answer),
      (∀ message ∈ answer.messages, message.isDelivery = false) →
        Output.write number (.deliver packet) ∉ (hub.carryOut connection answer).2 := by
    intro connection answer plain written
    rw [carryOut_eq] at written
    rcases List.mem_append.mp written with said | closed
    · rcases List.mem_map.mp said with ⟨message, own, same⟩
      cases same
      exact Bool.noConfusion (plain _ own)
    · split at closed
      · cases List.mem_singleton.mp closed
      · cases closed
  cases act with
  | forward =>
      rfl
  | accept | pass | stop =>
      cases inside
  | read =>
      simp only [perform] at inside
      split at inside <;> cases inside
  | hear =>
      simp only [perform] at inside
      split at inside
      · cases inside
      · exact absurd inside (undelivered _ _ (isDelivery_handle _ _ _ _ _))
  | leave =>
      simp only [perform] at inside
      split at inside
      · cases inside
      · refine absurd inside (undelivered _ _ ?_)
        rw [messages_farewell]
        simp

theorem identities_eq_nil {number : Nat} {outputs : List Output}
    (plain : ∀ output ∈ outputs, output.number = number →
      ∀ version frame, output ≠ .write number (.connected version frame)) :
    Output.identities number outputs = [] := by
  rw [List.eq_nil_iff_forall_not_mem]
  intro frame inside
  rcases Output.mem_identities.mp inside with ⟨version, written⟩
  exact plain _ written rfl version frame rfl

theorem identities_written
    (number : Nat) (messages : List HubMessage) (closes : Prop) [Decidable closes] :
    Output.identities number (messages.map (.write number) ++
      if closes then [.close number] else []) = messages.filterMap HubMessage.identity? := by
  rw [Output.identities, Output.messagesTo_append, Output.messagesTo_write]
  split <;> simp [Output.messagesTo]

theorem close_mem_written
    (number : Nat) (messages : List HubMessage) (closes : Prop) [Decidable closes] :
    Output.close number ∈ messages.map (Output.write number) ++
      (if closes then [.close number] else []) ↔ closes := by
  by_cases closed : closes <;> simp [closed]

/-- What the answer to a first line tells the frame: nothing if the connection ends, and otherwise
the identity that it serves. -/
theorem greeting_told
    (hub : Hub) {connection : Connection} {deadline : Nat}
    (greeting : connection.stage = .greeting deadline) (now : Instant) (incoming : Incoming) :
    let answer := hub.answerTo connection now incoming
    (answer.messages.filterMap HubMessage.identity?).length ≤ 1 ∧
      ((hub.settled answer).stage = .ended ∨
        ∃ frame, (hub.settled answer).stage = .serving frame ∧
          answer.messages.filterMap HubMessage.identity? = [frame]) := by
  intro answer
  have answered : answer =
      Connection.handle hub.exchange hub.maxMessageSize now (.greeting deadline) incoming := by
    simp only [answer, answerTo, greeting]
  rcases Connection.handle_greeting_cases hub.exchange now hub.maxMessageSize deadline incoming
    with ⟨hungUp, _⟩ | ⟨_, _, _, _, ⟨reply, _, refused, kind⟩ |
      ⟨_, ⟨_, _, refused⟩ | ⟨frame, _, accepted⟩⟩⟩
  · rw [answered, hungUp]
    exact ⟨Nat.zero_le _, .inl rfl⟩
  · rw [answered, refused]
    rcases kind with ⟨_, rfl⟩ | ⟨_, rfl⟩ <;> exact ⟨Nat.zero_le _, .inl rfl⟩
  · rw [answered, refused]
    exact ⟨Nat.zero_le _, .inl rfl⟩
  · rw [answered, accepted]
    refine ⟨Nat.le_refl 1, ?_⟩
    rcases stage_settled (Connection.goOn hub.exchange.register.2 frame [.accept frame]) hub with
      same | ended
    · exact .inr ⟨frame, same, rfl⟩
    · exact .inl ended

/-- The answer to what a frame says tells it nothing new. -/
theorem serving_told
    (hub : Hub) {connection : Connection} {frame : FrameId}
    (serving : connection.stage = .serving frame) (now : Instant) (incoming : Incoming) :
    let answer := hub.answerTo connection now incoming
    answer.messages.filterMap HubMessage.identity? = [] ∧
      ((hub.settled answer).stage = .ended ∨ (hub.settled answer).stage = .serving frame) := by
  intro answer
  have answered : answer =
      Connection.handle hub.exchange hub.maxMessageSize now (.serving frame) incoming := by
    simp only [answer, answerTo, serving]
  have stage := Connection.stage_handle_serving hub.exchange now hub.maxMessageSize frame incoming
  rw [← answered] at stage
  constructor
  · rw [answered, List.filterMap_eq_nil_iff]
    exact fun message inside => (plain_handle_serving _ _ _ _ _ message inside).1
  · rcases stage_settled answer hub with same | ended
    · rw [same, stage]
      split
      · exact .inl rfl
      · exact .inr rfl
    · exact .inl ended

namespace Standing

section Step

variable {number : Nat} {outputs : List Output} {act : Act}

/-- An act that spares a connection leaves it standing as it has been told. -/
theorem spare
    (standing : hub.Standing number outputs)
    (stage : (hub.perform act).1.stage? number = hub.stage? number)
    (next : number < (hub.perform act).1.nextNumber ↔ number < hub.nextNumber)
    (packets : ∀ output ∈ (hub.perform act).2, output.number = number →
      ∃ frame packet, hub.stage? number = some (.serving frame) ∧
        hub.exchange.Waits frame packet ∧ output = .write number (.deliver packet)) :
    (hub.perform act).1.Standing number (outputs ++ (hub.perform act).2) := by
  have told : Output.identities number (outputs ++ (hub.perform act).2) =
      Output.identities number outputs := by
    have untold : Output.identities number (hub.perform act).2 = [] := by
      apply identities_eq_nil
      rintro output inside here version frame rfl
      rcases packets _ inside here with ⟨_, _, _, _, same⟩
      cases same
    rw [Output.identities_append, untold, List.append_nil]
  have quiet : (∀ frame, hub.stage? number ≠ some (.serving frame)) →
      ∀ output ∈ (hub.perform act).2, output.number ≠ number := by
    intro unserved output inside here
    rcases packets output inside here with ⟨frame, _, serving, _, _⟩
    exact unserved frame serving
  cases standing with
  | unborn unborn absent before =>
      refine .unborn ((not_congr next).mpr unborn) (stage.trans absent) ?_
      rw [List.forall_mem_append]
      exact ⟨before, quiet (by simp [absent])⟩
  | greeting deadline born greeting before =>
      refine .greeting deadline (next.mpr born) (stage.trans greeting) ?_
      rw [List.forall_mem_append]
      exact ⟨before, quiet (by simp [greeting])⟩
  | serving frame born serving identity goesOn =>
      refine .serving frame (next.mpr born) (stage.trans serving) (told.trans identity) ?_
      rw [List.mem_append, not_or]
      refine ⟨goesOn, fun inside => ?_⟩
      rcases packets _ inside rfl with ⟨_, _, _, _, same⟩
      cases same
  | gone born absent identity closed =>
      exact .gone (next.mpr born) (stage.trans absent) (told.symm ▸ identity)
        (List.mem_append_left _ closed)

/-- After a line a connection has ended and is closed, or it serves the one frame that it has been
told of. -/
theorem of_heard
    {after : Hub} {settled : Stage} {new : List Output} (born : number < after.nextNumber)
    (stage : after.stage? number = if settled = .ended then none else some settled)
    (goesOn : .close number ∉ outputs) (closes : .close number ∈ new ↔ settled = .ended)
    (few : (Output.identities number (outputs ++ new)).length ≤ 1)
    (told : settled = .ended ∨
      ∃ frame, settled = .serving frame ∧ Output.identities number (outputs ++ new) = [frame]) :
    after.Standing number (outputs ++ new) := by
  rcases told with ended | ⟨frame, rfl, identity⟩
  · exact .gone born (stage.trans (if_pos ended)) few
      (List.mem_append_right _ (closes.mpr ended))
  · refine .serving frame born (stage.trans (if_neg nofun)) identity ?_
    rw [List.mem_append, not_or]
    exact ⟨goesOn, fun inside => absurd (closes.mp inside) nofun⟩

theorem hear
    (standing : hub.Standing number outputs) {now : Instant} {incoming : Incoming}
    {connection : Connection} (known : hub.connection? number = some connection)
    (stage : (hub.perform (.hear number now incoming)).1.stage? number =
      let settled := hub.settled (hub.answerTo connection now incoming)
      if settled.stage = .ended then none else some settled.stage) :
    (hub.perform (.hear number now incoming)).1.Standing number
      (outputs ++ (hub.perform (.hear number now incoming)).2) := by
  have stands := stage?_of_connection? known
  have same := hub.nextNumber_perform (show Act.hear number now incoming ≠ .accept by simp)
  have closes : .close number ∈ (hub.perform (.hear number now incoming)).2 ↔
      (hub.settled (hub.answerTo connection now incoming)).stage = .ended := by
    rw [outputs_hear known]
    exact close_mem_written number _ _
  have told : Output.identities number (outputs ++ (hub.perform (.hear number now incoming)).2) =
      Output.identities number outputs ++
        (hub.answerTo connection now incoming).messages.filterMap HubMessage.identity? := by
    rw [Output.identities_append, outputs_hear known, identities_written]
  cases standing with
  | unborn unborn absent | gone born absent =>
      rw [absent] at stands
      cases stands
  | greeting deadline born greeting before =>
      rw [greeting, Option.some.injEq] at stands
      have silent : Output.identities number outputs = [] := by
        rw [Output.identities, Output.messagesTo_eq_nil before]
        rfl
      rcases hub.greeting_told stands.symm now incoming with ⟨few, becomes⟩
      rw [silent, List.nil_append] at told
      rw [← told] at few becomes
      exact .of_heard (same ▸ born) stage (fun inside => before _ inside rfl) closes few becomes
  | serving frame born serving identity goesOn =>
      rw [serving, Option.some.injEq] at stands
      rcases hub.serving_told stands.symm now incoming with ⟨nothing, becomes⟩
      rw [identity, nothing, List.append_nil] at told
      refine .of_heard (same ▸ born) stage goesOn closes (by rw [told]; exact Nat.le_refl 1) ?_
      exact becomes.imp id fun serves => ⟨frame, serves, told⟩

theorem leave
    (standing : hub.Standing number outputs) {connection : Connection}
    (known : hub.connection? number = some connection)
    (stage : (hub.perform (.leave number)).1.stage? number = none)
    (written : (hub.perform (.leave number)).2 = [.close number]) :
    (hub.perform (.leave number)).1.Standing number
      (outputs ++ (hub.perform (.leave number)).2) := by
  have stands := stage?_of_connection? known
  have same := hub.nextNumber_perform (show Act.leave number ≠ .accept by simp)
  have closed : Output.close number ∈ outputs ++ (hub.perform (.leave number)).2 := by
    rw [written]
    exact List.mem_append_right _ (List.mem_singleton_self _)
  have told : Output.identities number (outputs ++ (hub.perform (.leave number)).2) =
      Output.identities number outputs := by
    rw [Output.identities_append, written]
    exact List.append_nil _
  cases standing with
  | unborn unborn absent | gone born absent =>
      rw [absent] at stands
      cases stands
  | greeting deadline born greeting before =>
      refine .gone (same ▸ born) stage ?_ closed
      rw [told, Output.identities, Output.messagesTo_eq_nil before]
      exact Nat.zero_le 1
  | serving frame born serving identity goesOn =>
      refine .gone (same ▸ born) stage ?_ closed
      rw [told, identity]
      exact Nat.le_refl 1

/-- Whatever a hub does, its connections stand as their frames have been told. -/
theorem perform
    (standing : hub.Standing number outputs) (consistent : hub.Consistent max)
    (allowed : hub.Allows act) :
    (hub.perform act).1.Standing number (outputs ++ (hub.perform act).2) := by
  cases fate consistent allowed number with
  | spared stage next _ packets =>
      exact standing.spare stage next packets
  | admitted act_eq next deadline absent stage taken silent =>
      cases standing with
      | unborn unborn absent before =>
          refine .greeting deadline taken stage ?_
          rw [silent, List.append_nil]
          exact before
      | greeting deadline born | serving frame born | gone born =>
          exact absurd (next ▸ born) (Nat.lt_irrefl _)
  | heard now incoming act_eq connection known stage =>
      subst act_eq
      exact standing.hear known stage
  | left act_eq connection known stage written =>
      subst act_eq
      exact standing.leave known stage written

end Step

end Standing

/-- Every connection of a hub stands as it has been told. -/
theorem Reached.standing
    {limits : Limits} {past : List Moment} (reached : Reached limits max past hub)
    (number : Nat) : hub.Standing number (told past) := by
  induction reached with
  | start =>
      exact .unborn (Nat.not_lt_zero number) rfl (by simp [told])
  | act reached act allowed ih =>
      rw [told_concat]
      exact ih.perform reached.consistent allowed

namespace Reached

variable {limits : Limits} {past : List Moment} {number : Nat}

/-- A connection serves the one frame that it has told its identity. -/
theorem serving
    (reached : Reached limits max past hub) {frame : FrameId}
    (stage : hub.stage? number = some (.serving frame)) :
    Output.identities number (told past) = [frame] ∧ .close number ∉ told past := by
  cases reached.standing number with
  | serving other next serving identity goesOn =>
      rw [stage] at serving
      cases serving
      exact ⟨identity, goesOn⟩
  | unborn next absent | greeting deadline next absent | gone next absent =>
      rw [stage] at absent
      cases absent

/-- A hub that serves a frame does not shut down. -/
theorem running_of_serving
    (reached : Reached limits max past hub) {connection : Connection}
    (known : hub.connection? number = some connection) {frame : FrameId}
    (serving : connection.stage = .serving frame) : hub.stopping = false :=
  reached.consistent.running_of_serving known serving

/-- A connection whose first line has not been handled has been told nothing. -/
theorem greeting
    (reached : Reached limits max past hub) {deadline : Nat}
    (stage : hub.stage? number = some (.greeting deadline)) :
    ∀ output ∈ told past, output.number ≠ number := by
  cases reached.standing number with
  | greeting other next greeting quiet =>
      exact quiet
  | unborn next absent | serving frame next absent | gone next absent =>
      rw [stage] at absent
      cases absent

/-- A connection that is there and has been told no identity has still to send its first line. -/
theorem greeting_of_stranger
    (reached : Reached limits max past hub) {connection : Connection}
    (known : hub.connection? number = some connection)
    (stranger : Output.identities number (told past) = []) :
    ∃ deadline, connection.stage = .greeting deadline := by
  have stands := stage?_of_connection? known
  cases stage : connection.stage with
  | ended =>
      exact absurd stage (reached.consistent.alive _ (mem_of_connection? known))
  | serving frame =>
      rw [stage] at stands
      rw [(reached.serving stands).1] at stranger
      cases stranger
  | greeting deadline =>
      exact ⟨deadline, rfl⟩

/-- What is done on a connection that has been told no identity leaves all that the hub serves as it
is, unless the connection is accepted. -/
theorem exchange_of_stranger
    (reached : Reached limits max past hub) {act : Act} (own : act.number? = some number)
    (stranger : Output.identities number (told past) = [])
    (untold : Output.identities number (hub.perform act).2 = []) :
    (hub.perform act).1.exchange = hub.exchange := by
  cases known : hub.connection? number with
  | none =>
      exact congrArg (·.1.exchange) (perform_of_absent own known)
  | some connection =>
      rcases reached.greeting_of_stranger known stranger with ⟨deadline, stage⟩
      rcases exchange_of_greeting own known stage with same | ⟨frame, accepted⟩
      · exact same
      · have told : frame ∈ Output.identities number (hub.perform act).2 :=
          Output.mem_identities.mpr ⟨_, accepted⟩
        rw [untold] at told
        cases told

end Reached

end Hub

end SessionBus
