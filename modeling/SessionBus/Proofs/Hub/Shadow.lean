import SessionBus.Hub.Busy
import SessionBus.Proofs.Hub.Alike

/-!
# What a step stands for

A step of a task is an act of a hub whose writes all succeed, but for the packets, which go out one
by one.  An answer that is cut off makes no other difference to the hub than one that is written to a
peer that leaves right after it.  So whatever fails, the hub goes on like one at which nothing fails:
that one hears the same lines, asks its switchboard the same, and writes the answers that are written
or cut off here.
-/

namespace SessionBus

open Hub (Act)

namespace Effect

/-- What is done if no write fails.  Packets are left aside. -/
def plain? : Effect → Option Output
  | .write number message | .cut number message =>
    if message.isDelivery then none else some (.write number message)
  | .close number => some (.close number)

def plain (effects : List Effect) : List Output :=
  effects.filterMap plain?

theorem plain_append (first second : List Effect) :
    plain (first ++ second) = plain first ++ plain second :=
  List.filterMap_append

/-- Answers and ends are done as they are. -/
theorem plain_effects {outputs : List Output}
    (answers : ∀ number message, .write number message ∈ outputs → message.isDelivery = false) :
    plain (outputs.map Output.effect) = outputs := by
  rw [plain, List.filterMap_map]
  refine (List.filterMap_congr fun output inside => ?_).trans List.filterMap_some
  cases output with
  | write number message =>
      exact if_neg (Bool.eq_false_iff.mp (answers number message inside))
  | close number =>
      rfl

/-- An answer that is cut off would be written if no write failed. -/
theorem plain_cut (number : Nat) {messages : List HubMessage}
    (answers : ∀ message ∈ messages, message.isDelivery = false) :
    plain (messages.map (.cut number)) = messages.map (.write number) := by
  rw [plain, List.filterMap_map, ← List.filterMap_eq_map]
  exact List.filterMap_congr fun message inside =>
    if_neg (Bool.eq_false_iff.mp (answers message inside))

end Effect

namespace Hub

variable {hub : Hub} {number : Nat} {connection : Connection}

/-- Nothing is left of what a connection was set to when it is forgotten. -/
theorem setConnection_ended
    (hub : Hub) (changed : Connection) {after : Connection} (same : after.number = changed.number)
    (ended : after.stage = .ended) :
    (hub.setConnection changed).setConnection after = hub.setConnection after := by
  have replaced : (hub.connections.map fun other =>
      if other.number = changed.number then changed else other).filter
        (fun other => other.number != after.number) =
          hub.connections.filter fun other => other.number != after.number := by
    rw [same, List.filter_map]
    have kept : ((fun other : Connection => other.number != changed.number) ∘ fun other =>
        if other.number = changed.number then changed else other) =
          fun other => other.number != changed.number := by
      funext other
      by_cases here : other.number = changed.number <;> simp [here]
    rw [kept]
    conv_rhs => rw [← List.map_id (hub.connections.filter _)]
    apply List.map_congr_left
    intro other inside
    have different := (List.mem_filter.mp inside).2
    exact if_neg (by simpa using different)
  have twice : (hub.connections.filter fun other => other.number != changed.number).filter
      (fun other => other.number != after.number) =
        hub.connections.filter fun other => other.number != after.number := by
    simp [same, List.filter_filter]
  unfold setConnection
  simp only [ended]
  cases changed.stage with
  | ended =>
      simp only [twice]
  | greeting | serving =>
      simp only [replaced]

theorem settle_hangUp (hub : Hub) (connection : Connection) (exchange : Exchange) :
    hub.settle connection (Connection.hangUp exchange) =
      (({ hub with exchange } : Hub).setConnection { connection with stage := .ended },
        [.close connection.number]) :=
  rfl

/-- What ends a connection that goes on serves a frame until then. -/
theorem endOfStream_eq_hangUp (hub : Hub) {answer : Answer}
    (stage : answer.stage = .ended ∨ ∃ frame, answer.stage = .serving frame) :
    ((hub.settled answer).stage = .ended ∧
        Connection.endOfStream answer.exchange answer.stage =
          Connection.hangUp (hub.settled answer).exchange) ∨
      ∃ frame, hub.settled answer = answer ∧ answer.stage = .serving frame := by
  rcases stage with ends | ⟨frame, serves⟩
  · left
    simp only [settled, ends, Connection.endOfStream, and_self]
  · cases stopping : hub.stopping with
    | false =>
        exact .inr ⟨frame, settled_of_running answer stopping, serves⟩
    | true =>
        left
        simp only [settled, serves, stopping, if_true, Connection.endOfStream,
          Connection.release, Connection.hangUp, and_self]

/-- An answer that ends its connection is an answer whose peer leaves right after it. -/
theorem settle_endOfStream
    (known : hub.connection? number = some connection) {answer : Answer}
    (stage : answer.stage = .ended ∨ ∃ frame, answer.stage = .serving frame) :
    let carried := hub.carryOut connection answer
    hub.settle connection (Connection.endOfStream answer.exchange answer.stage) =
        ((carried.1.perform (.leave number)).1, [.close number]) ∧
      carried.2 ++ (carried.1.perform (.leave number)).2 =
        answer.messages.map (.write number) ++ [.close number] := by
  intro carried
  obtain rfl := number_of_connection? known
  have found := connection?_carryOut answer known connection.number
  rw [if_pos rfl] at found
  have carries := carryOut_eq connection answer hub
  rcases hub.endOfStream_eq_hangUp stage with ⟨ended, left⟩ | ⟨frame, same, serves⟩
  · rw [if_pos ended] at found
    have gone : carried.1.perform (.leave connection.number) = (carried.1, []) := by
      simp only [perform, carried, found]
    rw [ended, if_pos rfl] at carries
    rw [gone, left, settle_hangUp, List.append_nil]
    exact ⟨congrArg (·.1, _) carries.symm, congrArg Prod.snd carries⟩
  · have goesOn : Stage.serving frame ≠ .ended := by simp
    rw [same, serves, if_neg goesOn] at found
    rw [same, serves, if_neg goesOn, List.append_nil] at carries
    let changed : Connection := { connection with stage := .serving frame }
    let unregistered : Hub := { hub with exchange := answer.exchange.unregister frame }
    have leaves : carried.1.perform (.leave changed.number) =
        carried.1.settle changed (Connection.endOfStream carried.1.exchange changed.stage) :=
      perform_leave found
    have left : carried.1.perform (.leave connection.number) =
        (unregistered.setConnection { connection with stage := .ended },
          [.close connection.number]) := by
      rw [leaves, show carried.1 = _ from congrArg Prod.fst carries]
      exact congrArg (·, _) (unregistered.setConnection_ended changed rfl rfl)
    rw [left, serves, show carried.2 = _ from congrArg Prod.snd carries]
    exact ⟨rfl, rfl⟩

end Hub

namespace BusyHub

variable {busy : BusyHub} {number max : Nat} {connection : Connection}

/-! ## Acts -/

/-- The acts that handling something stands for.  A handshake whose answer is cut off is one whose
peer leaves. -/
def handlingActs (busy : BusyHub) (connection : Connection) (now : Instant) (written : Bool) :
    List Act :=
  match (busy.tasks connection.number).waiting with
  | [] => []
  | none :: _ => [.leave connection.number]
  | some incoming :: _ =>
    .hear connection.number now incoming ::
      if written || (busy.answer connection now incoming).messages.isEmpty ||
          (Hub.servedFrame? connection).isSome then []
      else [.leave connection.number]

def actsOn (busy : BusyHub) (number : Nat) (acts : Connection → List Act) : List Act :=
  match busy.hub.connection? number with
  | none => []
  | some connection => acts connection

/-- The acts that a step stands for. -/
def actsFor (busy : BusyHub) : Step → List Act
  | .accept => [.accept]
  | .read number bytes =>
    busy.actsOn number fun _ => if busy.hasEnded number then [] else [.read number bytes]
  | .finish _ | .lose _ | .forward _ _ => []
  | .handle number now written =>
    busy.actsOn number fun connection => busy.handlingActs connection now written
  | .leave number =>
    busy.actsOn number fun connection =>
      if busy.mayLeave connection then [.leave number] else []
  | .pass milliseconds => [.pass milliseconds]
  | .stop =>
    if busy.hub.connections.any fun connection => (Hub.servedFrame? connection).isSome then []
    else [.stop]

/-! ## Steps -/

/-- A step does to the hub what its acts do, and what they write is written or cut off. -/
def Follows (busy : BusyHub) (acts : List Act) (done : BusyHub × List Effect) : Prop :=
  done.1.hub = (busy.hub.performAll acts).1 ∧ Effect.plain done.2 = (busy.hub.performAll acts).2

theorem follows_nothing
    {done : BusyHub × List Effect} (hub : done.1.hub = busy.hub)
    (silent : Effect.plain done.2 = []) : busy.Follows [] done :=
  ⟨hub, silent⟩

theorem follows_one
    {act : Act} {done : BusyHub × List Effect} (hub : done.1.hub = (busy.hub.perform act).1)
    (effects : Effect.plain done.2 = (busy.hub.perform act).2) : busy.Follows [act] done := by
  simp only [Follows, Hub.performAll, List.append_nil]
  exact ⟨hub, effects⟩

@[simp]
theorem hub_await
    (busy : BusyHub) (hub : Hub) (number : Nat) (waiting : List (Option Incoming)) :
    (busy.await hub number waiting).hub = hub :=
  rfl

/-- Nothing that an answer brings about is a packet that goes out. -/
theorem plain_carryOut
    (hub : Hub) (connection : Connection) {answer : Answer}
    (answers : ∀ message ∈ answer.messages, message.isDelivery = false) :
    Effect.plain ((hub.carryOut connection answer).2.map Output.effect) =
      (hub.carryOut connection answer).2 := by
  apply Effect.plain_effects
  intro number message inside
  rw [Hub.carryOut_eq] at inside
  rcases List.mem_append.mp inside with said | closed
  · rcases List.mem_map.mp said with ⟨own, known, same⟩
    cases same
    exact answers _ known
  · split at closed
    · cases List.mem_singleton.mp closed
    · cases closed

theorem reply_eq
    (busy : BusyHub) (connection : Connection) (answer : Answer)
    (rest : List (Option Incoming)) :
    busy.reply connection answer rest =
      let carried := busy.hub.carryOut connection answer
      (busy.await carried.1 connection.number rest, carried.2.map Output.effect) := by
  simp only [reply, Hub.carryOut]

/-- No answer hands over a packet. -/
theorem isDelivery_answer (busy : BusyHub) (connection : Connection) (now : Instant)
    (incoming : Incoming) :
    ∀ message ∈ (busy.answer connection now incoming).messages, message.isDelivery = false :=
  Hub.isDelivery_handle busy.hub.exchange now busy.hub.maxMessageSize connection.stage incoming

theorem perform_hear
    (known : busy.hub.connection? number = some connection) (now : Instant) (incoming : Incoming) :
    busy.hub.perform (.hear number now incoming) =
      busy.hub.carryOut connection (busy.answer connection now incoming) := by
  simp only [Hub.perform, known]
  rfl

theorem leave_eq (known : busy.hub.connection? number = some connection) :
    busy.leave connection =
      let left := busy.hub.perform (.leave number)
      ({ busy with hub := left.1 }, left.2.map Output.effect) := by
  obtain rfl := Hub.number_of_connection? known
  simp only [leave, Hub.perform_leave known]

theorem follows_leave (known : busy.hub.connection? number = some connection) :
    busy.Follows [.leave number] (busy.leave connection) := by
  have silent : ∀ message ∈ (busy.hub.farewell connection).messages,
      message.isDelivery = false := by
    simp [Hub.messages_farewell]
  have performed : busy.hub.perform (.leave number) =
      busy.hub.carryOut connection (busy.hub.farewell connection) := by
    simp only [Hub.perform, known]
  rw [leave_eq known]
  refine follows_one rfl ?_
  rw [performed]
  exact plain_carryOut busy.hub connection silent

/-- An answer that is written is an act. -/
theorem follows_reply
    (known : busy.hub.connection? number = some connection) (now : Instant) (incoming : Incoming)
    (rest : List (Option Incoming)) :
    busy.Follows [.hear number now incoming]
      (busy.reply connection (busy.answer connection now incoming) rest) := by
  have performed := perform_hear known now incoming
  rw [reply_eq]
  apply follows_one
  · rw [performed, hub_await]
  · rw [performed]
    exact plain_carryOut busy.hub connection (busy.isDelivery_answer connection now incoming)

/-- An answer of which nothing is said leaves the hub as one that is said. -/
theorem carryOut_silent (hub : Hub) (connection : Connection) (answer : Answer) :
    let silent := hub.carryOut connection { answer with messages := [] }
    silent.1 = (hub.carryOut connection answer).1 ∧
      (hub.carryOut connection answer).2 =
        answer.messages.map (.write connection.number) ++ silent.2 := by
  rcases answer with ⟨messages, stage, exchange, pauses⟩
  intro silent
  cases stage with
  | ended | greeting =>
      simp [silent, Hub.carryOut_eq, Hub.settled]
  | serving frame =>
      cases stopping : hub.stopping <;>
        simp [silent, Hub.carryOut_eq, Hub.settled, stopping, Connection.release,
          Connection.hangUp]

theorem breakOff_serving
    (busy : BusyHub) {frame : FrameId} (serving : connection.stage = .serving frame)
    (answer : Answer) :
    busy.breakOff connection answer =
      let silent := busy.hub.carryOut connection { answer with messages := [] }
      (busy.await silent.1 connection.number [none],
        answer.messages.map (Effect.cut connection.number) ++ silent.2.map Output.effect) := by
  simp only [breakOff, serving, Answer.unwritten, Hub.carryOut]

theorem breakOff_greeting
    (busy : BusyHub) {deadline : Nat} (greeting : connection.stage = .greeting deadline)
    (answer : Answer) :
    busy.breakOff connection answer =
      let settled := busy.hub.settle connection
        (Connection.endOfStream answer.exchange answer.stage)
      (busy.await settled.1 connection.number [none],
        answer.messages.map (Effect.cut connection.number) ++ settled.2.map Output.effect) := by
  simp only [breakOff, greeting, Answer.unwritten]

/-- An answer to a frame that is cut off is an act like one that is written. -/
theorem follows_breakOff_serving
    (known : busy.hub.connection? number = some connection) {frame : FrameId}
    (serving : connection.stage = .serving frame) (now : Instant) (incoming : Incoming) :
    busy.Follows [.hear number now incoming]
      (busy.breakOff connection (busy.answer connection now incoming)) := by
  have performed := perform_hear known now incoming
  have answers := busy.isDelivery_answer connection now incoming
  generalize busy.answer connection now incoming = answer at performed answers
  rcases carryOut_silent busy.hub connection answer with ⟨same, told⟩
  let silent : Answer := { answer with messages := [] }
  have quiet := plain_carryOut busy.hub connection
    (show ∀ message ∈ silent.messages, message.isDelivery = false by simp [silent])
  rw [breakOff_serving busy serving]
  apply follows_one
  · rw [performed, hub_await, same]
  · rw [performed, Effect.plain_append, Effect.plain_cut _ answers, quiet, told]

/-- A handshake whose answer is cut off is one whose peer leaves. -/
theorem follows_breakOff_greeting
    (known : busy.hub.connection? number = some connection) {deadline : Nat}
    (greeting : connection.stage = .greeting deadline) (now : Instant) (incoming : Incoming) :
    busy.Follows [.hear number now incoming, .leave number]
      (busy.breakOff connection (busy.answer connection now incoming)) := by
  have performed := perform_hear known now incoming
  have answers := busy.isDelivery_answer connection now incoming
  have stages : (busy.answer connection now incoming).stage = .ended ∨
      ∃ frame, (busy.answer connection now incoming).stage = .serving frame :=
    Connection.stage_handle busy.hub.exchange now busy.hub.maxMessageSize connection.stage incoming
  generalize busy.answer connection now incoming = answer at performed answers stages
  have same := Hub.number_of_connection? known
  rcases Hub.settle_endOfStream known stages with ⟨ends, told⟩
  rw [breakOff_greeting busy greeting, ends]
  simp only [Follows, Hub.performAll, performed, List.append_nil, told, hub_await, true_and]
  rw [Effect.plain_append, Effect.plain_cut _ answers, same]
  rfl

theorem follows_handle
    (consistent : busy.hub.Consistent max) (known : busy.hub.connection? number = some connection)
    (now : Instant) (written : Bool) :
    busy.Follows (busy.handlingActs connection now written)
      (busy.handle connection now written) := by
  obtain rfl := Hub.number_of_connection? known
  cases waits : (busy.tasks connection.number).waiting with
  | nil =>
      simp only [handlingActs, handle, waits]
      exact follows_nothing rfl rfl
  | cons first rest =>
      cases first with
      | none =>
          simp only [handlingActs, handle, waits]
          exact follows_leave known
      | some incoming =>
          simp only [handlingActs, handle, waits]
          cases written || (busy.answer connection now incoming).messages.isEmpty with
          | true =>
              exact follows_reply known now incoming rest
          | false =>
              cases stage : connection.stage with
              | ended =>
                  exact absurd stage (consistent.alive _ (Hub.mem_of_connection? known))
              | serving frame =>
                  simp only [Hub.servedFrame?, stage]
                  exact follows_breakOff_serving known stage now incoming
              | greeting deadline =>
                  simp only [Hub.servedFrame?, stage]
                  exact follows_breakOff_greeting known stage now incoming

theorem follows_on
    {acts : Connection → List Act} {act : Connection → BusyHub × List Effect}
    (follows : ∀ connection, busy.hub.connection? number = some connection →
      busy.Follows (acts connection) (act connection)) :
    busy.Follows (busy.actsOn number acts) (busy.on number act) := by
  unfold actsOn on
  cases known : busy.hub.connection? number with
  | none =>
      exact follows_nothing rfl rfl
  | some connection =>
      exact follows connection known

/-- Every step but one that writes a packet does what its acts do. -/
theorem follows_step
    (consistent : busy.hub.Consistent max) {step : Step}
    (asks : ∀ number written, step ≠ .forward number written) :
    busy.Follows (busy.actsFor step) (busy.step step) := by
  cases step with
  | forward number written =>
      exact absurd rfl (asks number written)
  | accept | pass =>
      exact follows_one rfl rfl
  | read number bytes =>
      refine follows_on fun connection known => ?_
      split
      · exact follows_nothing rfl rfl
      · refine follows_one ?_ ?_ <;> simp only [Hub.perform, known]
        · rfl
        · rfl
  | finish number | lose number =>
      simp only [actsFor, step, on]
      split
      · exact follows_nothing rfl rfl
      · split <;> exact follows_nothing rfl rfl
  | handle number now written =>
      exact follows_on fun connection known => follows_handle consistent known now written
  | leave number =>
      refine follows_on fun connection known => ?_
      split
      · exact follows_leave known
      · exact follows_nothing rfl rfl
  | stop =>
      simp only [actsFor, step]
      split
      · exact follows_nothing rfl rfl
      · exact follows_one rfl rfl

/-- A packet that goes out, or is lost, changes what waits. -/
theorem alike_forward (busy : BusyHub) (connection : Connection) (written : Bool) :
    busy.hub.Alike (busy.forward connection written).1.hub ∧
      Effect.plain (busy.forward connection written).2 = [] := by
  unfold forward
  split
  · exact ⟨.refl _, rfl⟩
  · split
    · exact ⟨.refl _, rfl⟩
    · rename_i frame _ _ packet exchange taken
      have board : exchange.board = busy.hub.exchange.board := by
        unfold Exchange.takeNext? at taken
        split at taken
        · cases taken
        · cases taken
          rfl
      have lost : (exchange.discard frame).board = busy.hub.exchange.board := board
      split
      · exact ⟨⟨exchange, board, rfl⟩, rfl⟩
      · exact ⟨⟨_, lost, rfl⟩, rfl⟩

/-- Every step does what its acts do, but for the packets that wait. -/
theorem alike_step (consistent : busy.hub.Consistent max) (step : Step) :
    (busy.hub.performAll (busy.actsFor step)).1.Alike (busy.step step).1.hub ∧
      Effect.plain (busy.step step).2 = (busy.hub.performAll (busy.actsFor step)).2 := by
  by_cases writes : ∃ number written, step = .forward number written
  · rcases writes with ⟨number, written, rfl⟩
    simp only [actsFor, BusyHub.step, on]
    split
    · exact ⟨.refl _, rfl⟩
    · split
      · exact alike_forward busy _ written
      · exact ⟨.refl _, rfl⟩
  · rw [not_exists] at writes
    simp only [not_exists] at writes
    rcases follows_step consistent writes with ⟨hub, effects⟩
    exact ⟨hub ▸ .refl _, effects⟩

end BusyHub

end SessionBus
