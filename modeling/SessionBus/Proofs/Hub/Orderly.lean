import SessionBus.Proofs.Hub.Server
import SessionBus.Proofs.Message.Size

/-!
# Hubs that read whole lines

Between two lines every connection of a hub stands at the start of a line, and has said a greeting
or serves a frame.  Whatever line comes, and however small the limit of the hub is, the line is
answered or its connection is closed, and the other connections go on as before.

An answer to a call carries its number.  It can always be read by a link, unless it describes a
session.
-/

namespace SessionBus

/-! ## The limit of sessions -/

/-- The limit of the sessions is a number of 64 bits. -/
def Exchange.Bounded (exchange : Exchange) : Prop :=
  ∀ board, exchange.board = some board → board.table.maxSessions < UInt64.size

namespace SessionTable

theorem maxSessions_claim
    {table after : SessionTable} {frame : FrameId} {id : SessionId} {now : Instant}
    {outcome : ClaimOutcome} (claimed : table.claim frame id now = .ok (outcome, after)) :
    after.maxSessions = table.maxSessions := by
  unfold claim at claimed
  split at claimed
  · cases claimed
    rfl
  · split at claimed
    · cases claimed
    · cases claimed
      rfl

theorem maxSessions_join
    (table : SessionTable) (frame : FrameId) (id : SessionId) (displayName : String)
    (now : Instant) : (table.join frame id displayName now).2.maxSessions = table.maxSessions := by
  unfold join
  split
  · rfl
  · split <;> rfl

/-- A claim is refused only for the limit of the table. -/
theorem eq_tooManySessions_of_claim
    {table : SessionTable} {frame : FrameId} {id : SessionId} {now : Instant}
    {error : SwitchboardError} (refused : table.claim frame id now = .error error) :
    error = .tooManySessions table.maxSessions := by
  unfold claim at refused
  split at refused
  · cases refused
  · split at refused
    · cases refused
      rfl
    · cases refused

end SessionTable

namespace Exchange

variable {exchange : Exchange}

/-- Requests that leave the limit alone keep it small. -/
theorem Bounded.request
    (bounded : exchange.Bounded) {α : Type} (closed : α) {ask : Switchboard → Turn α}
    (kept : ∀ board, (ask board).board.table.maxSessions = board.table.maxSessions) :
    (exchange.request closed ask).2.Bounded := by
  unfold Exchange.request
  cases running : exchange.board with
  | none =>
      exact bounded
  | some board =>
      rintro after ⟨⟩
      rw [kept]
      exact bounded board running

theorem Bounded.register (bounded : exchange.Bounded) : exchange.register.2.Bounded := by
  apply bounded.request
  intro board
  unfold Switchboard.register
  split <;> rfl

theorem Bounded.unregister (bounded : exchange.Bounded) (frame : FrameId) :
    (exchange.unregister frame).Bounded := by
  apply bounded.request
  intro board
  unfold Switchboard.unregister
  split <;> rfl

theorem Bounded.claim
    (bounded : exchange.Bounded) (frame : FrameId) (session : SessionId) (now : Instant) :
    (exchange.claim frame session now).2.Bounded := by
  apply bounded.request
  intro board
  unfold Switchboard.claim
  split
  · rfl
  · rename_i claimed
    exact SessionTable.maxSessions_claim claimed

theorem Bounded.join
    (bounded : exchange.Bounded) (frame : FrameId) (session : SessionId) (displayName : String)
    (now : Instant) : (exchange.join frame session displayName now).2.Bounded :=
  bounded.request _ fun board => board.table.maxSessions_join frame session displayName now

theorem Bounded.deliver (bounded : exchange.Bounded) (route : Route) (packet : Packet) :
    (exchange.deliver route packet).Bounded :=
  bounded.request _ fun _ => rfl

/-- The error of a claim names a small limit. -/
theorem Bounded.isSmall_of_claim
    (bounded : exchange.Bounded) {frame : FrameId} {session : SessionId} {now : Instant}
    {error : SwitchboardError} (refused : (exchange.claim frame session now).1 = .error error) :
    error.IsSmall := by
  unfold Exchange.claim Exchange.request at refused
  cases running : exchange.board with
  | none =>
      rw [running] at refused
      cases refused
      trivial
  | some board =>
      rw [running] at refused
      simp only [Switchboard.claim] at refused
      split at refused
      · rename_i cause claimed
        cases refused
        rw [SessionTable.eq_tooManySessions_of_claim claimed]
        exact bounded board running
      · cases refused

/-- A wish to join is refused only by a switchboard that has stopped. -/
theorem isSmall_of_join
    {frame : FrameId} {session : SessionId} {displayName : String} {now : Instant}
    {error : SwitchboardError}
    (refused : (exchange.join frame session displayName now).1 = .error error) :
    error.IsSmall := by
  unfold Exchange.join Exchange.request at refused
  cases running : exchange.board with
  | none =>
      rw [running] at refused
      cases refused
      trivial
  | some board =>
      rw [running] at refused
      cases refused

end Exchange

/-! ## Answers -/

/-- What an answer leaves: a connection that serves a frame or has ended, and a small limit. -/
structure Answer.Orderly (answer : Answer) : Prop where
  stage : answer.stage = .ended ∨ ∃ frame, answer.stage = .serving frame
  bounded : answer.exchange.Bounded

/-- An answer to a call: it carries the number of the request, and a link can read its line unless
it describes a session. -/
structure HubMessage.Answers (message : HubMessage) (id : UInt64) (what : Call) : Prop where
  request : message.request? = some id
  plain : message.packet? = none
  short :
    (∀ session, what ≠ .describe session) → (Line.ofHub message).utf8ByteSize ≤ Line.maxSize

namespace Connection

variable {exchange : Exchange}

theorem orderly_hangUp (bounded : exchange.Bounded) : (hangUp exchange).Orderly :=
  ⟨.inl rfl, bounded⟩

theorem orderly_goOn (bounded : exchange.Bounded) (frame : FrameId) (messages : List HubMessage) :
    (goOn exchange frame messages).Orderly :=
  ⟨.inr ⟨frame, rfl⟩, bounded⟩

theorem orderly_greet (bounded : exchange.Bounded) (message : FrameMessage) :
    (greet exchange message).Orderly := by
  have registered := bounded.register
  unfold greet
  split
  · exact ⟨.inl rfl, bounded⟩
  · split
    · split
      · rename_i asked
        rw [asked] at registered
        exact ⟨.inl rfl, registered⟩
      · rename_i frame after asked
        rw [asked] at registered
        exact ⟨.inr ⟨frame, rfl⟩, registered⟩
    · exact ⟨.inl rfl, bounded⟩

theorem orderly_serve
    (bounded : exchange.Bounded) (frame : FrameId) (now : Instant) (request : Request) :
    (serve exchange frame now request).Orderly := by
  cases request with
  | connect | describeSession | ping =>
      exact ⟨.inr ⟨frame, rfl⟩, bounded⟩
  | claimSession request session =>
      exact ⟨.inr ⟨frame, rfl⟩, bounded.claim frame session now⟩
  | joinSession request session displayName =>
      exact ⟨.inr ⟨frame, rfl⟩, bounded.join frame session displayName now⟩
  | send route packet =>
      exact ⟨.inr ⟨frame, rfl⟩, bounded.deliver route _⟩
  | disconnect =>
      exact ⟨.inl rfl, bounded.unregister frame⟩

/-- Whatever a reader finds, the answer is orderly. -/
theorem orderly_handle
    (bounded : exchange.Bounded) (max : Nat) (now : Instant) (stage : Stage)
    (incoming : Incoming) : (handle exchange max now stage incoming).Orderly := by
  cases stage with
  | ended =>
      exact ⟨.inl rfl, bounded⟩
  | greeting deadline =>
      cases incoming with
      | tooLong | notText =>
          exact orderly_hangUp bounded
      | line text =>
          simp only [handle]
          split
          · exact orderly_greet bounded _
          · exact orderly_hangUp bounded
  | serving frame =>
      cases incoming with
      | tooLong =>
          exact orderly_goOn bounded frame _
      | notText =>
          exact ⟨.inl rfl, bounded.unregister frame⟩
      | line text =>
          simp only [handle]
          split
          · exact orderly_serve bounded frame now _
          · exact orderly_goOn bounded frame _
          · exact orderly_goOn bounded frame _

theorem answers_refusal
    (id : UInt64) (what : Call) {error : SwitchboardError} (small : error.IsSmall) :
    (refusal id error).Answers id what :=
  ⟨rfl, rfl, fun _ => Line.short_requestError id small⟩

/-- A call that is served is answered, and the connection goes on. -/
theorem answers_serve
    (bounded : exchange.Bounded) (frame : FrameId) (now : Instant) (id : UInt64) (what : Call) :
    ∃ message, message.Answers id what ∧
      (serve exchange frame now (what.request id)).messages = [message] ∧
      (serve exchange frame now (what.request id)).stage = .serving frame := by
  cases what with
  | claim session =>
      rcases said : exchange.claim frame session now with ⟨result, after⟩
      cases result with
      | ok claimed =>
          refine ⟨.sessionClaimed id claimed,
            ⟨rfl, rfl, fun _ => Line.short_sessionClaimed id claimed⟩, ?_, rfl⟩
          simp [Call.request, serve, said, goOnAfterPause]
      | error error =>
          have small := bounded.isSmall_of_claim (congrArg Prod.fst said)
          refine ⟨refusal id error, answers_refusal id _ small, ?_, rfl⟩
          simp [Call.request, serve, said, goOnAfterPause]
  | join session displayName =>
      rcases said : exchange.join frame session displayName now with ⟨result, after⟩
      cases result with
      | ok joined =>
          refine ⟨.sessionJoined id joined,
            ⟨rfl, rfl, fun _ => Line.short_sessionJoined id joined⟩, ?_, rfl⟩
          simp [Call.request, serve, said, goOnAfterPause]
      | error error =>
          have small := Exchange.isSmall_of_join (congrArg Prod.fst said)
          refine ⟨refusal id error, answers_refusal id _ small, ?_, rfl⟩
          simp [Call.request, serve, said, goOnAfterPause]
  | describe session =>
      exact ⟨_, ⟨rfl, rfl, fun other => absurd rfl (other session)⟩, rfl, rfl⟩

end Connection

/-! ## Hubs -/

namespace Hub

/-- Every connection stands at the start of a line and has not ended. -/
structure Orderly (hub : Hub) : Prop where
  running : hub.stopping = false
  apart : (hub.connections.map (·.number)).Nodup
  whole :
    ∀ connection ∈ hub.connections,
      connection.reader = .start hub.maxMessageSize ∧ connection.stage ≠ .ended
  numbered : ∀ connection ∈ hub.connections, connection.number < hub.nextNumber
  bounded : hub.exchange.Bounded

/-- The hub serves a frame on a connection. -/
def Serves (hub : Hub) (number : Nat) : Prop :=
  ∃ frame, serving hub.maxMessageSize (number, frame) ∈ hub.connections

/-- What a hub does leaves its size limit alone, and lets it serve on all connections but one as
before. -/
structure Spares (hub : Hub) (number : Nat) (after : Hub) : Prop where
  limit : after.maxMessageSize = hub.maxMessageSize
  others : ∀ other, other ≠ number → hub.Serves other → after.Serves other

/-- The hub serves on as before wherever it does not close the connection. -/
structure GoesOn (hub : Hub) (outputs : List Output) (after : Hub) : Prop where
  limit : after.maxMessageSize = hub.maxMessageSize
  serves : ∀ number, hub.Serves number → .close number ∈ outputs ∨ after.Serves number

variable {hub : Hub}

theorem GoesOn.refl (hub : Hub) : hub.GoesOn [] hub :=
  ⟨rfl, fun _ => .inr⟩

theorem GoesOn.trans
    {first second : List Output} {middle after : Hub} (before : hub.GoesOn first middle)
    (later : middle.GoesOn second after) : hub.GoesOn (first ++ second) after where
  limit := later.limit.trans before.limit
  serves := by
    intro number serves
    rcases before.serves number serves with closed | goesOn
    · exact .inl (List.mem_append_left _ closed)
    · exact (later.serves number goesOn).imp (List.mem_append_right _) id

theorem Spares.goesOn
    {number : Nat} {outputs : List Output} {after : Hub} (spares : hub.Spares number after)
    (outcome : .close number ∈ outputs ∨ after.Serves number) : hub.GoesOn outputs after where
  limit := spares.limit
  serves := by
    intro other serves
    by_cases here : other = number
    · exact here ▸ outcome
    · exact .inr (spares.others other here serves)

theorem orderly_start
    {limits : Limits} (small : limits.maxSessions < UInt64.size) (maxMessageSize : Nat) :
    (start limits maxMessageSize).Orderly where
  running := rfl
  apart := List.nodup_nil
  whole := nofun
  numbered := nofun
  bounded := by
    rintro board ⟨⟩
    exact small

/-- The packets that a hub writes change nothing but what waits for frames. -/
theorem bounded_forward (bounded : hub.exchange.Bounded) : hub.forward.1.exchange.Bounded := by
  refine List.foldlRecOn (motive := fun done : Exchange × List Output => done.1.Bounded)
    hub.connections _ bounded ?_
  intro done bounded connection _
  simp only [forwardOne]
  split
  · exact bounded
  · exact bounded

theorem Orderly.forward (orderly : hub.Orderly) : hub.forward.1.Orderly :=
  ⟨orderly.running, orderly.apart, orderly.whole, orderly.numbered,
    bounded_forward orderly.bounded⟩

theorem Spares.trans
    {number : Nat} {middle after : Hub} (first : hub.Spares number middle)
    (second : middle.Spares number after) : hub.Spares number after where
  limit := second.limit.trans first.limit
  others := fun other different serves =>
    second.others other different (first.others other different serves)

/-- The packets that a hub writes change nothing about its connections. -/
theorem spares_forward (hub : Hub) (number : Nat) : hub.Spares number hub.forward.1 :=
  ⟨rfl, fun _ _ serves => serves⟩

/-- A hub forgets a connection that has ended. -/
theorem Orderly.forget
    (orderly : hub.Orderly) {exchange : Exchange} (bounded : exchange.Bounded) (number : Nat) :
    let after : Hub := { hub with
      exchange, connections := hub.connections.filter fun other => other.number != number }
    after.Orderly ∧ hub.Spares number after := by
  refine ⟨⟨orderly.running, ?_, ?_, ?_, bounded⟩, rfl, ?_⟩
  · exact orderly.apart.sublist (List.filter_sublist.map _)
  · exact fun connection kept => orderly.whole connection (List.mem_filter.mp kept).1
  · exact fun connection kept => orderly.numbered connection (List.mem_filter.mp kept).1
  · rintro other different ⟨frame, inside⟩
    exact ⟨frame, List.mem_filter.mpr ⟨inside, by simpa [serving] using different⟩⟩

/-- A connection that goes on serves a frame. -/
theorem Orderly.goOn
    (orderly : hub.Orderly) {exchange : Exchange} (bounded : exchange.Bounded) {number : Nat}
    {stage : Stage} (inside : ⟨number, .start hub.maxMessageSize, stage⟩ ∈ hub.connections)
    (frame : FrameId) :
    let changed := serving hub.maxMessageSize (number, frame)
    let after : Hub := { hub with
      exchange, connections := hub.connections.map fun other =>
        if other.number = number then changed else other }
    after.Orderly ∧ hub.Spares number after ∧ after.Serves number := by
  intro changed after
  have numbers : after.connections.map (·.number) = hub.connections.map (·.number) := by
    simp only [after, List.map_map]
    apply List.map_congr_left
    intro other _
    simp only [Function.comp_apply]
    split
    · rename_i same
      exact same.symm
    · rfl
  have present : changed ∈ after.connections :=
    List.mem_map.mpr ⟨_, inside, if_pos rfl⟩
  refine ⟨⟨orderly.running, numbers ▸ orderly.apart, ?_, ?_, bounded⟩, ⟨rfl, ?_⟩,
    frame, present⟩
  · intro connection kept
    rcases List.mem_map.mp kept with ⟨other, known, rfl⟩
    split
    · exact ⟨rfl, nofun⟩
    · exact orderly.whole other known
  · intro connection kept
    have number : connection.number ∈ hub.connections.map (·.number) :=
      numbers ▸ List.mem_map_of_mem kept
    rcases List.mem_map.mp number with ⟨other, known, same⟩
    exact same ▸ orderly.numbered other known
  · rintro other different ⟨own, known⟩
    exact ⟨own, List.mem_map.mpr ⟨_, known, if_neg different⟩⟩

/-- What an answer comes to: the connection is closed, or it serves a frame; its messages are
written, and the other connections are left alone. -/
theorem Orderly.settle
    (orderly : hub.Orderly) {number : Nat} {stage : Stage}
    (inside : ⟨number, .start hub.maxMessageSize, stage⟩ ∈ hub.connections) {answer : Answer}
    (fine : answer.Orderly) :
    let settled := hub.settle ⟨number, .start hub.maxMessageSize, stage⟩ answer
    settled.1.Orderly ∧ hub.Spares number settled.1 ∧
      (∀ message ∈ answer.messages, .write number message ∈ settled.2) ∧
      (.close number ∈ settled.2 ∨ answer.stage ≠ .ended ∧ settled.1.Serves number) := by
  have stays : ¬ hub.stopping = true := Bool.eq_false_iff.mp orderly.running
  rcases fine.stage with ended | ⟨frame, goesOn⟩
  · rcases orderly.forget fine.bounded number with ⟨kept, spares⟩
    simp only [Hub.settle, ended, setConnection]
    refine ⟨kept, spares, ?_, .inl (by simp)⟩
    intro message inside
    exact List.mem_append_left _ (List.mem_map_of_mem inside)
  · rcases orderly.goOn fine.bounded inside frame with ⟨kept, spares, serves⟩
    simp only [Hub.settle, goesOn, if_neg stays, setConnection]
    split
    · refine ⟨kept.forward, spares.trans (spares_forward _ number), ?_, .inr ⟨by simp, serves⟩⟩
      intro message inside
      exact List.mem_append_left _ (List.mem_map_of_mem inside)
    · refine ⟨kept, spares, ?_, .inr ⟨by simp, serves⟩⟩
      intro message inside
      exact List.mem_map_of_mem inside

/-! ## Lines -/

/-- What a line comes to on a connection that is known. -/
theorem Orderly.receive_known
    (orderly : hub.Orderly) {number : Nat} {stage : Stage}
    (inside : ⟨number, .start hub.maxMessageSize, stage⟩ ∈ hub.connections) (now : Instant)
    (message : FrameMessage) :
    let answer := Connection.handle hub.exchange hub.maxMessageSize now stage
      (LineReader.seen hub.maxMessageSize message.toJson)
    let received := hub.receive number now (Line.ofFrame message).toUTF8.toList
    received.1.Orderly ∧ hub.Spares number received.1 ∧
      (∀ reply ∈ answer.messages, .write number reply ∈ received.2) ∧
      (.close number ∈ received.2 ∨ answer.stage ≠ .ended ∧ received.1.Serves number) := by
  have alive := (orderly.whole _ inside).2
  have fine := Connection.orderly_handle orderly.bounded hub.maxMessageSize now stage
    (LineReader.seen hub.maxMessageSize message.toJson)
  rcases orderly.settle inside fine with ⟨kept, spares, written, outcome⟩
  simp only [receive_line orderly.apart inside alive now message]
  refine ⟨kept.forward, spares.trans (spares_forward _ number), ?_, ?_⟩
  · exact fun reply said => List.mem_append_left _ (written reply said)
  · exact outcome.imp (List.mem_append_left _) id

/-- The connection of a number, if there is one, stands at the start of a line. -/
theorem Orderly.connection?_cases (orderly : hub.Orderly) (number : Nat) :
    hub.connection? number = none ∨
      ∃ stage, hub.connection? number = some ⟨number, .start hub.maxMessageSize, stage⟩ ∧
        ⟨number, .start hub.maxMessageSize, stage⟩ ∈ hub.connections := by
  cases found : hub.connection? number with
  | none =>
      exact .inl rfl
  | some connection =>
      right
      have inside := List.mem_of_find?_eq_some found
      obtain rfl : connection.number = number := by
        simpa using List.find?_some found
      rcases connection with ⟨number, reader, stage⟩
      obtain rfl : reader = .start hub.maxMessageSize := (orderly.whole _ inside).1
      exact ⟨stage, rfl, inside⟩

/-- Whatever line comes on a connection, the hub goes on with those that it does not close. -/
theorem Orderly.receive
    (orderly : hub.Orderly) (number : Nat) (now : Instant) (message : FrameMessage) :
    let received := hub.receive number now (Line.ofFrame message).toUTF8.toList
    received.1.Orderly ∧ hub.GoesOn received.2 received.1 := by
  rcases orderly.connection?_cases number with absent | ⟨stage, _, inside⟩
  · have same : hub.receive number now (Line.ofFrame message).toUTF8.toList = (hub, []) := by
      simp only [Hub.receive, absent]
    rw [same]
    exact ⟨orderly, .refl hub⟩
  · rcases orderly.receive_known inside now message with ⟨kept, spares, _, outcome⟩
    exact ⟨kept, spares.goesOn (outcome.imp id And.right)⟩

/-- A call is answered if its line is not too long for the hub. -/
theorem Orderly.answers
    (orderly : hub.Orderly) {number : Nat} (serves : hub.Serves number) (now : Instant)
    {id : UInt64} {what : Call}
    (short : (FrameMessage.ofRequest (what.request id)).toJson.compact.utf8ByteSize ≤
      hub.maxMessageSize) :
    ∃ reply : HubMessage, reply.Answers id what ∧
      .write number reply ∈
        (hub.receive number now (Line.ofFrame (.ofRequest (what.request id))).toUTF8.toList).2 := by
  rcases serves with ⟨frame, inside⟩
  rcases Connection.answers_serve orderly.bounded frame now id what with ⟨reply, answers, said, _⟩
  rcases orderly.receive_known inside now (.ofRequest (what.request id)) with ⟨_, _, written, _⟩
  rw [LineReader.seen, if_pos short, Connection.handle_serving (isPortable_call id what) short]
    at written
  exact ⟨reply, answers, written reply (said ▸ List.mem_singleton_self reply)⟩

/-! ## Coming and going -/

/-- The hub takes in another connection. -/
theorem Orderly.accept (orderly : hub.Orderly) :
    hub.accept = (some hub.nextNumber, hub.accepting) ∧ hub.accepting.Orderly ∧
      hub.GoesOn [] hub.accepting := by
  refine ⟨?_, ⟨orderly.running, ?_, ?_, ?_, orderly.bounded⟩, rfl, ?_⟩
  · unfold Hub.accept
    rw [if_neg (Bool.eq_false_iff.mp orderly.running)]
    rfl
  · apply Keyed.apart_append.mpr ⟨orderly.apart, ?_⟩
    exact fun connection inside => Nat.ne_of_lt (orderly.numbered connection inside)
  · intro connection inside
    rcases List.mem_append.mp inside with old | new
    · exact orderly.whole connection old
    · rw [List.mem_singleton.mp new]
      exact ⟨rfl, nofun⟩
  · intro connection inside
    rcases List.mem_append.mp inside with old | new
    · exact Nat.lt_succ_of_lt (orderly.numbered connection old)
    · rw [List.mem_singleton.mp new]
      exact Nat.lt_succ_self _
  · rintro other ⟨frame, inside⟩
    exact .inr ⟨frame, List.mem_append_left _ inside⟩

/-- A greeting ends the connection, or the hub serves a frame on it. -/
theorem Orderly.greeted
    (orderly : hub.Orderly) (displayName : Option String) (now : Instant) :
    let received :=
      hub.accepting.receive hub.nextNumber now (SocketLink.greeting displayName).toUTF8.toList
    received.1.Orderly ∧ hub.GoesOn received.2 received.1 ∧
      (.close hub.nextNumber ∈ received.2 ∨ received.1.Serves hub.nextNumber) := by
  rcases orderly.accept with ⟨_, accepting, goesOn⟩
  have inside : hub.accepted ∈ hub.accepting.connections :=
    List.mem_append_right _ (List.mem_singleton_self _)
  rcases accepting.receive_known inside now (.ofRequest (.connect displayName)) with
    ⟨kept, _, _, outcome⟩
  have further := (accepting.receive hub.nextNumber now (.ofRequest (.connect displayName))).2
  exact ⟨kept, goesOn.trans further, outcome.imp id And.right⟩

/-- The end of a stream ends the connection, and the hub goes on with the others. -/
theorem Orderly.finish (orderly : hub.Orderly) (number : Nat) (now : Instant) :
    (hub.finish number now).1.Orderly ∧
      hub.GoesOn (hub.finish number now).2 (hub.finish number now).1 := by
  rcases orderly.connection?_cases number with absent | ⟨stage, found, inside⟩
  · have same : hub.finish number now = (hub, []) := by
      simp only [Hub.finish, absent]
    rw [same]
    exact ⟨orderly, .refl hub⟩
  · have fine : (Connection.endOfStream hub.exchange stage).Orderly ∧
        (Connection.endOfStream hub.exchange stage).stage = .ended := by
      cases stage with
      | serving frame =>
          exact ⟨⟨.inl rfl, orderly.bounded.unregister frame⟩, rfl⟩
      | greeting | ended =>
          exact ⟨⟨.inl rfl, orderly.bounded⟩, rfl⟩
    have nothing : (LineReader.start hub.maxMessageSize).finish = none := rfl
    rcases orderly.settle inside fine.1 with ⟨kept, spares, _, outcome⟩
    simp only [Hub.finish, found, nothing, Option.toList_none, handleAll, List.nil_append]
    refine ⟨kept.forward, (spares.trans (spares_forward _ number)).goesOn ?_⟩
    rcases outcome with closed | ⟨alive, _⟩
    · exact .inl (List.mem_append_left _ closed)
    · exact absurd fine.2 alive

end Hub

end SessionBus
