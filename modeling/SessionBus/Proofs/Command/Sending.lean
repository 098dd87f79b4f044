import SessionBus.Command.Control
import SessionBus.Proofs.Transport.Lone

/-!
# What the control command has sent

After its packet the command asks the hub a question, and it ends with success once the question is
answered.  The answer says that the hub has read every line before the question, but not what it has
found there.  A packet that is too large is dropped by the link, or else reported by the hub, and a
packet that is too deep for the reader of the hub is reported as well; but such a report belongs to
no call, and the command does not see it.

So a success says nothing of the packet.  What the switchboard was given is told here from the
lines that the command has written.
-/

namespace SessionBus

namespace Hub

/-! ## What the hub hears of a packet -/

variable {max : Nat} {frame : FrameId} {route : Route} {packet : Packet}

/-- The size of the document in which a packet is sent. -/
def sizeOfPacket (route : Route) (packet : Packet) : Nat :=
  (FrameMessage.ofRequest (.send route packet)).toJson.compact.utf8ByteSize

/-- What the hub hears of a packet is the packet on its route, but for the data. -/
theorem hears?_send
    {command : Command} (heard : hears? max frame (.send route packet) = some command) :
    packet.data.document.depth ≤ dataLevels ∧ sizeOfPacket route packet ≤ max ∧
      ∃ data, command = .deliver route { packet with sender := frame, data := data } := by
  unfold hears? LineReader.seen at heard
  split at heard
  · rename_i short
    simp only [Connection.command?] at heard
    split at heard
    · rename_i found read
      rcases Line.send_of_parseFrame rfl read with ⟨shallow, data, sends⟩
      rw [sends] at heard
      exact ⟨shallow, short, data, (Option.some.inj heard).symm⟩
    · cases heard
  · cases heard

/-- A packet with integers only is heard as it is, unless it is too large or too deep. -/
theorem hears?_send_of_onlyIntegers (integers : packet.data.document.onlyIntegers = true) :
    hears? max frame (.send route packet) =
      if packet.data.document.depth ≤ dataLevels ∧ sizeOfPacket route packet ≤ max
      then some (.deliver route { packet with sender := frame }) else none := by
  split
  · rename_i fits
    rcases fits with ⟨shallow, short⟩
    have portable := FrameMessage.isPortable_send ⟨integers, shallow⟩ route
    have fits : (FrameMessage.ofRequest (.send route packet)).toJson.compact.utf8ByteSize ≤ max :=
      short
    rw [hears?, LineReader.seen, if_pos fits]
    simp only [Connection.command?, Connection.parseFrame_compact portable fits]
    rfl
  · rename_i exceeds
    cases heard : hears? max frame (.send route packet) with
    | none =>
        rfl
    | some command =>
        rcases hears?_send heard with ⟨shallow, short, _⟩
        exact absurd ⟨shallow, short⟩ exceeds

end Hub

/-! ## Along the lines of a frame -/

namespace Network

/-- Along some inputs to a hub, with commands for its switchboard, a frame has been taken in. -/
structure Along
    (network : Network) (hub : Hub) (inputs : List Hub.Input)
    (commands : List (Instant × Command)) (max number : Nat) (frame : FrameId) (next : UInt64)
    (binding : Binding) (board : Switchboard) : Prop where
  lone : network.Lone (hub.takeAll inputs).1 number frame next binding
  hosts : (hub.takeAll inputs).1.Hosts max number frame board
  given : hub.given inputs = commands

variable {network after : Network} {hub : Hub} {inputs : List Hub.Input}
  {commands : List (Instant × Command)} {max number : Nat} {frame : FrameId} {next later : UInt64}
  {binding changed : Binding} {board moved : Switchboard} {now : Instant}

/-- A request that the hub has taken is one line more. -/
theorem Along.taken
    (along : network.Along hub inputs commands max number frame next binding board)
    {request : Request} {command : Command}
    (taken : Taken after (hub.takeAll inputs).1 max number frame later changed moved now request
      command) :
    after.Along hub (inputs ++ [Hub.lineInput number now request]) (commands ++ [(now, command)])
      max number frame later changed moved := by
  have reached : (hub.takeAll (inputs ++ [Hub.lineInput number now request])).1 =
      ((hub.takeAll inputs).1.take (Hub.lineInput number now request)).1 := by
    rw [Hub.takeAll_append]
    rfl
  constructor
  · rw [reached]
    exact taken.lone
  · rw [reached]
    exact taken.hosts
  · rw [Hub.given_append, along.given, taken.given]

/-- The commands with which the switchboard of a hub gets a packet from a frame. -/
def carried (max : Nat) (frame : FrameId) (now : Instant) (packet : Packet) :
    List (Instant × Command) :=
  if Line.maxSize < Hub.sizeOfPacket .broadcast packet then []
  else (Hub.hears? max frame (.send .broadcast packet)).toList.map (now, ·)

/-- A packet that comes to the switchboard is the packet that was sent, but for its data. -/
theorem carried_cases (max : Nat) (frame : FrameId) (now : Instant) (packet : Packet) :
    carried max frame now packet = [] ∨
      packet.data.document.depth ≤ dataLevels ∧
        Hub.sizeOfPacket .broadcast packet ≤ Line.maxSize ∧
          Hub.sizeOfPacket .broadcast packet ≤ max ∧
            ∃ data, carried max frame now packet =
              [(now, .deliver .broadcast { packet with sender := frame, data := data })] := by
  unfold carried
  split
  · exact .inl rfl
  · rename_i fits
    cases heard : Hub.hears? max frame (.send .broadcast packet) with
    | none =>
        exact .inl rfl
    | some command =>
        rcases Hub.hears?_send heard with ⟨shallow, short, data, rfl⟩
        exact .inr ⟨shallow, Nat.not_lt.mp fits, short, data, rfl⟩

/-- With integers only it comes to the switchboard unless it is too large or too deep. -/
theorem carried_of_onlyIntegers
    {packet : Packet} (integers : packet.data.document.onlyIntegers = true)
    (max : Nat) (frame : FrameId) (now : Instant) :
    carried max frame now packet =
      if packet.data.document.depth ≤ dataLevels ∧
          Hub.sizeOfPacket .broadcast packet ≤ Line.maxSize ∧
            Hub.sizeOfPacket .broadcast packet ≤ max
      then [(now, .deliver .broadcast { packet with sender := frame })] else [] := by
  unfold carried
  rw [Hub.hears?_send_of_onlyIntegers integers]
  split
  · rename_i long
    rw [if_neg fun fits => Nat.not_le_of_lt long fits.2.1]
  · rename_i fits
    simp only [Nat.not_lt.mp fits, true_and]
    split <;> rfl

/-- A packet is another line, if it is not dropped by its link. -/
theorem Along.send
    (along : network.Along hub inputs commands max number frame next binding board)
    (now : Instant) (packet : Packet) :
    (network.send frame now .broadcast packet).Along hub
      (inputs ++ packetInputs number now packet) (commands ++ carried max frame now packet)
      max number frame next binding board := by
  obtain ⟨lone, hosts, given⟩ := along.lone.send along.hosts now packet
  have reached : (hub.takeAll (inputs ++ packetInputs number now packet)).1 =
      ((hub.takeAll inputs).1.takeAll (packetInputs number now packet)).1 := by
    rw [Hub.takeAll_append]
  constructor
  · rw [reached]
    exact lone
  · rw [reached]
    exact hosts
  · rw [Hub.given_append, along.given, given]
    rfl

end Network

namespace Command.Control

/-! ## What the command writes -/

/-- The packet in which the command sends its payload. -/
def packetOf (frame : FrameId) (session : SessionId) (topic data : String) : Packet :=
  .ofSession topic (payloadOf data).toValue frame session

/-- What the command asks for before it sends its packet, after a claim with some result. -/
def entrance (session : SessionId) (name : String) (claimed : Bool) : List Request :=
  [.connect (some programName), .claimSession 1 session] ++
    if claimed then [] else [.joinSession 2 session name]

/-- The commands with which the switchboard lets the frame into the session. -/
def admission
    (now : Instant) (frame : FrameId) (session : SessionId) (name : String) (claimed : Bool) :
    List (Instant × Command) :=
  [(now, .register), (now, .claim frame session)] ++
    if claimed then [] else [(now, .join frame session name)]

/-- All that comes to the hub until the command ends, but its farewell. -/
def inputs
    (number : Nat) (now : Instant) (session : SessionId) (topic data name : String)
    (frame : FrameId) (claimed : Bool) : List Hub.Input :=
  Hub.conversation number now (entrance session name claimed) ++
    Network.packetInputs number now (packetOf frame session topic data) ++
      [Hub.lineInput number now (.describeSession (if claimed then 2 else 3) session)]

/-! ## The end of the command -/

theorem andThen_done
    {α : Type} {answer : Option (Except TransportError α) × Network}
    {next : α → Network → Progress × Network} {output : String} {after : Network}
    (done : andThen answer next = (.done output, after)) :
    ∃ result network, answer = (some (.ok result), network) ∧
      next result network = (.done output, after) := by
  rcases answer with ⟨_ | _ | result, network⟩
  · cases done
  · cases done
  · exact ⟨result, network, rfl, done⟩

/-- A command that ends with success has been connected, and has come to its end. -/
theorem start_success
    {network : Network} {now : Instant} {control : Control} {output : String}
    (ended : (start network now control).1 = .ended (.success output)) :
    ∃ frame connected finished, network.connect now = (.ok frame, connected) ∧
      run connected frame now control = (.done output, finished) ∧
        (start network now control).2 = finished.close frame now := by
  unfold start at ended ⊢
  cases reached : network.connect now with
  | mk result connected =>
      rw [reached] at ended
      cases result with
      | error error =>
          cases ended
      | ok frame =>
          cases ran : run connected frame now control with
          | mk progress finished =>
              simp only [ran] at ended ⊢
              cases progress with
              | done printed =>
                  cases ended
                  exact ⟨frame, connected, finished, rfl, ran, rfl⟩
              | failed | stays =>
                  cases ended

open Network (Along Lone carried packetInputs)

variable {network after : Network} {hub : Hub} {before : List Hub.Input}
  {commands : List (Instant × SessionBus.Command)} {max number : Nat} {frame : FrameId}
  {next : UInt64} {binding : Binding} {board : Switchboard} {now : Instant} {session : SessionId}
  {topic data name output : String}

/-- The packet comes before the question, and the question has been answered. -/
theorem flush_done
    (along : network.Along hub before commands max number frame next binding board)
    (works : binding.session? = some session)
    (done : flush network frame now session topic data = (.done output, after)) :
    after.Along hub
      (before ++ packetInputs number now (packetOf frame session topic data) ++
        [Hub.lineInput number now (.describeSession next session)])
      (commands ++ carried max frame now (packetOf frame session topic data) ++
        [(now, .describe session)]) max number frame (next + 1) binding board := by
  rw [flush, along.lone.broadcast now session works] at done
  rcases andThen_done done with ⟨found, described, asked, finished⟩
  cases finished
  have sent := along.send now (packetOf frame session topic data)
  rcases sent.lone.describe sent.hosts now session with ⟨_, taken, _⟩ | ⟨_, fails⟩
  · have same := congrArg Prod.snd asked
    rw [packetOf] at taken
    rw [same] at taken
    exact sent.taken taken
  · exact absurd (congrArg Prod.fst asked) (fails found)

/-- The frame is let into the session by a claim, or else by a wish to join. -/
theorem send_done
    (along : network.Along hub (Hub.conversation number now [.connect (some programName)])
      [(now, .register)] max number frame 1 .unbound board)
    (done : run network frame now (.send session topic data name) = (.done output, after)) :
    ∃ claimed, (board.claim frame session now).reply = .ok claimed ∧
      ∃ next binding board,
        after.Along hub (inputs number now session topic data name frame claimed)
          (admission now frame session name claimed ++
            carried max frame now (packetOf frame session topic data) ++ [(now, .describe session)])
          max number frame next binding board := by
  rcases andThen_done done with ⟨claimed, created, asked, rest⟩
  rcases along.lone.create along.hosts now session with
    ⟨decided, _, reply, said, taken⟩ | ⟨_, fails⟩
  · cases said.symm.trans (congrArg Prod.fst asked)
    rw [congrArg Prod.snd asked] at taken
    refine ⟨claimed, reply, ?_⟩
    cases claimed with
    | true =>
        exact ⟨_, _, _, flush_done (along.taken taken) rfl rest⟩
    | false =>
        have led := along.taken taken
        rcases andThen_done rest with ⟨joined, entered, wished, finished⟩
        rcases led.lone.join led.hosts now session name with ⟨_, _, _, answered, letIn⟩ | fails
        · cases answered.symm.trans (congrArg Prod.fst wished)
          rw [congrArg Prod.snd wished] at letIn
          cases joined with
          | true =>
              exact ⟨_, _, _, flush_done (led.taken letIn) rfl finished⟩
          | false =>
              cases finished
        · exact absurd (congrArg Prod.fst wished) (fails joined)
  · exact absurd (congrArg Prod.fst asked) (fails claimed)

/-- A command that has sent its packet was taken in, and has claimed or joined the session. -/
theorem start_send_success
    (consistent : hub.Consistent max) (runs : hub.exchange.board = some board) {path : String}
    (ended : (start (.start (.linked ⟨hub, path, some programName, []⟩)) now
      (.send session topic data name)).1 = .ended (.success output)) :
    ∃ (frame : FrameId) (claimed : Bool) (finished : Network),
      board.register.reply = .ok frame ∧
        (board.register.board.claim frame session now).reply = .ok claimed ∧
          (start (.start (.linked ⟨hub, path, some programName, []⟩)) now
            (.send session topic data name)).2 = finished.close frame now ∧
            ∃ next binding left,
              finished.Along hub (inputs hub.nextNumber now session topic data name frame claimed)
                (admission now frame session name claimed ++
                  carried max frame now (packetOf frame session topic data) ++
                    [(now, .describe session)]) max hub.nextNumber frame next binding left := by
  rcases start_success ended with ⟨frame, connected, finished, reached, ran, same⟩
  rcases Network.lone_connect consistent runs path (some programName) now with
    ⟨admitted, _, _, room, told, lone, hosts, given⟩ | ⟨_, error, told⟩
  · cases told.symm.trans (congrArg Prod.fst reached)
    rw [congrArg Prod.snd reached] at lone
    rcases send_done ⟨lone, hosts, given⟩ ran with ⟨claimed, reply, along⟩
    exact ⟨frame, claimed, finished, room, reply, same, along⟩
  · cases told.symm.trans (congrArg Prod.fst reached)

/-- A frame that may claim the session has success whatever it sends. -/
theorem start_send_of_claimed
    (consistent : hub.Consistent max) (runs : hub.exchange.board = some board)
    (running : hub.stopping = false) (room : board.register.reply = .ok frame)
    (free : (board.register.board.claim frame session now).reply = .ok true)
    (greets : Network.Fits max (.connect (some programName)))
    (claims : Network.Fits max (.claimSession 1 session))
    (asks : Network.Fits max (.describeSession 2 session))
    (told : (Line.ofHub (.sessionDescribed 2
      ((board.register.board.claim frame session now).board.table.describe session))).utf8ByteSize ≤
        Line.maxSize) (path topic data name : String) :
    (start (.start (.linked ⟨hub, path, some programName, []⟩)) now
      (.send session topic data name)).1 = .ended (.success "") := by
  rcases Network.lone_connect consistent runs path (some programName) now with
    ⟨_, _, _, admitted, reached, lone, hosts, given⟩ | ⟨full, _⟩
  · cases room.symm.trans admitted
    have along : Along _ _ _ _ _ _ _ _ _ _ := ⟨lone, hosts, given⟩
    rcases along.lone.create along.hosts now session with ⟨_, _, reply, said, taken⟩ | ⟨refused, _⟩
    · cases free.symm.trans reply
      have sent := (along.taken taken).send now (packetOf frame session topic data)
      rcases sent.lone.describe sent.hosts now session with ⟨_, _, answered⟩ | ⟨tooLarge, _⟩
      · obtain ⟨found, described⟩ := answered told
        have connects : Network.connect _ now = (.ok frame, _) := Prod.ext reached rfl
        have creates : Network.create _ frame now session = (some (.ok true), _) :=
          Prod.ext said rfl
        have describes : Network.describe _ frame now session = (some (.ok found), _) :=
          Prod.ext described rfl
        have broadcasts : Network.broadcast _ frame now topic (.document (payloadOf data)) = _ :=
          (along.taken taken).lone.broadcast now session rfl
        rw [start, connects]
        simp only [run]
        rw [creates]
        simp only [andThen, if_true, flush]
        rw [broadcasts]
        simp only
        rw [← packetOf, describes]
      · exact absurd asks tooLarge
    · rcases refused claims with ⟨error, said⟩
      cases free.symm.trans said
  · rcases full running greets.2 with ⟨error, said⟩
    cases room.symm.trans said

/-- A hub nobody has connected to, with the limits that it has by default. -/
def freshHub : Hub :=
  .start {} Line.maxSize

theorem success_fresh (path topic data name : String) :
    (start (.start (.linked ⟨freshHub, path, some programName, []⟩)) .epoch
      (.send ⟨"s"⟩ topic data name)).1 = .ended (.success "") := by
  refine start_send_of_claimed (Hub.consistent_start {} Line.maxSize) rfl rfl rfl rfl
    ⟨?_, ?_⟩ ⟨?_, ?_⟩ ⟨?_, ?_⟩ ?_ path topic data name <;> decide +kernel

/-- A payload in its written form stands for itself. -/
theorem payloadOf_compact
    {document : Json} (portable : document.IsPortable Json.maxLevels) :
    payloadOf document.compact = document := by
  have read := portable.readJson .nil
  rw [List.append_nil] at read
  rw [payloadOf, Json.parse, Json.toList_compact, Json.readWhole, read]
  rfl

/--
A success of the command, at any hub, says this of its packet.  The frame was taken in, and it has
claimed the session or joined it; then its link was given the packet, and the hub was asked about the
session.  With the lines of the command, the switchboard was given the commands for all that, in this
order, and the packet at most once: on the route of a broadcast, with the topic, the session and the
identity of the frame, if its data are in at most 125 arrays and objects and its document is no
larger than its link and its hub take.  With integers only, the packet was given to the switchboard
just if that holds, and with the data that were sent.  Else it was lost, and the command has success
nevertheless.
-/
theorem delivered_after_success
    {limits : Limits} {past : List Hub.Moment} (reached : Hub.Reached limits max past hub)
    {path : String}
    (ended : (start (.start (.linked ⟨hub, path, some programName, []⟩)) now
      (.send session topic data name)).1 = .ended (.success output)) :
    ∃ (board : Switchboard) (frame : FrameId) (claimed : Bool) (finished : Network)
        (delivered : List (Instant × SessionBus.Command)),
      let packet := packetOf frame session topic data
      let lines := inputs hub.nextNumber now session topic data name frame claimed
      let fits := packet.data.document.depth ≤ dataLevels ∧
        Hub.sizeOfPacket .broadcast packet ≤ Line.maxSize ∧
          Hub.sizeOfPacket .broadcast packet ≤ max
      hub.exchange.board = some board ∧ board.register.reply = .ok frame ∧
        (board.register.board.claim frame session now).reply = .ok claimed ∧
        (∃ path displayName endpoint, finished.transport =
          .linked ⟨(hub.takeAll lines).1, path, displayName, [endpoint]⟩) ∧
        (start (.start (.linked ⟨hub, path, some programName, []⟩)) now
          (.send session topic data name)).2 = finished.close frame now ∧
        hub.given lines =
          admission now frame session name claimed ++ delivered ++ [(now, .describe session)] ∧
        (delivered = [] ∨
          fits ∧ ∃ data, delivered = [(now, .deliver .broadcast { packet with data := data })]) ∧
        (packet.data.document.onlyIntegers = true →
          delivered = if fits then [(now, .deliver .broadcast packet)] else []) := by
  obtain ⟨board, runs⟩ := Option.isSome_iff_exists.mp reached.consistent.running
  rcases start_send_success reached.consistent runs ended with
    ⟨frame, claimed, finished, room, reply, same, next, binding, left, along⟩
  rcases along.lone.linked with ⟨path, displayName, endpoint, linked, _⟩
  refine ⟨board, frame, claimed, finished, _, runs, room, reply,
    ⟨path, displayName, endpoint, linked⟩, same, along.given, ?_, fun integers =>
      Network.carried_of_onlyIntegers integers max frame now⟩
  rcases Network.carried_cases max frame now (packetOf frame session topic data) with
    lost | ⟨shallow, sent, taken, data, given⟩
  · exact .inl lost
  · exact .inr ⟨⟨shallow, sent, taken⟩, data, given⟩

/-- A payload that fits is given to the switchboard. -/
theorem number_delivered :
    let session : SessionId := ⟨"s"⟩
    let ended := start (.start (.linked ⟨freshHub, "hub.sock", some programName, []⟩)) .epoch
      (.send session "t" "42" programName)
    ended.1 = .ended (.success "") ∧
      (Instant.epoch, SessionBus.Command.deliver .broadcast (packetOf ⟨1⟩ session "t" "42")) ∈
        freshHub.given
          (inputs freshHub.nextNumber .epoch session "t" "42" programName ⟨1⟩ true) := by
  have reached : Hub.Reached {} Line.maxSize [] freshHub := .start
  have success := success_fresh "hub.sock" "t" "42" programName
  refine ⟨success, ?_⟩
  rcases delivered_after_success reached success with
    ⟨board, frame, claimed, _, _, runs, room, reply, _, _, given, _, carried⟩
  cases runs
  obtain rfl : frame = ⟨1⟩ := by cases room; rfl
  obtain rfl : claimed = true := by cases reply; rfl
  rw [given, carried (by decide +kernel), if_pos (by decide +kernel)]
  exact List.mem_append_left _ (List.mem_append_right _ (List.mem_singleton_self _))

/-- Arrays in one another. -/
def nested : Nat → Json
  | 0 => .array []
  | levels + 1 => .array [nested levels]

/-- A payload that the command takes may be too deep for the hub, and is lost without a word. -/
theorem nested_payload_lost :
    let session : SessionId := ⟨"s"⟩
    let data := (nested 125).compact
    let lines := inputs freshHub.nextNumber .epoch session "t" data programName ⟨1⟩ true
    let ended := start (.start (.linked ⟨freshHub, "hub.sock", some programName, []⟩)) .epoch
      (.send session "t" data programName)
    payloadOf data = nested 125 ∧ ended.1 = .ended (.success "") ∧
      (∃ finished : Network,
        (∃ path displayName endpoint, finished.transport =
          .linked ⟨(freshHub.takeAll lines).1, path, displayName, [endpoint]⟩) ∧
        ended.2 = finished.close ⟨1⟩ .epoch) ∧
      freshHub.given lines =
        [(.epoch, .register), (.epoch, .claim ⟨1⟩ session), (.epoch, .describe session)] := by
  have consistent : freshHub.Consistent Line.maxSize := Hub.consistent_start {} Line.maxSize
  have success := success_fresh "hub.sock" "t" (nested 125).compact programName
  have taken : payloadOf (nested 125).compact = nested 125 :=
    payloadOf_compact ⟨by decide +kernel, by decide +kernel⟩
  rcases start_send_success consistent rfl success with
    ⟨frame, claimed, finished, room, reply, same, next, binding, left, along⟩
  obtain rfl : frame = ⟨1⟩ := by cases room; rfl
  obtain rfl : claimed = true := by cases reply; rfl
  rcases along.lone.linked with ⟨path, displayName, endpoint, linked, _⟩
  have given := along.given
  rcases Network.carried_cases Line.maxSize ⟨1⟩ .epoch
    (packetOf ⟨1⟩ ⟨"s"⟩ "t" (nested 125).compact) with lost | ⟨shallow, _⟩
  · rw [lost] at given
    exact ⟨taken, success, ⟨finished, ⟨path, displayName, endpoint, linked⟩, same⟩, given⟩
  · rw [packetOf, taken] at shallow
    exact absurd shallow (by decide +kernel)

end Command.Control

end SessionBus
