import SessionBus.Proofs.Bus.History
import SessionBus.Proofs.Bus.Memory

/-!
# What receivers yield

A receiver yields the packets that the log of its bus tells are meant for its frame, each once and
in the order in which they were sent: those between the opening of the receiver and the closing of
its connector.

The proof follows one receiver along a run of the bus at rest.  `Bus.Awaits` says what waits for it;
an action takes packets from the front or adds the one that it sends at the end.
-/

namespace SessionBus

namespace Connector

theorem isClosed_dispatch (connector : Connector) (packet : Packet) :
    (connector.dispatch packet).isClosed = connector.isClosed :=
  (connector.kept_dispatch packet).isClosed

/-- What waits for a receiver after a packet was passed to its connector. -/
theorem waiting?_dispatch
    {connector : Connector} (sound : connector.topics.Sound) {ticket : Ticket} {topic : String}
    {packets : List Packet} (waits : connector.topics.waiting? ticket = some (topic, packets))
    (packet : Packet) :
    (connector.dispatch packet).topics.waiting? ticket =
      some (topic, packets ++
        if connector.isClosed = false ∧ connector.accepts packet = true ∧ packet.topic = topic
        then [packet] else []) := by
  unfold dispatch isClosed
  cases closed : connector.topics.closed with
  | true =>
      simp [waits]
  | false =>
      cases accepted : connector.accepts packet with
      | false =>
          simp [waits]
      | true =>
          by_cases here : topic = packet.topic
          · simp [TopicRouter.waiting?_publish sound closed, waits, here]
          · simp [TopicRouter.waiting?_publish sound closed, waits, here, Ne.symm here]

theorem accepts_ofSession
    (connector : Connector) (topic : String) (data : Json.Value) (sender : FrameId)
    (session : SessionId) :
    connector.accepts (.ofSession topic data sender session) = true ↔
      sender ≠ connector.frame ∧ connector.isMember session = true := by
  by_cases own : sender = connector.frame <;> simp [accepts, Packet.ofSession, own]

theorem accepts_toFrame
    (connector : Connector) (topic : String) (data : Json.Value)
    (sender destination : FrameId) :
    connector.accepts (.toFrame topic data sender destination) = true ↔
      sender ≠ connector.frame ∧ destination = connector.frame := by
  by_cases own : sender = connector.frame <;> simp [accepts, Packet.toFrame, own]

end Connector

namespace Bus

/-! ## Following a receiver -/

/-- The packets that wait for a receiver of a frame, and whether its connector is closed. -/
def Awaits
    (bus : Bus) (frame : FrameId) (ticket : Ticket) (topic : String) (closed : Bool)
    (packets : List Packet) : Prop :=
  ∃ connector, bus.connector? frame = some connector ∧ connector.isClosed = closed ∧
    connector.topics.waiting? ticket = some (topic, packets)

variable {bus : Bus} {frame : FrameId} {ticket : Ticket} {topic : String} {closed : Bool}
  {packets : List Packet}

/-- Connectors that change without changing their frames are found as before. -/
theorem connector?_map
    (board : Switchboard) {change : Connector → Connector}
    (kept : ∀ connector, (change connector).frame = connector.frame) (frame : FrameId) :
    connector? ⟨board, bus.connectors.map change⟩ frame =
      (bus.connector? frame).map change := by
  unfold connector?
  have same : (fun connector : Connector => connector.frame == frame) ∘ change =
      fun connector => connector.frame == frame := by
    funext connector
    rw [Function.comp_apply, kept]
  rw [List.find?_map, same]

/-- The connector of the receiver changes with all others. -/
theorem Awaits.map
    (awaits : bus.Awaits frame ticket topic closed packets) (board : Switchboard)
    {change : Connector → Connector}
    (kept : ∀ connector, (change connector).frame = connector.frame) {closed' : Bool}
    {packets' : List Packet}
    (changed : ∀ connector, bus.connector? frame = some connector →
      connector.isClosed = closed → connector.topics.waiting? ticket = some (topic, packets) →
        (change connector).isClosed = closed' ∧
          (change connector).topics.waiting? ticket = some (topic, packets')) :
    Awaits ⟨board, bus.connectors.map change⟩ frame ticket topic closed' packets' := by
  rcases awaits with ⟨connector, found, state, waits⟩
  refine ⟨change connector, ?_, changed connector found state waits⟩
  rw [connector?_map board kept, found, Option.map_some]

/-- The connector of the receiver is replaced by one that it has become. -/
theorem Awaits.replace
    (awaits : bus.Awaits frame ticket topic closed packets) {other : FrameId}
    {connector changed : Connector} (found : bus.connector? other = some connector)
    (kept : connector.Kept changed) {packets' : List Packet}
    (unchanged : other ≠ frame → packets' = packets)
    (waits : other = frame → connector.topics.waiting? ticket = some (topic, packets) →
      changed.topics.waiting? ticket = some (topic, packets')) :
    (bus.modify other fun _ => changed).Awaits frame ticket topic closed packets' := by
  rcases connector?_eq_some found with ⟨inside, owns⟩
  apply awaits.map bus.board
  · intro connector'
    split
    · rename_i same
      exact kept.frame.trans (owns.trans same.symm)
    · rfl
  · intro connector' found' state waiting
    rcases connector?_eq_some found' with ⟨_, owns'⟩
    by_cases same : other = frame
    · subst same
      obtain rfl : connector = connector' := Option.some.inj (found.symm.trans found')
      rw [if_pos owns]
      exact ⟨kept.isClosed.trans state, waits rfl waiting⟩
    · have different : connector'.frame ≠ other := by
        rw [owns']
        exact Ne.symm same
      rw [if_neg different, unchanged same]
      exact ⟨state, waiting⟩

theorem Awaits.modify
    (awaits : bus.Awaits frame ticket topic closed packets) (board : Switchboard)
    (other : FrameId) {change : Connector → Connector}
    (kept : ∀ connector, Connector.Kept connector (change connector))
    (topics : ∀ connector, (change connector).topics = connector.topics) :
    ({ bus with board }.modify other change).Awaits frame ticket topic closed packets := by
  apply awaits.map board
  · intro connector
    split
    · exact (kept connector).frame
    · rfl
  · intro connector _ state waits
    split
    · rw [(kept connector).isClosed, topics]
      exact ⟨state, waits⟩
    · exact ⟨state, waits⟩

/-- A packet waits behind the others if it is meant for the frame and on the topic. -/
theorem Awaits.spread
    (awaits : bus.Awaits frame ticket topic closed packets)
    {log : Log SwitchboardError} (remembers : bus.Remembers log) (packet : Packet)
    {meant : Prop} [Decidable meant]
    (accepted : ∀ connector, bus.connector? frame = some connector →
      (connector.accepts packet = true ∧ packet.topic = topic ↔ meant)) :
    (bus.spread packet).Awaits frame ticket topic closed
      (packets ++ if closed then [] else if meant then [packet] else []) := by
  apply awaits.map bus.board
  · intro connector
    exact (connector.kept_dispatch packet).frame
  · intro connector found state waits
    rcases connector?_eq_some found with ⟨inside, _⟩
    have sound := remembers.routers connector inside
    rw [connector.isClosed_dispatch, Connector.waiting?_dispatch sound waits]
    refine ⟨state, ?_⟩
    cases closed <;> simp [state, accepted connector found]

/--
The receiver gets what an entry of the log sends to it, unless its connector is closed, and gives
away what the entry takes from it.
-/
def Follows
    (log : Log SwitchboardError) (frame : FrameId) (ticket : Ticket) (topic : String)
    (closed : Bool) (packets : List Packet) (action : Action)
    (done : Outcome SwitchboardError × Bus) : Prop :=
  ∃ rest,
    done.2.Awaits frame ticket topic (closed || Log.closes frame (action, done.1)) rest ∧
      Log.takes frame ticket (action, done.1) ++ rest =
        packets ++
          if closed then [] else (log.meantFor? frame topic (action, done.1)).toList

/-- Most entries neither send nor take anything. -/
theorem follows_of_awaits
    {log : Log SwitchboardError} {action : Action} {done : Outcome SwitchboardError × Bus}
    (awaits : done.2.Awaits frame ticket topic closed packets)
    (unclosed : Log.closes frame (action, done.1) = false)
    (nothing : log.meantFor? frame topic (action, done.1) = none)
    (untouched : Log.takes frame ticket (action, done.1) = []) :
    Follows log frame ticket topic closed packets action done := by
  refine ⟨packets, ?_, ?_⟩
  · rw [unclosed, Bool.or_false]
    exact awaits
  · simp [nothing, untouched]

/-! ## Actions -/

variable {log : Log SwitchboardError}

/-- A packet is sent to the receiver if the connector accepts it. -/
theorem follows_spread
    (awaits : bus.Awaits frame ticket topic closed packets) (remembers : bus.Remembers log)
    {action : Action} {outcome : Outcome SwitchboardError} (packet : Packet)
    {meant : Prop} [Decidable meant]
    (accepted : ∀ connector, bus.connector? frame = some connector →
      (connector.accepts packet = true ∧ packet.topic = topic ↔ meant))
    (unclosed : Log.closes frame (action, outcome) = false)
    (untouched : Log.takes frame ticket (action, outcome) = [])
    (sends : log.meantFor? frame topic (action, outcome) = if meant then some packet else none) :
    Follows log frame ticket topic closed packets action (outcome, bus.spread packet) := by
  refine ⟨packets ++ if closed then [] else if meant then [packet] else [], ?_, ?_⟩
  · simp only [unclosed, Bool.or_false]
    exact awaits.spread remembers packet accepted
  · simp only [untouched, sends, List.nil_append]
    by_cases sent : meant <;> simp [sent]

theorem follows_connect
    (awaits : bus.Awaits frame ticket topic closed packets) (displayName : Option String) :
    Follows log frame ticket topic closed packets (.connect displayName) bus.connect := by
  refine follows_of_awaits ?_ rfl rfl rfl
  rcases awaits with ⟨connector, found, waits⟩
  refine ⟨connector, ?_, waits⟩
  cases reply : bus.board.register.reply with
  | error error =>
      simp only [connect, reply]
      exact found
  | ok new =>
      simp only [connect, reply]
      unfold connector? at found ⊢
      rw [List.find?_append, found, Option.some_or]

theorem follows_create
    (awaits : bus.Awaits frame ticket topic closed packets) (other : FrameId)
    (session : SessionId) :
    Follows log frame ticket topic closed packets (.create other session)
      (bus.create other session) := by
  cases reply : (bus.board.claim other session .epoch).reply with
  | error error =>
      simp only [create, reply]
      exact follows_of_awaits awaits rfl rfl rfl
  | ok claimed =>
      simp only [create, reply]
      refine follows_of_awaits ?_ rfl rfl rfl
      apply awaits.modify
      · intro connector
        exact connector.kept_afterClaim session claimed
      · intro connector
        unfold Connector.afterClaim
        split <;> rfl

theorem follows_join
    (awaits : bus.Awaits frame ticket topic closed packets) (other : FrameId)
    (session : SessionId) (displayName : String) :
    Follows log frame ticket topic closed packets (.join other session displayName)
      (bus.join other session displayName) := by
  refine follows_of_awaits ?_ rfl rfl rfl
  apply awaits.modify
  · intro connector
    exact connector.kept_afterJoin session _
  · intro connector
    unfold Connector.afterJoin
    split <;> rfl

theorem follows_broadcast
    (awaits : bus.Awaits frame ticket topic closed packets) (remembers : bus.Remembers log)
    {sender : FrameId} (isOpen : bus.isOpen sender = true) (subject : String)
    (payload : Payload) :
    Follows log frame ticket topic closed packets (.broadcast sender subject payload)
      (match payload.encode subject with
      | .ok data => (.sent (.ok ()), bus.broadcast sender subject data)
      | .error error => (.sent (.error error), bus)) := by
  rcases exists_of_isOpen isOpen with ⟨connector, found, _⟩
  rcases connector?_eq_some found with ⟨inside, owns⟩
  have works : connector.binding.session? = log.current? sender := by
    rw [remembers.working connector inside, owns]
  cases encoded : payload.encode subject with
  | error error =>
      exact follows_of_awaits awaits rfl rfl rfl
  | ok data =>
      simp only [broadcast, found, Option.bind_some, Connector.broadcast?, works]
      cases current : log.current? sender with
      | none =>
          refine follows_of_awaits awaits rfl ?_ rfl
          simp [Log.meantFor?, current]
      | some session =>
          have accepted : ∀ receiving, bus.connector? frame = some receiving →
              (receiving.accepts (.ofSession subject data sender session) = true ∧
                  subject = topic ↔
                subject = topic ∧ sender ≠ frame ∧ log.hasEntered frame session = true) := by
            intro receiving receives
            rcases connector?_eq_some receives with ⟨known, rfl⟩
            rw [Connector.accepts_ofSession, remembers.memberships receiving known, and_comm]
          simp only [Option.map_some, Option.elim_some, owns]
          apply follows_spread awaits remembers _ accepted rfl rfl
          simp only [Log.meantFor?, current, encoded]

theorem follows_unicast
    (awaits : bus.Awaits frame ticket topic closed packets) (remembers : bus.Remembers log)
    (sender : FrameId) (subject : String) (payload : Payload) (destination : FrameId) :
    Follows log frame ticket topic closed packets (.unicast sender subject payload destination)
      (match payload.encode subject with
      | .ok data => (.sent (.ok ()), bus.spread (.toFrame subject data sender destination))
      | .error error => (.sent (.error error), bus)) := by
  cases encoded : payload.encode subject with
  | error error =>
      exact follows_of_awaits awaits rfl rfl rfl
  | ok data =>
      have accepted : ∀ receiving, bus.connector? frame = some receiving →
          (receiving.accepts (.toFrame subject data sender destination) = true ∧
              subject = topic ↔
            subject = topic ∧ sender ≠ frame ∧ destination = frame) := by
        intro receiving receives
        rcases connector?_eq_some receives with ⟨_, rfl⟩
        rw [Connector.accepts_toFrame, and_comm]
      apply follows_spread awaits remembers _ accepted rfl rfl
      simp only [Log.meantFor?, encoded]

theorem follows_receiver
    (awaits : bus.Awaits frame ticket topic closed packets) (remembers : bus.Remembers log)
    (other : FrameId) (subject : String) :
    Follows log frame ticket topic closed packets (.receiver other subject)
      (bus.receiver other subject) := by
  unfold receiver
  cases found : bus.connector? other with
  | none =>
      exact follows_of_awaits awaits rfl rfl rfl
  | some connector =>
      refine follows_of_awaits ?_ rfl rfl rfl
      apply awaits.replace found (connector.kept_receiver subject)
      · intro _
        rfl
      · intro _ waits
        rcases connector?_eq_some found with ⟨inside, _⟩
        have sound := remembers.routers connector inside
        have old : ticket ≠ connector.topics.next :=
          Nat.ne_of_lt (TopicRouter.lt_next_of_waiting? sound waits)
        rw [Connector.receiver]
        simp [TopicRouter.waiting?_subscribe sound, old, waits]

/-- A receiver is read.  The one that is followed gives packets from its front away; what waits for
any other stays as it is. -/
theorem follows_reading
    (awaits : bus.Awaits frame ticket topic closed packets) {other : FrameId} {used : Ticket}
    {connector changed : Connector} (found : bus.connector? other = some connector)
    (kept : connector.Kept changed) {action : Action} {taken : List Packet}
    (unclosed : Log.closes (ε := SwitchboardError) frame (action, .yielded taken) = false)
    (nothing : log.meantFor? frame topic (action, .yielded taken) = none)
    (takes : Log.takes (ε := SwitchboardError) frame ticket (action, .yielded taken) =
      if other = frame ∧ used = ticket then taken else [])
    (own : connector.topics.waiting? used = some (topic, packets) →
      ∃ left, packets = taken ++ left ∧ changed.topics.waiting? used = some (topic, left))
    (beside : ticket ≠ used → changed.topics.waiting? ticket = connector.topics.waiting? ticket) :
    Follows log frame ticket topic closed packets action
      (.yielded taken, bus.modify other fun _ => changed) := by
  by_cases mine : other = frame ∧ used = ticket
  · rw [if_pos mine] at takes
    rcases mine with ⟨rfl, rfl⟩
    have waits : connector.topics.waiting? used = some (topic, packets) := by
      rcases awaits with ⟨connector', found', _, waits⟩
      obtain rfl : connector = connector' := Option.some.inj (found.symm.trans found')
      exact waits
    rcases own waits with ⟨left, split, remains⟩
    refine ⟨left, ?_, ?_⟩
    · rw [unclosed, Bool.or_false]
      exact awaits.replace found kept (absurd rfl) fun _ _ => remains
    · simp [takes, nothing, split]
  · rw [if_neg mine] at takes
    refine follows_of_awaits ?_ unclosed nothing takes
    apply awaits.replace found kept
    · intro _
      rfl
    · intro same waits
      rw [beside fun equal => mine ⟨same, equal.symm⟩, waits]

theorem follows_receive
    (awaits : bus.Awaits frame ticket topic closed packets) (other : FrameId) (used : Ticket) :
    Follows log frame ticket topic closed packets (.receive other used)
      (bus.receive other used) := by
  unfold receive
  cases found : bus.connector? other with
  | none =>
      exact follows_of_awaits awaits rfl rfl (by simp [Log.takes])
  | some connector =>
      apply follows_reading awaits found (connector.kept_receive used) rfl rfl rfl
      · intro waits
        rcases TopicRouter.receive_of_waiting? waits used with ⟨first, left⟩
        refine ⟨packets.tail, ?_, by simp [left, waits]⟩
        rw [first]
        cases packets <;> rfl
      · exact TopicRouter.waiting?_receive_other connector.topics

theorem follows_drain
    (awaits : bus.Awaits frame ticket topic closed packets) (other : FrameId) (used : Ticket) :
    Follows log frame ticket topic closed packets (.drain other used)
      (bus.drain other used) := by
  unfold drain
  cases found : bus.connector? other with
  | none =>
      exact follows_of_awaits awaits rfl rfl (by simp [Log.takes])
  | some connector =>
      have drained : ∀ ticket, (connector.topics.drain used).2.waiting? ticket =
          (connector.topics.waiting? ticket).map fun found =>
            (found.1, if ticket = used then [] else found.2) :=
        TopicRouter.waiting?_setPackets connector.topics used []
      apply follows_reading awaits found (connector.kept_drain used) rfl rfl rfl
      · intro waits
        exact ⟨[], by simp [TopicRouter.drain_of_waiting? waits], by simp [drained, waits]⟩
      · intro different
        simp [drained, different]

theorem follows_dropReceiver
    (awaits : bus.Awaits frame ticket topic closed packets) {other : FrameId} {used : Ticket}
    (kept : ¬(other = frame ∧ used = ticket)) :
    Follows log frame ticket topic closed packets (.dropReceiver other used)
      (.done, bus.dropReceiver other used) := by
  refine follows_of_awaits ?_ rfl rfl rfl
  apply awaits.map bus.board
  · intro connector
    split <;> rfl
  · intro connector found state waits
    rcases connector?_eq_some found with ⟨_, owns⟩
    split
    · rename_i same
      have different : ticket ≠ used := by
        intro equal
        exact kept ⟨same.symm.trans owns, equal.symm⟩
      exact ⟨state, (TopicRouter.waiting?_drop connector.topics different).trans waits⟩
    · exact ⟨state, waits⟩

theorem follows_close
    (awaits : bus.Awaits frame ticket topic closed packets) (other : FrameId) :
    Follows log frame ticket topic closed packets (.close other) (.done, bus.close other) := by
  refine ⟨packets, ?_, ?_⟩
  · apply awaits.map (bus.board.unregister other).board
    · intro connector
      split <;> rfl
    · intro connector found state waits
      rcases connector?_eq_some found with ⟨_, rfl⟩
      by_cases same : connector.frame = other
      · simp only [same, if_true, Log.closes, BEq.rfl, Bool.or_true]
        exact ⟨rfl, waits⟩
      · have different : (other == connector.frame) = false := by
          simpa using Ne.symm same
        simp only [same, if_false, Log.closes, different, Bool.or_false]
        exact ⟨state, waits⟩
  · simp [Log.takes, Log.meantFor?]

/-- Every action but the one that drops the receiver is followed. -/
theorem follows_perform
    (awaits : bus.Awaits frame ticket topic closed packets) (remembers : bus.Remembers log)
    {action : Action} (kept : action ≠ .dropReceiver frame ticket) :
    Follows log frame ticket topic closed packets action (bus.perform action) := by
  have guarded (other : FrameId) (act : Outcome SwitchboardError × Bus)
      (follows : bus.isOpen other = true →
        Follows log frame ticket topic closed packets action act) :
      Follows log frame ticket topic closed packets action (bus.ifOpen other act) := by
    apply ifOpen_cases follows
    exact follows_of_awaits awaits (by cases action <;> rfl) (by cases action <;> rfl)
      (by cases action <;> rfl)
  cases action with
  | connect displayName =>
      exact follows_connect awaits displayName
  | create other session =>
      exact guarded other _ fun _ => follows_create awaits other session
  | join other session displayName =>
      exact guarded other _ fun _ => follows_join awaits other session displayName
  | describe other session =>
      exact guarded other _ fun _ => follows_of_awaits awaits rfl rfl rfl
  | broadcast sender subject payload =>
      exact guarded sender _ fun isOpen => follows_broadcast awaits remembers isOpen subject payload
  | unicast sender subject payload destination =>
      exact guarded sender _ fun _ =>
        follows_unicast awaits remembers sender subject payload destination
  | receiver other subject =>
      exact guarded other _ fun _ => follows_receiver awaits remembers other subject
  | receive other used =>
      exact follows_receive awaits other used
  | drain other used =>
      exact follows_drain awaits other used
  | dropReceiver other used =>
      apply follows_dropReceiver awaits
      rintro ⟨rfl, rfl⟩
      exact kept rfl
  | close other =>
      exact guarded other _ fun _ => follows_close awaits other

/-- A receiver that is opened has nothing waiting. -/
theorem awaits_of_opened
    {bus : Bus} {log : Log SwitchboardError} (remembers : bus.Remembers log) {frame : FrameId}
    {topic : String} {ticket : Ticket}
    (opened : (bus.perform (.receiver frame topic)).1 = .opened ticket) :
    (bus.perform (.receiver frame topic)).2.Awaits frame ticket topic false [] := by
  have performed : bus.perform (.receiver frame topic) =
      bus.ifOpen frame (bus.receiver frame topic) := rfl
  rw [performed] at opened ⊢
  unfold ifOpen at opened ⊢
  cases isOpen : bus.isOpen frame with
  | false =>
      simp [isOpen] at opened
  | true =>
      rcases exists_of_isOpen isOpen with ⟨connector, found, unclosed⟩
      rcases connector?_eq_some found with ⟨inside, owns⟩
      simp only [isOpen, if_true, receiver, found, Outcome.opened.injEq] at opened ⊢
      refine ⟨(connector.receiver topic).2, ?_, unclosed, ?_⟩
      · have kept : ∀ other : Connector, (if other.frame = frame
            then (connector.receiver topic).2 else other).frame = other.frame := by
          intro other
          split
          · rename_i same
            exact owns.trans same.symm
          · rfl
        exact (connector?_map bus.board kept frame).trans (by simp [found, owns])
      · have waits := TopicRouter.waiting?_subscribe (remembers.routers connector inside) topic
          ticket
        exact waits.trans (if_pos opened.symm)

/-! ## Runs -/

/--
What a receiver has yielded after a run, with what still waits for it, is what waited for it before
and what the log of the run delivers.
-/
theorem yields_of_awaits
    (awaits : bus.Awaits frame ticket topic closed packets) (remembers : bus.Remembers log)
    (sound : bus.Sound) (script : List Action)
    (kept : ∀ action ∈ script, action ≠ .dropReceiver frame ticket)
    (few : (bus.afterActions script).connectors.length < UInt64.size) :
    ∃ closed' rest,
      (bus.afterActions script).Awaits frame ticket topic closed' rest ∧
        Log.yields frame ticket (bus.log script) ++ rest =
          packets ++ if closed then [] else log.deliveries frame topic (bus.log script) := by
  -- The log grows with the run: what is meant for the frame depends on all that came before.
  induction script generalizing bus closed packets log with
  | nil =>
      refine ⟨closed, packets, awaits, ?_⟩
      simp [Bus.log, Log.yields, Log.deliveries]
  | cons action rest ih =>
      have fewNow : (bus.perform action).2.connectors.length < UInt64.size :=
        Nat.lt_of_le_of_lt (length_connectors_le_afterActions _ rest) few
      obtain ⟨waiting, awaitsNow, taken⟩ :=
        follows_perform awaits remembers (kept action List.mem_cons_self)
      obtain ⟨closed', left, awaitsLater, later⟩ :=
        ih awaitsNow (remembers_perform remembers sound action fewNow)
          (sound_perform sound action fewNow)
          (fun other inside => kept other (List.mem_cons_of_mem _ inside)) few
      refine ⟨closed', left, awaitsLater, ?_⟩
      have split : Log.yields frame ticket (bus.log (action :: rest)) =
          Log.takes frame ticket (action, (bus.perform action).1) ++
            Log.yields frame ticket ((bus.perform action).2.log rest) :=
        List.flatMap_cons
      rw [split, List.append_assoc, later, ← List.append_assoc, taken, List.append_assoc]
      congr 1
      cases closed with
      | true =>
          simp
      | false =>
          cases closing : Log.closes frame (action, (bus.perform action).1) with
          | true =>
              have nothing : log.meantFor? frame topic (action, (bus.perform action).1) = none :=
                Log.meantFor?_of_closes log topic closing
              simp [Bus.log, Log.deliveries, closing, nothing]
          | false =>
              simp [Bus.log, Log.deliveries, closing]

/-- The connectors of a bus know at the end of a run what the whole log tells. -/
theorem remembers_afterActions
    (remembers : bus.Remembers log) (sound : bus.Sound) (script : List Action)
    (few : (bus.afterActions script).connectors.length < UInt64.size) :
    (bus.afterActions script).Remembers (log ++ bus.log script) ∧
      (bus.afterActions script).Sound := by
  induction script generalizing bus log with
  | nil =>
      simp only [afterActions, Bus.log, List.append_nil]
      exact ⟨remembers, sound⟩
  | cons action rest ih =>
      have fewNow : (bus.perform action).2.connectors.length < UInt64.size :=
        Nat.lt_of_le_of_lt (length_connectors_le_afterActions _ rest) few
      have after := ih (remembers_perform remembers sound action fewNow)
        (sound_perform sound action fewNow) few
      rw [List.append_assoc, List.singleton_append] at after
      exact after

end Bus

/-! ## Logs of networks -/

namespace Outcome

variable {ε : Type}

/-- What of an outcome matters to deliveries: not the errors, and no records of sessions. -/
def outline : Outcome ε → Outcome Unit
  | .connected result => .connected (result.mapError fun _ => ())
  | .decided result => .decided (result.mapError fun _ => ())
  | .described _ => .described (.ok none)
  | .sent result => .sent result
  | .opened ticket => .opened ticket
  | .yielded packets => .yielded packets
  | .done => .done
  | .unanswered => .unanswered
  | .noConnector => .noConnector

theorem outline_timeless (outcome : Outcome ε) : outcome.timeless.outline = outcome.outline := by
  cases outcome <;> rfl

theorem outline_under (faults : Faults) (outcome : Outcome SwitchboardError) :
    (outcome.under faults).outline = outcome.outline := by
  cases outcome with
  | connected result =>
      cases result <;> rfl
  | decided result =>
      cases result <;> rfl
  | _ =>
      rfl

theorem eq_opened_of_outline
    {outcome : Outcome ε} {ticket : Ticket} (same : outcome.outline = .opened ticket) :
    outcome = .opened ticket := by
  cases outcome <;> simp_all [outline]

end Outcome

namespace Log

variable {ε : Type}

def outline (log : Log ε) : Log Unit :=
  log.map fun entry => (entry.1, entry.2.outline)

theorem entered?_outline (entry : Action × Outcome ε) :
    entered? (entry.1, entry.2.outline) = entered? entry := by
  rcases entry with ⟨action, outcome⟩
  cases outcome with
  | decided result =>
      cases result with
      | error error =>
          cases action <;> rfl
      | ok decision =>
          cases decision <;> cases action <;> rfl
  | _ =>
      cases action <;> rfl

theorem closes_outline (frame : FrameId) (entry : Action × Outcome ε) :
    closes frame (entry.1, entry.2.outline) = closes frame entry := by
  rcases entry with ⟨action, outcome⟩
  cases outcome <;> cases action <;> rfl

theorem takes_outline (frame : FrameId) (ticket : Ticket) (entry : Action × Outcome ε) :
    takes frame ticket (entry.1, entry.2.outline) = takes frame ticket entry := by
  rcases entry with ⟨action, outcome⟩
  cases outcome <;> cases action <;> rfl

theorem filterMap_entered?_outline (log : Log ε) :
    log.outline.filterMap entered? = log.filterMap entered? := by
  have same : (entered? ∘ fun entry : Action × Outcome ε => (entry.1, entry.2.outline)) =
      entered? := by
    funext entry
    exact entered?_outline entry
  rw [outline, List.filterMap_map, same]

theorem current?_outline (log : Log ε) : log.outline.current? = log.current? := by
  funext frame
  rw [current?, current?, filterMap_entered?_outline]

theorem hasEntered_outline (log : Log ε) : log.outline.hasEntered = log.hasEntered := by
  funext frame session
  rw [hasEntered, hasEntered, filterMap_entered?_outline]

theorem meantFor?_outline
    (past : Log ε) (frame : FrameId) (topic : String) (entry : Action × Outcome ε) :
    past.outline.meantFor? frame topic (entry.1, entry.2.outline) =
      past.meantFor? frame topic entry := by
  rcases entry with ⟨action, outcome⟩
  cases outcome with
  | sent result =>
      cases result <;> cases action <;>
        simp [meantFor?, Outcome.outline, current?_outline, hasEntered_outline]
  | _ =>
      cases action <;> rfl

theorem deliveries_outline (past : Log ε) (frame : FrameId) (topic : String) (log : Log ε) :
    past.outline.deliveries frame topic log.outline = past.deliveries frame topic log := by
  induction log generalizing past with
  | nil =>
      rfl
  | cons entry rest ih =>
      have longer : past.outline ++ [(entry.1, entry.2.outline)] = outline (past ++ [entry]) := by
        simp [outline]
      have shape : outline (entry :: rest) = (entry.1, entry.2.outline) :: outline rest := rfl
      rw [shape, deliveries, deliveries, closes_outline, meantFor?_outline, longer, ih]

theorem outline_append (log rest : Log ε) : outline (log ++ rest) = log.outline ++ rest.outline :=
  List.map_append

theorem yields_outline (frame : FrameId) (ticket : Ticket) (log : Log ε) :
    yields frame ticket log.outline = yields frame ticket log := by
  simp only [yields, outline, List.flatMap_map, takes_outline]

end Log

namespace Network

/-- The bus of connectors that share an exchange in memory. -/
def inMemory (limits : Limits) : Network :=
  start (.direct (.start limits))

theorem fitsAll_inMemory (network : Network) (script : List (Instant × Action)) :
    FitsAll (fun _ _ _ => True) network script := by
  induction script generalizing network with
  | nil =>
      trivial
  | cons timed rest ih =>
      exact ⟨fun _ _ => trivial, ih _⟩

/-- A run in memory is one of the bus at rest. -/
theorem run_inMemory
    {network : Network} {bus : Bus} (shown : Shows Memory.Related network bus)
    (sound : bus.Sound) (script : List (Instant × Action))
    (few : (network.afterActions script).connectors.length < UInt64.size) :
    Log.outline (network.log script) = Log.outline (bus.log (script.map (·.2))) ∧
      Shows Memory.Related (network.afterActions script) (bus.afterActions (script.map (·.2))) ∧
      (bus.afterActions (script.map (·.2))).Sound := by
  have fit := fitsAll_inMemory network script
  have fewBus := few_of_shows Memory.serves shown sound script few fit
  rcases run_agrees Memory.serves shown sound script fewBus fit with ⟨logs, shownAfter, soundAfter⟩
  refine ⟨?_, shownAfter, soundAfter⟩
  have outlined := congrArg Log.outline logs
  simpa [Log.outline, Function.comp_def, Outcome.outline_timeless, Outcome.outline_under]
    using outlined

theorem shows_inMemory (limits : Limits) :
    Shows Memory.Related (inMemory limits) (Bus.start limits) :=
  ⟨rfl, Memory.related_start limits⟩

/-- What a network yields to a receiver, if its log so far tells the same as that of the bus. -/
theorem yields_of_shows
    {network : Network} {bus : Bus} (shown : Shows Memory.Related network bus)
    (sound : bus.Sound) {busPast : Log SwitchboardError} (remembers : bus.Remembers busPast)
    {past : Log TransportError} (same : past.outline = busPast.outline)
    {frame : FrameId} {ticket : Ticket} {topic : String}
    (awaits : bus.Awaits frame ticket topic false []) (after : List (Instant × Action))
    (kept : ∀ timed ∈ after, timed.2 ≠ .dropReceiver frame ticket)
    (few : (network.afterActions after).connectors.length < UInt64.size) :
    Log.yields frame ticket (network.log after) ++
        ((network.afterActions after).drain frame ticket).1 =
      past.deliveries frame topic (network.log after) := by
  rcases run_inMemory shown sound after few with ⟨logs, shownAfter, _⟩
  have keptBus : ∀ action ∈ after.map (·.2), action ≠ .dropReceiver frame ticket := by
    simpa only [List.forall_mem_map] using kept
  have fewBus : (bus.afterActions (after.map (·.2))).connectors.length < UInt64.size := by
    rw [← shownAfter.connectors]
    exact few
  obtain ⟨closed, rest, ⟨connector, found, _, waits⟩, yielded⟩ :=
    Bus.yields_of_awaits awaits remembers sound (after.map (·.2)) keptBus fewBus
  have left : ((network.afterActions after).drain frame ticket).1 = rest := by
    unfold drain
    rw [shownAfter.connector?, found]
    exact TopicRouter.drain_of_waiting? waits
  rw [left, ← Log.yields_outline, ← Log.deliveries_outline, logs, same, Log.yields_outline,
    Log.deliveries_outline]
  simpa using yielded

/-- The connectors of a network know what its log tells, if it tells the same as that of the bus. -/
theorem sessions_of_shows
    {network : Network} {bus : Bus} (shown : Shows Memory.Related network bus)
    {busLog : Log SwitchboardError} (remembers : bus.Remembers busLog)
    {log : Log TransportError} (same : log.outline = busLog.outline) :
    ∀ connector ∈ network.connectors,
      connector.binding.session? = log.current? connector.frame ∧
        ∀ session, connector.isMember session = log.hasEntered connector.frame session := by
  intro connector inside
  rw [shown.connectors] at inside
  rw [← Log.current?_outline, ← Log.hasEntered_outline, same, Log.current?_outline,
    Log.hasEntered_outline]
  constructor
  · exact remembers.working connector inside
  · intro session
    rw [Bool.eq_iff_iff]
    exact remembers.memberships connector inside session

/-- Who works in no session broadcasts nothing. -/
theorem broadcast_unbound
    {network : Network} {bus : Bus} (shown : Shows Memory.Related network bus)
    (sound : bus.Sound) {connector : Connector} (inside : connector ∈ network.connectors)
    (unbound : connector.binding = .unbound) (now : Instant) (topic : String)
    (payload : Payload) :
    (network.perform now (.broadcast connector.frame topic payload)).2 = network := by
  have found : network.connector? connector.frame = some connector := by
    rw [shown.connectors] at inside
    rw [shown.connector?]
    exact Bus.connector?_of_mem sound inside
  have silent : ∀ data, connector.broadcast? topic data = none := by
    intro data
    simp [Connector.broadcast?, unbound, Binding.session?]
  simp only [perform, ifOpen, broadcast, found, Option.bind_some, silent]
  split
  · cases payload.encode topic <;> rfl
  · rfl

/--
Whatever happens on a bus in memory before and after a receiver is opened, the receiver yields the
packets that the log delivers to it, as long as it is not dropped: what it has yielded, with what
still waits for it, are the unicasts to its frame and the broadcasts in sessions that its frame had
entered by then, sent on its topic by other frames until its connector was closed.  The connectors
know what the log tells of their sessions, and who works in no session broadcasts nothing.

Identities have 64 bits, so there is no telling the frames of more connectors apart.
-/
theorem receivers_yield_deliveries
    (limits : Limits) (before after : List (Instant × Action)) (now : Instant)
    (frame : FrameId) (topic : String) {ticket : Ticket}
    (opened :
      (((inMemory limits).afterActions before).perform now (.receiver frame topic)).1 =
        .opened ticket)
    (kept : ∀ timed ∈ after, timed.2 ≠ .dropReceiver frame ticket)
    (few :
      ((inMemory limits).afterActions
        (before ++ [(now, .receiver frame topic)] ++ after)).connectors.length < UInt64.size) :
    let past := (inMemory limits).log (before ++ [(now, .receiver frame topic)])
    let subscribed := (inMemory limits).afterActions (before ++ [(now, .receiver frame topic)])
    let final := subscribed.afterActions after
    Log.yields frame ticket (subscribed.log after) ++ (final.drain frame ticket).1 =
        Log.deliveries past frame topic (subscribed.log after) ∧
      (∀ connector ∈ final.connectors,
        connector.binding.session? =
            Log.current? (past ++ subscribed.log after) connector.frame ∧
          ∀ session, connector.isMember session =
            Log.hasEntered (past ++ subscribed.log after) connector.frame session) ∧
      (∀ connector ∈ final.connectors, connector.binding = .unbound →
        ∀ moment subject payload,
          (final.perform moment (.broadcast connector.frame subject payload)).2 = final) := by
  intro past subscribed final
  let network := (inMemory limits).afterActions before
  let bus := (Bus.start limits).afterActions (before.map (·.2))
  let opening : Action := .receiver frame topic
  have sameSubscribed : subscribed = (network.perform now opening).2 :=
    afterActions_append (inMemory limits) before [(now, opening)]
  have samePast : past =
      (inMemory limits).log before ++ [(opening, (network.perform now opening).1)] :=
    log_append (inMemory limits) before [(now, opening)]
  have fewFinal : final.connectors.length < UInt64.size := by
    rw [afterActions_append] at few
    exact few
  have fewSubscribed : (network.perform now opening).2.connectors.length < UInt64.size := by
    rw [← sameSubscribed]
    exact Nat.lt_of_le_of_lt (length_connectors_le_afterActions subscribed after) fewFinal
  have fewBefore : network.connectors.length < UInt64.size :=
    Nat.lt_of_le_of_lt (length_connectors_le_perform network now opening) fewSubscribed
  -- Up to the receiver the network shows the bus, whose connectors know the log.
  obtain ⟨logsBefore, shownBefore, soundBefore⟩ :=
    run_inMemory (shows_inMemory limits) (Bus.sound_start limits) before fewBefore
  obtain ⟨remembersBefore, _⟩ :=
    Bus.remembers_afterActions (Bus.remembers_start limits) (Bus.sound_start limits)
      (before.map (·.2)) (shownBefore.connectors ▸ fewBefore)
  have fewBus : (bus.perform opening).2.connectors.length < UInt64.size := by
    rw [← shownBefore.length_connectors_perform Memory.serves now opening fun _ _ => trivial]
    exact fewSubscribed
  have agrees := agrees_perform Memory.serves shownBefore soundBefore now opening fewBus
    fun _ _ => trivial
  have sound := Bus.sound_perform soundBefore opening fewBus
  have remembers := Bus.remembers_perform remembersBefore soundBefore opening fewBus
  have outcome : (bus.perform opening).1.outline = (network.perform now opening).1.outline := by
    rw [← Outcome.outline_under Memory.faults, ← agrees.outcome, Outcome.outline_timeless]
  have awaits := Bus.awaits_of_opened remembersBefore
    (Outcome.eq_opened_of_outline (outcome.trans (congrArg Outcome.outline opened)))
  have same : Log.outline past =
      Log.outline ([] ++ (Bus.start limits).log (before.map (·.2)) ++
        [(opening, (bus.perform opening).1)]) := by
    rw [samePast, Log.outline_append, Log.outline_append, logsBefore, List.nil_append]
    simp only [Log.outline, List.map_singleton, outcome]
  have sameFinal : final = (network.perform now opening).2.afterActions after :=
    congrArg (·.afterActions after) sameSubscribed
  clear_value past final subscribed
  subst sameSubscribed sameFinal
  -- From then on the bus is followed to the end.
  rcases run_inMemory agrees.shows sound after fewFinal with ⟨logsAfter, shownFinal, soundFinal⟩
  obtain ⟨remembersFinal, _⟩ :=
    Bus.remembers_afterActions remembers sound (after.map (·.2))
      (shownFinal.connectors ▸ fewFinal)
  refine ⟨yields_of_shows agrees.shows sound remembers same awaits after kept fewFinal, ?_, ?_⟩
  · apply sessions_of_shows shownFinal remembersFinal
    rw [Log.outline_append, Log.outline_append, same, logsAfter]
  · intro connector inside unbound moment subject payload
    exact broadcast_unbound shownFinal soundFinal inside unbound moment subject payload

/-- A guest of a session gets what its owner broadcasts and what others send to it alone, but
nothing that was sent before it listened. -/
theorem guest_yields_news :
    (((inMemory ⟨4, 4⟩).afterActions
      [(.epoch, .connect none), (.epoch, .connect none), (.epoch, .create ⟨1⟩ ⟨"plan"⟩),
        (.epoch, .join ⟨2⟩ ⟨"plan"⟩ "guest"), (.epoch, .broadcast ⟨1⟩ "news" .null),
        (.epoch, .receiver ⟨2⟩ "news"), (.epoch, .broadcast ⟨1⟩ "news" (.bool true)),
        (.epoch, .unicast ⟨1⟩ "news" (.text "aside") ⟨2⟩)]).drain ⟨2⟩ 0).1 =
      [.ofSession "news" (Json.toValue (.bool true)) ⟨1⟩ ⟨"plan"⟩,
        .toFrame "news" (Json.toValue (.string "aside")) ⟨1⟩ ⟨2⟩] := by
  have yielded := (receivers_yield_deliveries ⟨4, 4⟩
    [(.epoch, .connect none), (.epoch, .connect none), (.epoch, .create ⟨1⟩ ⟨"plan"⟩),
      (.epoch, .join ⟨2⟩ ⟨"plan"⟩ "guest"), (.epoch, .broadcast ⟨1⟩ "news" .null)]
    [(.epoch, .broadcast ⟨1⟩ "news" (.bool true)),
      (.epoch, .unicast ⟨1⟩ "news" (.text "aside") ⟨2⟩)]
    .epoch ⟨2⟩ "news" (show _ = Outcome.opened 0 from rfl) (by simp) (by decide)).1
  exact yielded

end Network

end SessionBus
