import SessionBus.Proofs.Relay.Receiving

/-!
# Packets keep their order from one link to another

Between the call that sends a packet and the reader that hands it on lie a queue of lines, the bytes
to the hub, the queue of the switchboard, an inbox and the bytes to the receiver, and the tasks of
all connections go on in any order.  Read from its end to its beginning, this way holds at every
moment what the receiver has handed on, and then all that is still under way, in the order in which
the sender has sent it.
-/

namespace SessionBus

/-- The packets whose route includes a frame. -/
def Route.packetsFor (frame : FrameId) (entries : List (Route × Packet)) : List Packet :=
  entries.filterMap fun (route, packet) =>
    if route.includes frame packet.sender then some packet else none

namespace Strand

/-- The packets of a sender that a link has handed on. -/
def handedFrom (strand : Strand) (sender : FrameId) : List Packet :=
  strand.handed.filter (·.sender == sender)

/-- The packets that a link has taken to be sent on a route that includes a frame. -/
def acceptedFor (strand : Strand) (frame : FrameId) : List Packet :=
  Route.packetsFor frame strand.accepted

end Strand

/-! ## What is handed over and what is read -/

/-- A registered frame is handed the packets of a sender whose route includes it. -/
theorem Step.filter_handed
    {step : Step} {sender frame : FrameId}
    (registered : ∀ entry, step.command.sent? sender = some entry →
      frame ∈ step.before.frames.toList) :
    (step.handed frame).filter (·.sender == sender) =
      Route.packetsFor frame (step.command.sent? sender).toList := by
  rw [handed_eq]
  cases command : step.command with
  | deliver route packet =>
      rw [command] at registered
      by_cases own : packet.sender = sender
      · subst own
        have sent : (Command.deliver route packet).sent? packet.sender = some (route, packet) :=
          if_pos rfl
        rw [if_pos (registered _ sent), sent]
        by_cases included : route.includes frame packet.sender = true <;>
          simp [Command.routed?, Route.packetsFor, included]
      · have unsent : (Command.deliver route packet).sent? sender = none := if_neg own
        rw [unsent]
        split
        · by_cases included : route.includes frame packet.sender = true <;>
            simp [Command.routed?, Route.packetsFor, included, own]
        · rfl
  | register | unregister | claim | join | describe | list | count =>
      split <;> rfl

theorem Step.filter_allHanded
    {steps : List Step} {sender frame : FrameId}
    (registered : ∀ step ∈ steps, ∀ entry, step.command.sent? sender = some entry →
      frame ∈ step.before.frames.toList) :
    (allHanded steps frame).filter (·.sender == sender) =
      Route.packetsFor frame ((steps.map (·.command)).filterMap (·.sent? sender)) := by
  induction steps with
  | nil =>
      rfl
  | cons step rest ih =>
      rw [List.forall_mem_cons] at registered
      rw [allHanded_cons, List.filter_append, filter_handed registered.1, ih registered.2,
        List.map_cons, filterMap_cons_toList]
      exact List.filterMap_append.symm

namespace HubMessage

/-- What a link hands on of one message. -/
theorem filter_relayed?
    {message : HubMessage} {sender : FrameId}
    (readable : ∀ packet ∈ message.delivered?, packet.sender = sender → packet.IsReadable) :
    message.relayed?.toList.filter (·.sender == sender) =
      message.delivered?.toList.filter (·.sender == sender) := by
  cases message with
  | deliver packet =>
      by_cases own : packet.sender = sender
      · rw [relayed?_deliver (readable packet rfl own)]
        rfl
      · have unseen : [packet].filter (·.sender == sender) = [] := by
          simp [own]
        cases relayed : (deliver packet).relayed? with
        | none =>
            exact unseen.symm
        | some other =>
            have same := sender_of_relayed? relayed
            have alien : [other].filter (·.sender == sender) = [] := by
              simp [same, own]
            exact alien.trans unseen.symm
  | connected | rejected | sessionClaimed | sessionJoined | sessionDescribed | pong | error =>
      rw [relayed?_of_plain rfl]
      rfl

/-- A link hands on the packets of a sender if it can read them. -/
theorem filter_relayed
    {heard : List HubMessage} {sender : FrameId}
    (readable : ∀ packet ∈ heard.filterMap delivered?, packet.sender = sender →
      packet.IsReadable) :
    (heard.filterMap relayed?).filter (·.sender == sender) =
      (heard.filterMap delivered?).filter (·.sender == sender) := by
  induction heard with
  | nil =>
      rfl
  | cons message rest ih =>
      rw [filterMap_cons_toList, List.forall_mem_append] at readable
      rw [filterMap_cons_toList, filterMap_cons_toList, List.filter_append, List.filter_append,
        ih readable.2, filter_relayed? fun packet inside =>
          readable.1 packet (Option.mem_toList.mpr inside)]

end HubMessage

/-! ## Both connections -/

/-- An identity is given out on a connection that has not ended, unless its link has parted. -/
theorem Progress.ne_ended
    {frame : FrameId} {standing : FrameStage} {stage : Stage} {task : HubTask}
    {ahead : List FrameMessage} {told : List HubMessage}
    (progress : Progress (some frame) standing stage task ahead told) (isOpen : standing.IsOpen) :
    stage ≠ .ended := by
  cases progress with
  | opening _ _ unknown | asking _ unknown | refused unknown =>
      cases unknown
  | taken _ _ _ _ greeting =>
      rw [greeting]
      nofun
  | accepted _ _ _ _ serving | attached _ _ _ _ serving =>
      rw [serving]
      nofun
  | gone link _ stands ended =>
      rw [isOpen link stands] at ended
      cases ended

namespace Relay

variable {relay : Relay} {limits : Limits} {sender receiver : Nat}

/-- Only a link that sends takes anything to be sent. -/
theorem accepted_perform (relay : Relay) (move : Move) (number : Nat) :
    ((relay.perform move).strands number).accepted = (relay.strands number).accepted ∨
      ∃ route packet, move = .send number route packet := by
  have kept : ∀ (other : Nat) (strand : Strand),
      strand.accepted = (relay.strands other).accepted →
        ((relay.set other strand).strands number).accepted = (relay.strands number).accepted :=
    fun other strand same => forall_set (fun one changed =>
      changed.accepted = (relay.strands one).accepted) same (fun _ => rfl) number
  cases move with
  | send other route packet =>
      by_cases here : number = other
      · exact .inr ⟨route, packet, by rw [here]⟩
      · exact .inl (congrArg Strand.accepted (if_neg here))
  | call other | detach other | release other | take other | inject other | read other =>
      exact .inl (kept other _ rfl)
  | write other =>
      refine .inl (kept other _ ?_)
      unfold Strand.write
      split <;> rfl
  | close other =>
      refine .inl (kept other _ ?_)
      unfold Strand.close
      split <;> rfl
  | resume other =>
      refine .inl (kept other _ ?_)
      unfold Strand.resume
      split <;> rfl
  | hear other now =>
      left
      simp only [perform, hear]
      split
      · rw [strands_commit]
        exact kept other _ (Strand.accepted_hear ..)
      · rfl
  | finish other =>
      left
      simp only [perform, finish]
      split
      · split
        · exact kept other _ rfl
        · rw [part, strands_commit]
          exact kept other _ rfl
      · rfl
  | fail other =>
      left
      simp only [perform, fail]
      split
      · rw [part, strands_commit]
        exact kept other _ rfl
      · rfl
  | handle now =>
      left
      simp only [perform, handle]
      split
      · rfl
      · refine kept _ _ ?_
        split <;> rfl
  | forward other =>
      left
      simp only [perform, forward]
      split
      · exact kept other _ rfl
      · rfl

/-- Both links are connected as they should be, the receiver has its identity before the sender
sends anything, and it was registered whenever a packet of the sender was handed over. -/
structure Joined (relay : Relay) (limits : Limits) (sender receiver : Nat) : Prop where
  hosted : relay.Hosted limits
  large : Line.maxSize ≤ relay.max
  conveying : relay.IsConveying sender
  receiving : relay.IsReceiving receiver
  listening :
    (relay.strands sender).accepted ≠ [] →
      ∃ frame, (relay.strands receiver).identity = some frame
  heeded :
    ∀ step ∈ relay.steps, ∀ frame entry, (relay.strands sender).identity = some frame →
      step.command.sent? frame = some entry →
        ∃ other, (relay.strands receiver).identity = some other ∧
          other ∈ step.before.frames.toList

theorem joined_start
    (limits : Limits) {max : Nat} (large : Line.maxSize ≤ max) (path : String)
    (displayName : Nat → Option String) (sender receiver : Nat) :
    (start limits max path displayName).Joined limits sender receiver where
  hosted := hosted_start limits max path displayName
  large := large
  conveying := by
    refine ⟨_, _, Strand.linked_start max path (displayName sender), rfl, ?_, ?_⟩
    · intro message inside sent
      rw [List.mem_singleton.mp inside] at sent
      cases sent
    · exact fun _ inside => absurd inside List.not_mem_nil
  receiving := by
    refine ⟨_, _, [], Strand.linked_start max path (displayName receiver), ⟨nofun, rfl⟩, rfl, rfl⟩
  listening := fun sent => absurd rfl sent
  heeded := fun _ inside => absurd inside List.not_mem_nil

namespace Joined

variable (joined : relay.Joined limits sender receiver)

include joined

/-- The frame of the receiver is registered as soon as it has its identity. -/
theorem registered {frame : FrameId}
    (known : (relay.strands receiver).identity = some frame) :
    frame ∈ ((Switchboard.empty limits).afterSteps relay.steps).frames.toList := by
  rcases joined.receiving with ⟨ahead, told, heard, receives⟩
  have progress := receives.linked.progress
  rw [known] at progress
  exact joined.hosted.registered receiver frame known (progress.ne_ended receives.held.1)

/-- The receiver has its identity when a packet of the sender is in a command. -/
theorem listens {frame : FrameId} (own : (relay.strands sender).identity = some frame)
    {command : Command} (inside : command ∈ relay.commands) {entry : Route × Packet}
    (sent : command.sent? frame = some entry) :
    ∃ other, (relay.strands receiver).identity = some other := by
  rcases joined.conveying with ⟨ahead, told, conveys⟩
  have taken : entry ∈ (relay.strands sender).accepted := by
    rw [conveys.accepted, own]
    exact List.mem_append_left _ (List.mem_filterMap.mpr ⟨command, inside, sent⟩)
  exact joined.listening (List.ne_nil_of_mem taken)

/-- An identity that has been given out stays. -/
theorem identity_effect
    {after : Relay} (effect : relay.Effect after) {number : Nat} {frame : FrameId}
    (known : (relay.strands number).identity = some frame) :
    (after.strands number).identity = some frame := by
  rcases effect.quiet with ⟨_, same⟩ | ⟨now, commission, rest, first, rfl⟩
  · exact (same number).trans known
  · cases given : commission.command? relay.max with
    | none =>
        rw [handle_of_none first now given]
        exact known
    | some command =>
        rw [handle_of_some first now joined.hosted.recorded given]
        have answers := (joined.hosted.answered_cases first now given).2.2.2
        have holds : ∀ number, (relay.strands number).identity = some frame →
            ((relay.set commission.connection (relay.answered now commission)).strands
              number).identity = some frame := by
          refine forall_set (fun other changed => (relay.strands other).identity = some frame →
            changed.identity = some frame) ?_ fun _ => id
          intro before
          rcases answers with same | ⟨unknown, _⟩
          · exact same.trans before
          · rw [before] at unknown
            cases unknown
        exact holds number known

/-- A packet of the sender is handed over while the receiver is registered. -/
theorem heeded_effect
    {after : Relay} (effect : relay.Effect after)
    (few : (Step.admitted after.steps).length < UInt64.size) :
    ∀ step ∈ after.steps, ∀ frame entry, (after.strands sender).identity = some frame →
      step.command.sent? frame = some entry →
        ∃ other, (after.strands receiver).identity = some other ∧
          other ∈ step.before.frames.toList := by
  intro step inside frame entry own sent
  have stays : ∀ other, (relay.strands receiver).identity = some other →
      (after.strands receiver).identity = some other :=
    fun other => joined.identity_effect effect
  have before : step ∈ relay.steps → (relay.strands sender).identity = some frame →
      ∃ other, (after.strands receiver).identity = some other ∧
        other ∈ step.before.frames.toList := by
    intro old known
    rcases joined.heeded step old frame entry known sent with ⟨other, identity, registered⟩
    exact ⟨other, stays other identity, registered⟩
  rcases effect.quiet with ⟨steps, same⟩ | ⟨now, commission, rest, first, rfl⟩
  · rw [steps] at inside
    rw [same] at own
    exact before inside own
  · cases given : commission.command? relay.max with
    | none =>
        rw [handle_of_none first now given] at inside own
        exact before inside own
    | some command =>
        have asked : command ∈ relay.commands := by
          rw [commands, first, filterMap_cons_toList, given]
          exact List.mem_append_right _ List.mem_cons_self
        rw [handle_of_some first now joined.hosted.recorded given] at inside own few
        rcases joined.hosted.identity_cases first now given own with known | ⟨_, admitted⟩
        · rcases List.mem_append.mp inside with old | new
          · exact before old known
          · rw [List.mem_singleton.mp new] at sent ⊢
            rcases joined.listens known asked sent with ⟨other, identity⟩
            exact ⟨other, stays other identity, joined.registered identity⟩
        · -- Nothing has been handed over for a frame that is just being taken in.
          have unsent := joined.hosted.sent?_of_stranger
            (joined.hosted.recorded.fresh few admitted)
          rcases List.mem_append.mp inside with old | new
          · rw [unsent _ (List.mem_append_left _ (List.mem_map_of_mem old))] at sent
            cases sent
          · rw [List.mem_singleton.mp new] at sent
            have impossible := sent.symm.trans (unsent command asked)
            cases impossible

theorem perform
    {move : Move} (permitted : relay.Permits sender receiver move)
    (few : (Step.admitted (relay.perform move).steps).length < UInt64.size) :
    (relay.perform move).Joined limits sender receiver where
  hosted := joined.hosted.effect (relay.effect_perform move) few
  large := (relay.effect_perform move).max ▸ joined.large
  conveying := joined.hosted.isConveying_perform joined.conveying joined.large permitted few
  receiving := joined.hosted.isReceiving_perform joined.receiving joined.large permitted few
  listening := by
    intro sent
    have known : ∃ frame, (relay.strands receiver).identity = some frame := by
      -- Whatever the sender's link takes, it takes while the receiver is attached.
      rcases relay.accepted_perform move sender with same | ⟨route, packet, rfl⟩
      · rw [same] at sent
        exact joined.listening sent
      · rcases joined.receiving with ⟨ahead, told, heard, receives⟩
        rcases Option.isSome_iff_exists.mp (permitted rfl).1 with ⟨frame, attached⟩
        exact ⟨frame, receives.linked.identity_of_frame? attached⟩
    rcases known with ⟨frame, identity⟩
    exact ⟨frame, joined.identity_effect (relay.effect_perform move) identity⟩
  heeded := joined.heeded_effect (relay.effect_perform move) few

end Joined

/-- Both links stay connected as they should be, whatever the tasks do. -/
theorem Reached.joined
    {max : Nat} (large : Line.maxSize ≤ max)
    (reached : Reached sender receiver limits max relay)
    (few : (Step.admitted relay.steps).length < UInt64.size) :
    relay.Joined limits sender receiver := by
  -- By induction on the moves: the record only grows, so no state before has admitted more frames.
  induction reached with
  | start path displayName =>
      exact joined_start limits large path displayName sender receiver
  | @move relay reached move permitted ih =>
      exact (ih ((relay.effect_perform move).few few)).perform permitted few

/-! ## Order -/

section Order

variable (joined : relay.Joined limits sender receiver) {own other : FrameId}
  (sends : (relay.strands sender).identity = some own)
  (hears : (relay.strands receiver).identity = some other)

include joined sends hears

/-- What the switchboard has handed to the receiver of the packets of the sender. -/
theorem filter_allHanded :
    (Step.allHanded relay.steps other).filter (·.sender == own) =
      Route.packetsFor other
        (Command.allSent (some own) (relay.steps.map (·.command))) := by
  refine Step.filter_allHanded fun step inside entry sent => ?_
  rcases joined.heeded step inside own entry sends sent with ⟨frame, known, registered⟩
  rw [hears] at known
  cases known
  exact registered

/-- The receiver can read the packets of the sender. -/
theorem readable_of_handed {packet : Packet}
    (inside : packet ∈ Step.allHanded relay.steps other) (sent : packet.sender = own) :
    packet.IsReadable := by
  rcases joined.conveying with ⟨ahead, told, conveys⟩
  have chosen : packet ∈ (Step.allHanded relay.steps other).filter (·.sender == own) :=
    List.mem_filter.mpr ⟨inside, beq_iff_eq.mpr sent⟩
  rw [filter_allHanded joined sends hears] at chosen
  rcases List.mem_filterMap.mp chosen with ⟨⟨route, found⟩, given, same⟩
  have whole := conveys.accepted
  rw [sends, commands, Command.allSent_append, List.append_assoc] at whole
  have taken : (route, found) ∈ (relay.strands sender).accepted := by
    rw [whole]
    exact List.mem_append_left _ given
  have fit := (conveys.fit _ taken).1
  simp only [Option.ite_none_right_eq_some, Option.some.injEq] at same
  rw [← same.2]
  exact fit

end Order

/--
Packets keep their order from one link to another.  However the tasks of a hub, of its connections
and of the frames go on, the packets of a sender that the receiver has handed on are the first ones
that the sender's link has taken on routes that include the receiver: each once, as it was sent, and
in order.  When nothing is left in the queues between them, they are all of these, also if the
sender has said farewell.
-/
theorem packets_arrive_in_order
    (limits : Limits) {max : Nat} (large : Line.maxSize ≤ max) {sender receiver : Nat}
    (relay : Relay) (reached : Reached sender receiver limits max relay)
    (few : (Step.admitted relay.steps).length < UInt64.size) {own other : FrameId}
    (sends : (relay.strands sender).frame? = some own)
    (hears : (relay.strands receiver).frame? = some other) :
    (relay.strands receiver).handedFrom own <+: (relay.strands sender).acceptedFor other ∧
      (relay.Drained sender receiver →
        (relay.strands receiver).handedFrom own = (relay.strands sender).acceptedFor other) := by
  have joined := reached.joined large few
  rcases joined.conveying with ⟨ahead, toldSender, conveys⟩
  rcases joined.receiving with ⟨aheadReceiver, told, heard, receives⟩
  have sentAs := conveys.linked.identity_of_frame? sends
  have heardAs := receives.linked.identity_of_frame? hears
  have given := receives.given
  rw [heardAs, Option.elim_some, Option.elim_some, List.filterMap_append] at given
  have readable : ∀ packet ∈ heard.filterMap HubMessage.delivered?, packet.sender = own →
      packet.IsReadable := by
    intro packet inside
    apply readable_of_handed joined sentAs heardAs
    rw [given]
    exact List.mem_append_left _ (List.mem_append_left _ inside)
  -- All that the receiver has been handed, and all that the sender's link has taken, in order.
  have handed : (relay.strands receiver).handedFrom own =
      (heard.filterMap HubMessage.delivered?).filter (·.sender == own) := by
    rw [Strand.handedFrom, receives.handed, HubMessage.filter_relayed readable]
  have arrived := filter_allHanded joined sentAs heardAs
  rw [given, List.append_assoc, List.filter_append, ← handed] at arrived
  have accepted : (relay.strands sender).acceptedFor other =
      Route.packetsFor other (Command.allSent (some own) (relay.steps.map (·.command))) ++
        Route.packetsFor other
          (Command.allSent (some own) (relay.queue.filterMap (·.command? relay.max)) ++
            ahead.filterMap FrameMessage.sent?) := by
    rw [Strand.acceptedFor, conveys.accepted, sentAs, commands, Command.allSent_append,
      List.append_assoc]
    exact List.filterMap_append
  rw [accepted, ← arrived, List.append_assoc]
  refine ⟨List.prefix_append _ _, fun drained => ?_⟩
  have heardAll := (receives.linked.read_all drained.down).2
  have saidAll :=
    (conveys.linked.said_all drained.found drained.up drained.outgoing).1
  have empty : relay.exchange.waiting other = [] := drained.inbox other hears
  rw [heardAll, saidAll, empty, drained.queue]
  simp [Route.packetsFor, Command.allSent]

/-! ### A packet and a farewell -/

/-- Does some pieces of work one after the other. -/
def performAll (relay : Relay) (moves : List Move) : Relay :=
  moves.foldl perform relay

theorem Reached.performAll
    {max : Nat} (reached : Reached sender receiver limits max relay) {moves : List Move}
    (permitted : ∀ move ∈ moves, ∀ relay : Relay, relay.Permits sender receiver move) :
    Reached sender receiver limits max (relay.performAll moves) := by
  induction moves generalizing relay with
  | nil =>
      exact reached
  | cons move rest ih =>
      rw [List.forall_mem_cons] at permitted
      exact ih (reached.move move (permitted.1 relay)) permitted.2

/-- A link connects and is taken in. -/
def attaching (number : Nat) : List Move :=
  [.write number, .read number 200, .hear number .epoch, .handle .epoch, .resume number,
    .take number 200]

/-- Two links have connected, the second one first. -/
def pair : Relay :=
  (start ⟨2, 1⟩ Line.maxSize "hub.sock" fun _ => none).performAll (attaching 1 ++ attaching 0)

def news : Packet :=
  .toFrame "news" (Json.toValue .null) ⟨2⟩ ⟨1⟩

/-- All that is left to be done after a packet and a farewell. -/
def emptying : List Move :=
  [.write 0, .write 0, .read 0 500, .hear 0 .epoch, .hear 0 .epoch, .handle .epoch,
    .handle .epoch, .forward 1, .take 1 500]

def emptied : Relay :=
  ((pair.perform (.send 0 .broadcast news)).perform (.detach 0)).performAll emptying

/-- A packet arrives though its sender has said farewell at once. -/
theorem packet_arrives_after_farewell : (emptied.strands 1).handedFrom ⟨2⟩ = [news] := by
  have run :
      ((pair.strands 1).frame?.isSome = true ∧ (pair.strands 0).frame? = some news.sender ∧
          news.data.document.IsPortable dataLevels) ∧
        (Step.admitted emptied.steps).length < UInt64.size ∧
          (emptied.strands 0).frame? = some ⟨2⟩ ∧ (emptied.strands 1).frame? = some ⟨1⟩ ∧
            (emptied.strands 0).acceptedFor ⟨1⟩ = [news] ∧
              ((emptied.strands 0).outgoing = [] ∧ (emptied.strands 0).up = [] ∧
                (emptied.strands 0).found = [] ∧ emptied.queue = [] ∧
                  (emptied.exchange.collect ⟨1⟩).1 = [] ∧ (emptied.strands 1).down = []) := by
    decide +kernel
  rcases run with ⟨permitted, few, sends, hears, accepted, left⟩
  rcases left with ⟨outgoing, up, found, queue, inbox, down⟩
  have attached : Reached 0 1 ⟨2, 1⟩ Line.maxSize pair := by
    apply Reached.performAll (.start "hub.sock" fun _ => none)
    simp [attaching, Permits]
  have reached : Reached 0 1 ⟨2, 1⟩ Line.maxSize emptied := by
    apply Reached.performAll
    · refine .move (.move attached (.send 0 .broadcast news) ?_) (.detach 0) Nat.zero_ne_one
      exact fun _ => permitted
    · simp [emptying, Permits]
  have drained : emptied.Drained 0 1 := by
    refine ⟨outgoing, up, found, queue, ?_, down⟩
    intro frame known
    rw [hears] at known
    cases known
    exact inbox
  have ordered :=
    packets_arrive_in_order ⟨2, 1⟩ (Nat.le_refl _) emptied reached few sends hears
  exact (ordered.2 drained).trans accepted

end Relay

end SessionBus
