import SessionBus.Proofs.Relay.Hosted
import SessionBus.Proofs.Relay.Linked

/-!
# From a link to the switchboard

What a link has taken to be sent is found again, in the same order: first what the switchboard has
taken or what waits in its queue, then what is still on its way to the hub.  Nothing that happens on
another connection adds a packet of this frame.
-/

namespace SessionBus

/-! ## Packets among commands -/

/-- The packets that some commands hand over for the frame of a connection, with their routes. -/
def Command.allSent (identity : Option FrameId) (commands : List Command) :
    List (Route × Packet) :=
  identity.elim [] fun frame => commands.filterMap (·.sent? frame)

namespace Command

variable {identity : Option FrameId} {commands : List Command}

theorem allSent_append (identity : Option FrameId) (first later : List Command) :
    allSent identity (first ++ later) = allSent identity first ++ allSent identity later := by
  cases identity with
  | none =>
      rfl
  | some frame =>
      exact List.filterMap_append

theorem allSent_eq_nil
    (others : ∀ frame, identity = some frame → ∀ command ∈ commands, command.sent? frame = none) :
    allSent identity commands = [] := by
  cases identity with
  | none =>
      rfl
  | some frame =>
      exact List.filterMap_eq_nil_iff.mpr (others frame rfl)

end Command

/-- What the hub makes of a message of a frame that it serves. -/
theorem Connection.command?_seen_serving
    {message : FrameMessage} (portable : message.IsPortable) (max : Nat) (frame : FrameId) :
    command? max (.serving frame) (LineReader.seen max message.toJson) =
      if message.toJson.compact.utf8ByteSize ≤ max then message.request.command? frame
      else none := by
  unfold LineReader.seen
  split
  · rename_i short
    simp only [command?, parseFrame_compact portable short]
  · rfl

/-- A message without a packet makes the hub hand none over. -/
theorem Commission.sent?_of_plain
    {message : FrameMessage} (plain : message.sent? = none) {max number : Nat} {stage : Stage}
    {command : Command}
    (given : command? max ⟨number, stage, some (LineReader.seen max message.toJson)⟩ =
      some command) (frame : FrameId) : command.sent? frame = none := by
  cases sent : command.sent? frame with
  | none =>
      rfl
  | some entry =>
      have serving : stage = .serving frame := stage_of_sent given sent
      rcases message with ⟨version, request⟩
      have portable : (FrameMessage.mk version request).IsPortable := by
        apply FrameMessage.isPortable_of_plain
        cases request <;> first | rfl | cases plain
      subst serving
      have read := Connection.command?_seen_serving portable max frame
      simp only [command?, read, Option.ite_none_right_eq_some] at given
      cases request <;> cases given.2 <;> first | cases sent | cases plain

/-- A link that sends a packet is served. -/
theorem Progress.serving_of_sent
    {identity : Option FrameId} {standing : FrameStage} {stage : Stage} {task : HubTask}
    {message : FrameMessage} {later : List FrameMessage} {told : List HubMessage}
    (progress : Progress identity standing stage task (message :: later) told)
    (sent : message.sent?.isSome = true) :
    ∃ frame, stage = .serving frame ∧ identity = some frame := by
  cases progress with
  | opening _ _ _ _ _ _ greets =>
      cases greets
      cases sent
  | attached link known _ _ serving =>
      exact ⟨link.frame, serving, known⟩
  | asking _ _ _ _ _ greeted | taken _ _ _ _ _ _ greeted | accepted _ _ _ _ _ _ greeted
  | refused _ _ _ greeted | gone _ _ _ _ _ _ greeted =>
      cases greeted

namespace Strand

/-! ## What a connection conveys -/

/-- What the link of a connection has taken to be sent is in the commands that the hub has given, or
on its way there.  The hub can read it, and the frames that it is for can read it too. -/
structure Conveys (strand : Strand) (max : Nat) (commands : List Command)
    (ahead : List FrameMessage) (told : List HubMessage) : Prop where
  linked : strand.Linked max ahead told
  accepted :
    strand.accepted =
      Command.allSent strand.identity commands ++ ahead.filterMap FrameMessage.sent?
  sound :
    ∀ message ∈ ahead, message.sent?.isSome = true →
      message.IsPortable ∧ message.toJson.compact.utf8ByteSize ≤ Line.maxSize
  fit :
    ∀ entry ∈ strand.accepted,
      entry.2.IsReadable ∧ strand.identity = some entry.2.sender

/-- A connection conveys what its link has taken. -/
def IsConveying (strand : Strand) (max : Nat) (commands : List Command) : Prop :=
  ∃ ahead told, strand.Conveys max commands ahead told

variable {strand after : Strand} {max : Nat} {commands : List Command}
  {ahead : List FrameMessage} {told : List HubMessage}

namespace Conveys

variable (conveys : strand.Conveys max commands ahead told)

include conveys

/-- A link says something more. -/
theorem goes
    {said : List FrameMessage} {heard later : List HubMessage}
    (goes : strand.Goes after max ahead said heard later)
    (sound : ∀ message ∈ said, message.sent?.isSome = true →
      message.IsPortable ∧ message.toJson.compact.utf8ByteSize ≤ Line.maxSize)
    (fit : ∀ entry ∈ said.filterMap FrameMessage.sent?,
      entry.2.IsReadable ∧ strand.identity = some entry.2.sender) :
    after.Conveys max commands (ahead ++ said) later where
  linked := goes.linked
  accepted := by
    rw [goes.accepted, goes.identity, conveys.accepted, List.filterMap_append, List.append_assoc]
  sound := List.forall_mem_append.mpr ⟨conveys.sound, sound⟩
  fit := by
    rw [goes.accepted, goes.identity]
    exact List.forall_mem_append.mpr ⟨conveys.fit, fit⟩

theorem goesOn (goesOn : strand.GoesOn after max ahead told) :
    after.IsConveying max commands := by
  rcases goesOn with ⟨said, heard, later, _, plain, goes⟩
  refine ⟨_, _, conveys.goes goes ?_ ?_⟩
  · intro message inside sent
    rw [List.filterMap_eq_nil_iff.mp plain message inside] at sent
    cases sent
  · rw [plain]
    exact fun _ inside => absurd inside List.not_mem_nil

/-- The link sends a packet under its own identity. -/
theorem send
    (route : Route) {packet : Packet} (own : strand.frame? = some packet.sender)
    (portable : packet.data.document.IsPortable dataLevels) :
    (strand.send route packet).IsConveying max commands := by
  rcases conveys.linked.goes_send route packet with ⟨dropped, _⟩ | ⟨sent, short⟩
  · exact conveys.goesOn dropped
  · refine ⟨_, _, conveys.goes sent ?_ ?_⟩
    · intro message inside _
      rw [List.mem_singleton.mp inside]
      refine ⟨?_, short⟩
      rintro other ⟨⟩
      exact portable
    · intro entry inside
      rw [List.mem_singleton.mp inside]
      exact ⟨⟨portable, Line.short_deliver short⟩, conveys.linked.identity_of_frame? own⟩

/-- The link has taken nothing, and what the hub has done brings the connection on. -/
theorem relinked
    {later : List HubMessage} (linked : after.Linked max ahead later)
    (identity : after.identity = strand.identity) (accepted : after.accepted = strand.accepted) :
    after.Conveys max commands ahead later where
  linked := linked
  accepted := by
    rw [accepted, identity]
    exact conveys.accepted
  sound := conveys.sound
  fit := by
    rw [accepted, identity]
    exact conveys.fit

/-- Commands for other frames are given. -/
theorem others (more : List Command)
    (others : ∀ frame, strand.identity = some frame →
      ∀ command ∈ more, command.sent? frame = none) :
    strand.Conveys max (commands ++ more) ahead told where
  linked := conveys.linked
  accepted := by
    rw [Command.allSent_append, Command.allSent_eq_nil others, List.append_nil]
    exact conveys.accepted
  sound := conveys.sound
  fit := conveys.fit

/-- An identity is given out on the connection. -/
theorem identified
    {frame : FrameId} (linked : after.Linked max ahead told) (unknown : strand.identity = none)
    (known : after.identity = some frame) (accepted : after.accepted = strand.accepted)
    (fresh : ∀ command ∈ commands, command.sent? frame = none) :
    after.Conveys max commands ahead told where
  linked := linked
  accepted := by
    -- While the connection has no identity, no command counts as sent on it.
    have before := conveys.accepted
    rw [unknown] at before
    rw [accepted, before, known]
    congr 1
    exact (List.filterMap_eq_nil_iff.mpr fresh).symm
  sound := conveys.sound
  fit := by
    intro entry inside
    rw [accepted] at inside
    have own := (conveys.fit entry inside).2
    rw [unknown] at own
    cases own

/-- The command for what the link has said first hands over the packet that it sends, if any. -/
theorem sent_next
    (large : Line.maxSize ≤ max) {message : FrameMessage} {later : List FrameMessage}
    (next : ahead = message :: later) (number : Nat) :
    let commission : Commission :=
      ⟨number, strand.stage, some (LineReader.seen max message.toJson)⟩
    Command.allSent strand.identity (commission.command? max).toList = message.sent?.toList := by
  intro commission
  subst next
  cases sent : message.sent? with
  | none =>
      apply Command.allSent_eq_nil
      intro frame _ command inside
      exact Commission.sent?_of_plain sent (Option.mem_toList.mp inside) frame
  | some entry =>
      have sends : message.sent?.isSome = true := by
        rw [sent]
        rfl
      rcases conveys.linked.progress.serving_of_sent sends with ⟨frame, serving, known⟩
      rcases conveys.sound message List.mem_cons_self sends with ⟨portable, short⟩
      have taken : entry ∈ strand.accepted := by
        rw [conveys.accepted, List.filterMap_cons, sent]
        exact List.mem_append_right _ List.mem_cons_self
      have own : entry.2.sender = frame := by
        have same := (conveys.fit entry taken).2
        rw [known] at same
        exact (Option.some.inj same).symm
      have given : commission.command? max = message.request.command? frame := by
        have read := Connection.command?_seen_serving portable max frame
        simp only [commission, Commission.command?, serving, read,
          if_pos (Nat.le_trans short large)]
      rcases message with ⟨version, request⟩
      cases request <;> cases sent
      rename_i route packet
      subst own
      rw [given, known]
      simp only [Request.command?, Option.toList_some, Command.allSent, Option.elim_some,
        List.filterMap_cons, List.filterMap_nil, Command.sent?, if_true]

/-- The hub hears what the link has said first, and gives the command for it. -/
theorem hear
    (large : Line.maxSize ≤ max) (free : strand.task = .free) {incoming : Incoming}
    {rest : List Incoming} (found : strand.found = incoming :: rest) (number : Nat)
    (exchange : Exchange) (now : Instant) :
    let commission : Commission := ⟨number, strand.stage, some incoming⟩
    (strand.hear rest (commission.isAwaited max)
        (commission.answer exchange max now)).IsConveying max
      (commands ++ (commission.command? max).toList) := by
  intro commission
  rcases conveys.linked.hear large free found number exchange now with
    ⟨message, later, rfl, rfl, linked⟩
  have sent := conveys.sent_next large rfl number
  refine ⟨later, _, linked, ?_, ?_, ?_⟩
  · rw [Strand.accepted_hear, Strand.identity_hear, conveys.accepted, Command.allSent_append,
      sent, List.append_assoc, filterMap_cons_toList]
  · exact fun other inside => conveys.sound other (List.mem_cons_of_mem _ inside)
  · rw [Strand.accepted_hear, Strand.identity_hear]
    exact conveys.fit

end Conveys

end Strand

/-! ## Connections of links among all -/

namespace Relay

variable {relay : Relay} {limits : Limits}

theorem answered_of_awaited
    {commission : Commission} (awaited : commission.isAwaited relay.max = true) (now : Instant) :
    relay.answered now commission = (relay.strands commission.connection).await
      (commission.answer relay.exchange relay.max now) := by
  simp only [answered, awaited, if_true]

/-- The switchboard answers a link that waits. -/
theorem Hosted.linked_answered
    (hosted : relay.Hosted limits) {commission : Commission} {rest : List Commission}
    (first : relay.queue = commission :: rest) (now : Instant) {command : Command}
    (given : commission.command? relay.max = some command) {ahead : List FrameMessage}
    {told : List HubMessage}
    (linked : (relay.strands commission.connection).Linked relay.max ahead told) :
    (relay.answered now commission).Linked relay.max ahead told := by
  cases awaited : commission.isAwaited relay.max with
  | false =>
      rw [(hosted.answered_cases first now given).2.2.1 awaited]
      exact linked
  | true =>
      rcases (hosted.stands_first first).awaited awaited with ⟨waits, same⟩
      rw [answered_of_awaited awaited]
      exact linked.await waits same awaited relay.exchange now

/-- The end of a link's stream changes nothing, since the hub has heard its farewell. -/
theorem finish_of_linked
    {number : Nat} {ahead : List FrameMessage} {told : List HubMessage}
    (linked : (relay.strands number).Linked relay.max ahead told) :
    relay.finish number = relay := by
  simp only [finish]
  split
  · rename_i free found up ended
    rcases linked.finish free found up ended with ⟨finished, closed⟩
    have still : ({ relay.strands number with stage := .ended } : Strand) =
        relay.strands number := by
      rw [← closed]
    simp only [finished, part, closed, still, set_self]
    rfl
  · rfl

/-- The commands that the switchboard has been given, in order. -/
def commands (relay : Relay) : List Command :=
  relay.steps.map (·.command) ++ relay.queue.filterMap (·.command? relay.max)

theorem commands_commit (relay : Relay) (commission : Commission) :
    (relay.commit commission).commands =
      relay.commands ++ (commission.command? relay.max).toList := by
  unfold Relay.commit
  cases given : commission.command? relay.max with
  | none =>
      exact (List.append_nil _).symm
  | some command =>
      simp [commands, given, List.filterMap_append]

/-- The switchboard takes the commands in the order in which they were given. -/
theorem Hosted.commands_handle
    (hosted : relay.Hosted limits) {commission : Commission} {rest : List Commission}
    (first : relay.queue = commission :: rest) (now : Instant) :
    (relay.handle now).commands = relay.commands := by
  cases given : commission.command? relay.max with
  | none =>
      rw [handle_of_none first now given]
      simp only [commands, first, List.filterMap_cons, given]
  | some command =>
      rw [handle_of_some first now hosted.recorded given]
      simp only [commands, first, List.filterMap_cons, given, List.map_append, List.map_cons,
        List.map_nil, List.append_assoc, List.singleton_append]
      rfl

/-- No other connection gives a command that hands over a packet of this frame. -/
theorem Hosted.sent?_of_other
    (hosted : relay.Hosted limits) {number sender : Nat} (different : sender ≠ number)
    {frame : FrameId} (known : (relay.strands sender).identity = some frame)
    {incoming : Option Incoming} {command : Command}
    (given : Commission.command? relay.max ⟨number, (relay.strands number).stage, incoming⟩ =
      some command) : command.sent? frame = none := by
  cases sent : command.sent? frame with
  | none =>
      rfl
  | some entry =>
      have serving := Commission.stage_of_sent given sent
      have other := (hosted.lodged number).identity_of_serving serving
      exact absurd (hosted.apart sender number frame known other) different

/-- No command hands over a packet of a frame that has not been taken in. -/
theorem Hosted.sent?_of_stranger
    (hosted : relay.Hosted limits) {frame : FrameId}
    (unknown : frame ∉ Step.admitted relay.steps) :
    ∀ command ∈ relay.commands, command.sent? frame = none := by
  intro command inside
  rcases List.mem_append.mp inside with taken | waiting
  · rcases List.mem_map.mp taken with ⟨step, known, rfl⟩
    exact hosted.unsent frame unknown step known
  · rcases List.mem_filterMap.mp waiting with ⟨commission, queued, given⟩
    exact hosted.sent?_of_queued queued given unknown

/-- The connection conveys what its link has taken. -/
def IsConveying (relay : Relay) (sender : Nat) : Prop :=
  (relay.strands sender).IsConveying relay.max relay.commands

section Conveying

variable {sender receiver : Nat}

theorem isConveying_set
    {number : Nat} {strand : Strand} (conveying : relay.IsConveying sender)
    (own : number = sender → strand.IsConveying relay.max relay.commands) :
    (relay.set number strand).IsConveying sender :=
  holds_set (·.IsConveying relay.max relay.commands) conveying own

theorem isConveying_modify
    {number : Nat} (change : Strand → Strand) (conveying : relay.IsConveying sender)
    (own : number = sender →
      (change (relay.strands sender)).IsConveying relay.max relay.commands) :
    (relay.modify number change).IsConveying sender :=
  holds_modify change (·.IsConveying relay.max relay.commands) conveying own

/-- What is done on another connection leaves this one alone. -/
theorem Hosted.isConveying_commit
    (hosted : relay.Hosted limits) (conveying : relay.IsConveying sender) {number : Nat}
    (different : sender ≠ number) (strand : Strand) (incoming : Option Incoming) :
    ((relay.set number strand).commit
      ⟨number, (relay.strands number).stage, incoming⟩).IsConveying sender := by
  rcases conveying with ⟨ahead, told, conveys⟩
  have others := conveys.others
    (Commission.command? relay.max ⟨number, (relay.strands number).stage, incoming⟩).toList
    fun frame known command inside =>
      hosted.sent?_of_other different known (Option.mem_toList.mp inside)
  have same : (relay.set number strand).strands sender = relay.strands sender := if_neg different
  unfold IsConveying
  rw [commands_commit, strands_commit, max_commit, same]
  exact ⟨ahead, told, others⟩

/-- A link ends its stream after its farewell, and the hub has heard that before the end. -/
theorem Hosted.isConveying_finish
    (hosted : relay.Hosted limits) (conveying : relay.IsConveying sender) (number : Nat) :
    (relay.finish number).IsConveying sender := by
  by_cases here : sender = number
  · subst here
    rcases conveying with ⟨ahead, told, conveys⟩
    rw [finish_of_linked conveys.linked]
    exact ⟨ahead, told, conveys⟩
  · simp only [finish]
    split
    · split
      · exact isConveying_set conveying fun same => absurd same.symm here
      · exact hosted.isConveying_commit conveying here _ none
    · exact conveying

/-- A connection hears a line, which is the next one that its link has written. -/
theorem Hosted.isConveying_hear
    (hosted : relay.Hosted limits) (conveying : relay.IsConveying sender)
    (large : Line.maxSize ≤ relay.max) (number : Nat) (now : Instant) :
    (relay.hear number now).IsConveying sender := by
  simp only [hear]
  split
  · rename_i incoming rest free found
    by_cases here : sender = number
    · subst here
      rcases conveying with ⟨ahead, told, conveys⟩
      unfold IsConveying
      rw [commands_commit, strands_commit, max_commit, strands_set, if_pos rfl]
      exact conveys.hear large free found sender relay.exchange now
    · exact hosted.isConveying_commit conveying here _ (some incoming)
  · exact conveying

/-- A forwarder writes a packet, which takes nothing from what the link has written. -/
theorem isConveying_forward (conveying : relay.IsConveying sender) (number : Nat) :
    (relay.forward number).IsConveying sender := by
  cases stage : (relay.strands number).stage with
  | greeting | ended =>
      simp only [forward, stage]
      exact conveying
  | serving frame =>
      rw [forward_of_serving stage]
      have told : (relay.set number ((relay.strands number).tell
          ((relay.exchange.next frame).1.toList.map .deliver))).IsConveying sender := by
        refine isConveying_set conveying fun here => ?_
        subst here
        rcases conveying with ⟨ahead, told, conveys⟩
        exact ⟨_, _, conveys.relinked (conveys.linked.tell stage _) rfl rfl⟩
      exact told

/-- The switchboard takes a command. -/
theorem Hosted.isConveying_handle
    (hosted : relay.Hosted limits) (conveying : relay.IsConveying sender) (now : Instant)
    (few : (Step.admitted (relay.handle now).steps).length < UInt64.size) :
    (relay.handle now).IsConveying sender := by
  cases first : relay.queue with
  | nil =>
      simp only [Relay.handle, first]
      exact conveying
  | cons commission rest =>
      have commands := hosted.commands_handle first now
      unfold IsConveying
      rw [commands]
      cases given : commission.command? relay.max with
      | none =>
          rw [handle_of_none first now given]
          exact conveying
      | some command =>
          rw [handle_of_some first now hosted.recorded given] at few ⊢
          have answers := (hosted.answered_cases first now given).2.2.2
          have here : ((relay.set commission.connection
              (relay.answered now commission)).strands sender).IsConveying relay.max
                relay.commands := by
            rw [strands_set]
            split
            · rename_i same
              rcases conveying with ⟨ahead, told, conveys⟩
              rw [same] at conveys
              have linked := hosted.linked_answered first now given conveys.linked
              rcases answers with still | ⟨unknown, frame, known, admitted⟩
              · exact ⟨ahead, told, conveys.relinked linked still (accepted_answered ..)⟩
              · refine ⟨ahead, told, conveys.identified linked unknown known
                  (accepted_answered ..) ?_⟩
                exact hosted.sent?_of_stranger (hosted.recorded.fresh few admitted)
            · exact conveying
          exact here

/-- A connection conveys what its link has taken, whatever the tasks do. -/
theorem Hosted.isConveying_perform
    (hosted : relay.Hosted limits) (conveying : relay.IsConveying sender)
    (large : Line.maxSize ≤ relay.max) {move : Move}
    (permitted : relay.Permits sender receiver move)
    (few : (Step.admitted (relay.perform move).steps).length < UInt64.size) :
    (relay.perform move).IsConveying sender := by
  rcases conveying with ⟨ahead, told, conveys⟩
  have conveying : relay.IsConveying sender := ⟨ahead, told, conveys⟩
  cases move with
  | call number what =>
      exact isConveying_modify (·.call what) conveying fun _ =>
        conveys.goesOn (conveys.linked.goesOn_call what)
  | detach number =>
      exact isConveying_modify Strand.detach conveying fun _ =>
        conveys.goesOn conveys.linked.goesOn_detach
  | release number =>
      exact isConveying_modify Strand.release conveying fun _ =>
        conveys.goesOn conveys.linked.goesOn_release
  | write number =>
      exact isConveying_modify Strand.write conveying fun _ =>
        conveys.goesOn conveys.linked.goesOn_write
  | read number count =>
      exact isConveying_modify (·.read count) conveying fun _ =>
        conveys.goesOn (conveys.linked.goesOn_read count)
  | take number count =>
      exact isConveying_modify (·.take count) conveying fun _ =>
        conveys.goesOn (conveys.linked.goesOn_take count).1
  | close number =>
      exact isConveying_modify Strand.close conveying fun _ =>
        conveys.goesOn conveys.linked.goesOn_close.1
  | send number route packet =>
      refine isConveying_modify (·.send route packet) conveying fun here => ?_
      rcases permitted here with ⟨_, own, portable⟩
      exact conveys.send route own portable
  | inject number bytes last =>
      exact isConveying_modify (·.inject bytes last) conveying fun here => absurd here permitted.1
  | resume number =>
      refine isConveying_modify Strand.resume conveying fun _ => ?_
      unfold Strand.resume
      split
      · rename_i messages stage answered
        exact ⟨_, _, conveys.relinked (conveys.linked.resume answered) rfl rfl⟩
      · exact ⟨_, _, conveys⟩
  | finish number =>
      exact hosted.isConveying_finish conveying number
  | fail number =>
      simp only [perform, fail]
      split
      · exact hosted.isConveying_commit conveying (Ne.symm permitted.1) _ none
      · exact conveying
  | hear number now =>
      exact hosted.isConveying_hear conveying large number now
  | handle now =>
      exact hosted.isConveying_handle conveying now few
  | forward number =>
      exact isConveying_forward conveying number

end Conveying

end Relay

end SessionBus
