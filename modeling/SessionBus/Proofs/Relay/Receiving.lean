import SessionBus.Proofs.Relay.Sending

/-!
# From the switchboard to a link

What the switchboard has handed to a frame is found again, in the same order: first what its link
has heard, then what is on its way to the link, and last what waits in its inbox.  The hub's own
answers lie between the packets and do not change their order.
-/

namespace SessionBus

/-- The packet that a message hands over, as it was written. -/
def HubMessage.delivered? : HubMessage → Option Packet
  | .deliver packet => some packet
  | _ => none

theorem HubMessage.delivered?_of_plain {message : HubMessage} (plain : message.isDelivery = false) :
    message.delivered? = none := by
  cases message with
  | deliver packet =>
      cases plain
  | _ =>
      rfl

namespace Strand

/-! ## What a connection receives -/

/-- What the switchboard has handed to the frame of a connection has been heard by its link, is on
its way there, or waits in the inbox.  The link hands on what it can read of what it has heard. -/
structure Receives (strand : Strand) (max : Nat) (steps : List Step) (exchange : Exchange)
    (ahead : List FrameMessage) (told heard : List HubMessage) : Prop where
  linked : strand.Linked max ahead told
  held : strand.IsHeld
  handed : strand.handed = heard.filterMap HubMessage.relayed?
  given :
    strand.identity.elim [] (Step.allHanded steps) =
      (heard ++ told).filterMap HubMessage.delivered? ++ strand.identity.elim [] exchange.waiting

/-- A connection receives what its frame has been handed. -/
def IsReceiving (strand : Strand) (max : Nat) (steps : List Step) (exchange : Exchange) : Prop :=
  ∃ ahead told heard, strand.Receives max steps exchange ahead told heard

variable {strand after : Strand} {max : Nat} {steps : List Step} {exchange : Exchange}
  {ahead : List FrameMessage} {told heard : List HubMessage}

namespace Receives

variable (receives : strand.Receives max steps exchange ahead told heard)

include receives

theorem isReceiving : strand.IsReceiving max steps exchange :=
  ⟨ahead, told, heard, receives⟩

/-- The link hears some messages more. -/
theorem goes
    {said : List FrameMessage} {news later : List HubMessage}
    (goes : strand.Goes after max ahead said news later) (split : told = news ++ later)
    (held : after.IsHeld) :
    after.Receives max steps exchange (ahead ++ said) later (heard ++ news) where
  linked := goes.linked
  held := held
  handed := by
    rw [goes.handed receives.held.1, receives.handed, List.filterMap_append]
  given := by
    rw [goes.identity, List.append_assoc, ← split]
    exact receives.given

theorem goesOn (goesOn : strand.GoesOn after max ahead told) (held : after.IsHeld) :
    after.IsReceiving max steps exchange := by
  rcases goesOn with ⟨said, news, later, split, _, goes⟩
  exact (receives.goes goes split held).isReceiving

theorem send (route : Route) (packet : Packet) :
    (strand.send route packet).IsReceiving max steps exchange := by
  have held := receives.held.send route packet
  rcases receives.linked.goes_send route packet with ⟨dropped, _⟩ | ⟨sent, _⟩
  · exact receives.goesOn dropped held
  · exact (receives.goes sent rfl held).isReceiving

/-- The hub brings the connection on, and writes no packet. -/
theorem relinked
    {later : List FrameMessage} {more : List HubMessage}
    (linked : after.Linked max later (told ++ more)) (frameEnd : after.frameEnd = strand.frameEnd)
    (identity : after.identity = strand.identity) (handed : after.handed = strand.handed)
    (plain : ∀ message ∈ more, message.isDelivery = false) :
    after.Receives max steps exchange later (told ++ more) heard where
  linked := linked
  held := by
    rw [IsHeld, frameEnd]
    exact receives.held
  handed := handed.trans receives.handed
  given := by
    have silent : more.filterMap HubMessage.delivered? = [] :=
      List.filterMap_eq_nil_iff.mpr fun message inside =>
        HubMessage.delivered?_of_plain (plain message inside)
    rw [identity, ← List.append_assoc, List.filterMap_append, silent, List.append_nil]
    exact receives.given

/-- An identity is given out on the connection. -/
theorem identified
    {frame : FrameId} (linked : after.Linked max ahead told)
    (frameEnd : after.frameEnd = strand.frameEnd) (unknown : strand.identity = none)
    (known : after.identity = some frame) (handed : after.handed = strand.handed)
    (fresh : Step.allHanded steps frame = [] ∧ exchange.waiting frame = []) :
    after.Receives max steps exchange ahead told heard where
  linked := linked
  held := by
    rw [IsHeld, frameEnd]
    exact receives.held
  handed := handed.trans receives.handed
  given := by
    have before := receives.given
    rw [unknown] at before
    rw [known]
    simp only [Option.elim_some, fresh.1, fresh.2]
    exact before

/-- The switchboard hands over some packets more, which come last in the inbox. -/
theorem extended
    {next : List Step} {changed : Exchange} (more : FrameId → List Packet)
    (handed : ∀ frame, Step.allHanded next frame = Step.allHanded steps frame ++ more frame)
    (waiting : ∀ frame, changed.waiting frame = exchange.waiting frame ++ more frame) :
    strand.Receives max next changed ahead told heard where
  linked := receives.linked
  held := receives.held
  handed := receives.handed
  given := by
    have before := receives.given
    cases known : strand.identity with
    | none =>
        rw [known] at before
        exact before
    | some frame =>
        rw [known] at before
        simp only [Option.elim_some] at before ⊢
        rw [handed, waiting, before, List.append_assoc]

/-- The inboxes of other frames change. -/
theorem others
    {changed : Exchange} (waiting : ∀ frame, strand.identity = some frame →
      changed.waiting frame = exchange.waiting frame) :
    strand.Receives max steps changed ahead told heard where
  linked := receives.linked
  held := receives.held
  handed := receives.handed
  given := by
    have before := receives.given
    cases known : strand.identity with
    | none =>
        rw [known] at before
        exact before
    | some frame =>
        rw [known] at before
        simp only [Option.elim_some] at before ⊢
        rw [waiting frame known, before]

/-- The forwarder writes the first packet in the inbox. -/
theorem forward
    {frame : FrameId} (serving : strand.stage = .serving frame)
    (known : strand.identity = some frame) {changed : Exchange}
    (waiting : changed.waiting frame = (exchange.waiting frame).tail) :
    (strand.tell ((exchange.waiting frame).head?.toList.map .deliver)).Receives max steps changed
      ahead (told ++ (exchange.waiting frame).head?.toList.map .deliver) heard where
  linked := receives.linked.tell serving _
  held := receives.held
  handed := receives.handed
  given := by
    have before := receives.given
    have same : (strand.tell ((exchange.waiting frame).head?.toList.map .deliver)).identity =
        some frame := known
    rw [known] at before
    rw [same]
    simp only [Option.elim_some] at before ⊢
    rw [before, waiting]
    cases exchange.waiting frame with
    | nil =>
        simp
    | cons packet rest =>
        simp [List.filterMap_append, HubMessage.delivered?]

end Receives

end Strand

/-! ## Connections of links among all -/

namespace Relay

variable {relay : Relay} {limits : Limits} {receiver : Nat}

/-- The connection receives what its frame has been handed. -/
def IsReceiving (relay : Relay) (receiver : Nat) : Prop :=
  (relay.strands receiver).IsReceiving relay.max relay.steps relay.exchange

theorem isReceiving_set
    {number : Nat} {strand : Strand} (receiving : relay.IsReceiving receiver)
    (own : number = receiver → strand.IsReceiving relay.max relay.steps relay.exchange) :
    (relay.set number strand).IsReceiving receiver :=
  holds_set (·.IsReceiving relay.max relay.steps relay.exchange) receiving own

theorem isReceiving_modify
    {number : Nat} (change : Strand → Strand) (receiving : relay.IsReceiving receiver)
    (own : number = receiver →
      (change (relay.strands receiver)).IsReceiving relay.max relay.steps relay.exchange) :
    (relay.modify number change).IsReceiving receiver :=
  holds_modify change (·.IsReceiving relay.max relay.steps relay.exchange) receiving own

theorem isReceiving_commit (commission : Commission) :
    (relay.commit commission).IsReceiving receiver ↔ relay.IsReceiving receiver := by
  unfold IsReceiving
  rw [strands_commit, max_commit, steps_commit, exchange_commit]

/-- The end of the stream is heard only on other connections. -/
theorem isReceiving_finish (receiving : relay.IsReceiving receiver) (number : Nat) :
    (relay.finish number).IsReceiving receiver := by
  by_cases here : number = receiver
  · subst here
    rcases receiving with ⟨ahead, told, heard, receives⟩
    rw [finish_of_linked receives.linked]
    exact receives.isReceiving
  · simp only [finish]
    split
    · split
      · exact isReceiving_set receiving fun same => absurd same here
      · exact (isReceiving_commit _).mpr
          (isReceiving_set receiving fun same => absurd same here)
    · exact receiving

/-- A connection hears a line and answers it by no packet. -/
theorem isReceiving_hear
    (receiving : relay.IsReceiving receiver) (large : Line.maxSize ≤ relay.max) (number : Nat)
    (now : Instant) : (relay.hear number now).IsReceiving receiver := by
  simp only [hear]
  split
  · rename_i incoming rest free found
    refine (isReceiving_commit _).mpr (isReceiving_set receiving fun here => ?_)
    subst here
    rcases receiving with ⟨ahead, told, heard, receives⟩
    rcases receives.linked.hear large free found number relay.exchange now with
      ⟨message, later, _, _, linked⟩
    refine (receives.relinked linked (Strand.frameEnd_hear ..) (Strand.identity_hear ..)
      (Strand.handed_hear ..) ?_).isReceiving
    split
    · exact fun _ inside => absurd inside List.not_mem_nil
    · exact Hub.isDelivery_handle relay.exchange now relay.max _ incoming
  · exact receiving

/-- The switchboard takes a command. -/
theorem Hosted.isReceiving_handle
    (hosted : relay.Hosted limits) (receiving : relay.IsReceiving receiver) (now : Instant)
    (few : (Step.admitted (relay.handle now).steps).length < UInt64.size) :
    (relay.handle now).IsReceiving receiver := by
  cases first : relay.queue with
  | nil =>
      simp only [Relay.handle, first]
      exact receiving
  | cons commission rest =>
      cases given : commission.command? relay.max with
      | none =>
          rw [handle_of_none first now given]
          exact receiving
      | some command =>
          rw [handle_of_some first now hosted.recorded given] at few ⊢
          have answers := (hosted.answered_cases first now given).2.2.2
          have answered : (relay.set commission.connection
              (relay.answered now commission)).IsReceiving receiver := by
            refine isReceiving_set receiving fun here => ?_
            rcases receiving with ⟨ahead, told, heard, receives⟩
            rw [← here] at receives
            have linked := hosted.linked_answered first now given receives.linked
            rcases answers with still | ⟨unknown, frame, known, admitted⟩
            · rw [← List.append_nil told] at linked
              exact (receives.relinked linked (relay.frameEnd_answered ..) still
                (relay.handed_answered ..)
                  fun _ inside => absurd inside List.not_mem_nil).isReceiving
            · exact (receives.identified linked (relay.frameEnd_answered ..) unknown known
                (relay.handed_answered ..)
                  (hosted.recorded.of_stranger (hosted.recorded.fresh few admitted))).isReceiving
          rcases answered with ⟨ahead, told, heard, receives⟩
          exact (receives.extended (relay.step limits now command).handed
            (fun frame => Step.allHanded_concat ..)
            (hosted.recorded.ask now command few).2).isReceiving

/-- A forwarder writes a packet for its own frame. -/
theorem Hosted.isReceiving_forward
    (hosted : relay.Hosted limits) (receiving : relay.IsReceiving receiver) (number : Nat) :
    (relay.forward number).IsReceiving receiver := by
  cases stage : (relay.strands number).stage with
  | greeting | ended =>
      simp only [forward, stage]
      exact receiving
  | serving frame =>
      have known := (hosted.lodged number).identity_of_serving stage
      rcases hosted.recorded.next frame with ⟨head, _, waiting⟩
      rcases receiving with ⟨ahead, told, heard, receives⟩
      rw [forward_of_serving stage, head]
      change ((relay.set number _).strands receiver).IsReceiving relay.max relay.steps _
      rw [strands_set]
      split
      · rename_i here
        subst here
        have first := waiting frame
        rw [if_pos rfl] at first
        exact (receives.forward stage known first).isReceiving
      · rename_i elsewhere
        refine (receives.others fun other own => ?_).isReceiving
        have apart : frame ≠ other := by
          rintro rfl
          exact elsewhere (hosted.apart receiver number frame own known)
        rw [waiting other, if_neg apart]

/-- A connection receives what its frame has been handed, whatever the tasks do. -/
theorem Hosted.isReceiving_perform
    (hosted : relay.Hosted limits) (receiving : relay.IsReceiving receiver)
    (large : Line.maxSize ≤ relay.max) {sender : Nat} {move : Move}
    (permitted : relay.Permits sender receiver move)
    (few : (Step.admitted (relay.perform move).steps).length < UInt64.size) :
    (relay.perform move).IsReceiving receiver := by
  rcases receiving with ⟨ahead, told, heard, receives⟩
  have receiving : relay.IsReceiving receiver := receives.isReceiving
  cases move with
  | call number what =>
      refine isReceiving_modify (·.call what) receiving fun _ => ?_
      exact receives.goesOn (receives.linked.goesOn_call what) (receives.held.call what)
  | send number route packet =>
      refine isReceiving_modify (·.send route packet) receiving fun _ => ?_
      exact receives.send route packet
  | detach number =>
      exact isReceiving_modify Strand.detach receiving fun here => absurd here permitted
  | release number =>
      exact isReceiving_modify Strand.release receiving fun here => absurd here permitted
  | inject number bytes last =>
      exact isReceiving_modify (·.inject bytes last) receiving fun here => absurd here permitted.2
  | write number =>
      refine isReceiving_modify Strand.write receiving fun _ => ?_
      refine receives.goesOn receives.linked.goesOn_write ?_
      unfold Strand.write
      split <;> exact receives.held
  | read number count =>
      refine isReceiving_modify (·.read count) receiving fun _ => ?_
      exact receives.goesOn (receives.linked.goesOn_read count) receives.held
  | take number count =>
      refine isReceiving_modify (·.take count) receiving fun _ => ?_
      rcases receives.linked.goesOn_take count with ⟨goesOn, held⟩
      exact receives.goesOn goesOn (held receives.held)
  | close number =>
      refine isReceiving_modify Strand.close receiving fun _ => ?_
      rcases receives.linked.goesOn_close with ⟨goesOn, held⟩
      exact receives.goesOn goesOn (held receives.held)
  | resume number =>
      refine isReceiving_modify Strand.resume receiving fun _ => ?_
      unfold Strand.resume
      split
      · rename_i messages stage answered
        -- What a task writes after it has waited is an answer and no packet.
        have plain := ((hosted.lodged receiver).of_answered answered).2.1
        exact (receives.relinked (receives.linked.resume answered) rfl rfl rfl plain).isReceiving
      · exact receives.isReceiving
  | finish number =>
      exact isReceiving_finish receiving number
  | fail number =>
      simp only [perform, fail]
      split
      · exact (isReceiving_commit _).mpr
          (isReceiving_set receiving fun same => absurd same permitted.2)
      · exact receiving
  | hear number now =>
      exact isReceiving_hear receiving large number now
  | handle now =>
      exact hosted.isReceiving_handle receiving now few
  | forward number =>
      exact hosted.isReceiving_forward receiving number

end Relay

end SessionBus
