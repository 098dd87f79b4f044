import SessionBus.Proofs.Hub.Fate
import SessionBus.Proofs.Relay.Course

/-!
# What a connection may be for a hub

A command in the queue of the switchboard speaks for the frame of the connection that it has come
from.  A connection serves no frame or one that the switchboard has given it, and it serves that
frame until it ends.
-/

namespace SessionBus

/-! ## Commissions -/

/-- The packet that a command hands over for a frame, with its route. -/
def Command.sent? (frame : FrameId) : Command → Option (Route × Packet)
  | .deliver route packet => if packet.sender = frame then some (route, packet) else none
  | _ => none

theorem Command.eq_deliver_of_sent
    {frame : FrameId} {command : Command} {entry : Route × Packet}
    (sent : command.sent? frame = some entry) :
    command = .deliver entry.1 entry.2 ∧ entry.2.sender = frame := by
  unfold sent? at sent
  split at sent
  · rw [Option.ite_none_right_eq_some, Option.some.injEq] at sent
    rcases sent with ⟨own, rfl⟩
    exact ⟨rfl, own⟩
  · cases sent

namespace Connection

/-- The hub takes a frame out when it hears a farewell. -/
theorem isFarewell_of_unregister
    {max : Nat} {frame gone : FrameId} {incoming : Incoming}
    (given : command? max (.serving frame) incoming = some (.unregister gone)) :
    gone = frame ∧ isFarewell max incoming = true := by
  cases incoming with
  | tooLong =>
      cases given
  | notText =>
      cases given
      exact ⟨rfl, rfl⟩
  | line text =>
      simp only [command?] at given
      simp only [isFarewell]
      split at given
      · rename_i message read
        rcases message with ⟨version, request⟩
        cases request <;> cases given
        exact ⟨rfl, by simp⟩
      · cases given

end Connection

namespace Commission

variable {commission : Commission} {max : Nat} {command : Command} {frame : FrameId}

/-- The switchboard is asked no more than the command. -/
theorem exchange_answer
    (commission : Commission) (exchange : Exchange) (max : Nat) (now : Instant) :
    (commission.answer exchange max now).exchange =
      (commission.command? max).elim exchange (exchange.ask now) := by
  rcases commission with ⟨number, stage, incoming⟩
  cases incoming with
  | none =>
      cases stage with
      | serving frame =>
          exact exchange.unregister_eq_ask now frame
      | greeting | ended =>
          rfl
  | some incoming =>
      exact Connection.exchange_handle exchange now max stage incoming

/-- A packet is handed over for the frame that the connection serves. -/
theorem stage_of_sent {entry : Route × Packet}
    (given : commission.command? max = some command) (sent : command.sent? frame = some entry) :
    commission.stage = .serving frame := by
  rcases commission with ⟨number, stage, incoming⟩
  cases incoming with
  | none =>
      cases stage <;> cases given
      cases sent
  | some incoming =>
      rcases entry with ⟨route, packet⟩
      rcases Command.eq_deliver_of_sent sent with ⟨rfl, own⟩
      rcases Connection.command?_cases given with
        ⟨other, _⟩ | ⟨served, serving, other | ⟨_, message, _, _, asked⟩⟩
      · cases other
      · cases other
      · rcases message with ⟨version, request⟩
        cases request <;> cases asked
        exact serving.trans (congrArg _ own)

/-- A frame is taken out when its own connection ends. -/
theorem of_unregister (given : commission.command? max = some (.unregister frame)) :
    commission.stage = .serving frame ∧
      ∀ exchange now, (commission.answer exchange max now).stage = .ended := by
  rcases commission with ⟨number, stage, incoming⟩
  cases incoming with
  | none =>
      cases stage <;> cases given
      exact ⟨rfl, fun _ _ => rfl⟩
  | some incoming =>
      cases stage with
      | serving served =>
          rcases Connection.isFarewell_of_unregister given with ⟨rfl, farewell⟩
          refine ⟨rfl, fun exchange now => ?_⟩
          simp only [answer, Connection.stage_handle_serving, farewell, if_true]
      | greeting deadline =>
          rcases Connection.command?_cases given with ⟨other, _⟩ | ⟨_, serving, _⟩
          · cases other
          · cases serving
      | ended =>
          cases given

/-- What becomes of a connection when nobody waits: it goes on to serve its frame, or it ends. -/
theorem stage_answer_of_not_isAwaited
    (unheard : commission.isAwaited max = false) (exchange : Exchange) (now : Instant) :
    (commission.answer exchange max now).stage = .ended ∨
      ∃ frame, commission.stage = .serving frame ∧
        (commission.answer exchange max now).stage = .serving frame := by
  rcases commission with ⟨number, stage, incoming⟩
  cases incoming with
  | none =>
      cases stage <;> exact .inl rfl
  | some incoming =>
      cases stage with
      | ended =>
          exact .inl rfl
      | serving frame =>
          simp only [answer, Connection.stage_handle_serving]
          split
          · exact .inl rfl
          · exact .inr ⟨frame, rfl, rfl⟩
      | greeting deadline =>
          left
          rcases Connection.handle_greeting_cases exchange now max deadline incoming with
            ⟨hungUp, _⟩ | ⟨text, message, rfl, read, ⟨_, _, refused, _⟩ | ⟨asks, _⟩⟩
          · exact congrArg Answer.stage hungUp
          · exact congrArg Answer.stage refused
          · simp [isAwaited, command?, Connection.command?, read, asks, Command.isAwaited]
              at unheard

end Commission

/-! ## Connections -/

/-- What a connection may be for a switchboard: it is greeted and has no identity yet, an identity
has been given out on it, it serves its frame, or it has ended. -/
inductive Strand.Lodged (strand : Strand) : Prop where
  | greeted (deadline : Nat) (stage : strand.stage = .greeting deadline)
      (task : ∀ messages after, strand.task = .answered messages after →
        after = .ended ∧ ∃ reason, messages = [.reject reason])
      (unknown : strand.identity = none)
  | taken (deadline : Nat) (frame : FrameId) (stage : strand.stage = .greeting deadline)
      (task : strand.task = .answered [.accept frame] (.serving frame))
      (known : strand.identity = some frame)
  | serving (frame : FrameId) (stage : strand.stage = .serving frame)
      (task : ∀ messages after, strand.task = .answered messages after →
        after = .serving frame ∧ ∀ message ∈ messages, message.isDelivery = false)
      (known : strand.identity = some frame)
  | ended (stage : strand.stage = .ended) (free : strand.task = .free)

namespace Strand.Lodged

variable {strand after : Strand}

theorem of_same
    (lodged : strand.Lodged) (stage : after.stage = strand.stage) (task : after.task = strand.task)
    (identity : after.identity = strand.identity) : after.Lodged := by
  cases lodged with
  | greeted deadline greeting waits unknown =>
      exact .greeted deadline (stage.trans greeting) (task ▸ waits) (identity.trans unknown)
  | taken deadline frame greeting answered known =>
      exact .taken deadline frame (stage.trans greeting) (task.trans answered)
        (identity.trans known)
  | serving frame serving waits known =>
      exact .serving frame (stage.trans serving) (task ▸ waits) (identity.trans known)
  | ended ended free =>
      exact .ended (stage.trans ended) (task.trans free)

theorem identity_of_serving
    (lodged : strand.Lodged) {frame : FrameId} (serves : strand.stage = .serving frame) :
    strand.identity = some frame := by
  cases lodged with
  | greeted _ stage | taken _ _ stage | ended stage =>
      rw [stage] at serves
      cases serves
  | serving served stage _ known =>
      rw [stage] at serves
      cases serves
      exact known

/-- A task that has an answer has something plain to write, and its connection has not ended. -/
theorem of_answered
    (lodged : strand.Lodged) {messages : List HubMessage} {stage : Stage}
    (answered : strand.task = .answered messages stage) :
    strand.stage ≠ .ended ∧ (∀ message ∈ messages, message.isDelivery = false) ∧
      ({ strand.tell messages with task := .free, stage } : Strand).Lodged := by
  cases lodged with
  | greeted deadline greeting task unknown =>
      rcases task messages stage answered with ⟨rfl, reason, rfl⟩
      refine ⟨by rw [greeting]; nofun, ?_, .ended rfl rfl⟩
      intro message inside
      rw [List.mem_singleton.mp inside]
      rfl
  | taken deadline frame greeting task known =>
      rw [task] at answered
      cases answered
      refine ⟨by rw [greeting]; nofun, ?_, .serving frame rfl nofun known⟩
      intro message inside
      rw [List.mem_singleton.mp inside]
      rfl
  | serving frame serving task known =>
      rcases task messages stage answered with ⟨rfl, plain⟩
      exact ⟨by rw [serving]; nofun, plain, .serving frame rfl nofun known⟩
  | ended _ free =>
      rw [free] at answered
      cases answered

/-- A task that hears something waits for the switchboard, or goes on at once. -/
theorem commit
    (lodged : strand.Lodged) (free : strand.task = .free) {max number : Nat}
    {incoming : Option Incoming} {exchange : Exchange} {now : Instant}
    (identity : after.identity = strand.identity)
    (waits : Commission.isAwaited max ⟨number, strand.stage, incoming⟩ = true →
      after.task = .waiting ∧ after.stage = strand.stage)
    (goes : Commission.isAwaited max ⟨number, strand.stage, incoming⟩ = false →
      after.task = .free ∧
        after.stage = (Commission.answer exchange max now ⟨number, strand.stage, incoming⟩).stage) :
    after.Lodged := by
  cases awaited : Commission.isAwaited max ⟨number, strand.stage, incoming⟩ with
  | true =>
      rcases waits awaited with ⟨task, stage⟩
      have waiting : ∀ messages next, after.task ≠ .answered messages next := by
        rw [task]
        nofun
      cases lodged with
      | greeted deadline greeting _ unknown =>
          exact .greeted deadline (stage.trans greeting)
            (fun messages next same => absurd same (waiting messages next))
            (identity.trans unknown)
      | taken _ _ _ answered =>
          rw [answered] at free
          cases free
      | serving frame serving _ known =>
          exact .serving frame (stage.trans serving)
            (fun messages next same => absurd same (waiting messages next)) (identity.trans known)
      | ended ended =>
          rcases Commission.exists_of_isAwaited _ awaited with ⟨incoming, command, _, given, _⟩
          simp only [ended] at given
          cases given
  | false =>
      rcases goes awaited with ⟨task, stage⟩
      rcases Commission.stage_answer_of_not_isAwaited awaited exchange now with
        ended | ⟨frame, serving, serves⟩
      · exact .ended (stage.trans ended) task
      · refine .serving frame (stage.trans serves) ?_
          (identity.trans (lodged.identity_of_serving serving))
        rw [task]
        nofun

/-- The switchboard answers a task that waits.  It gives out an identity on a connection that has
none, or none at all. -/
theorem await
    (lodged : strand.Lodged) {commission : Commission} (waits : strand.task = .waiting)
    (same : strand.stage = commission.stage) {max : Nat}
    (awaited : commission.isAwaited max = true) (exchange : Exchange) (now : Instant) :
    let after := strand.await (commission.answer exchange max now)
    after.Lodged ∧
      (after.identity = strand.identity ∨
        strand.identity = none ∧ ∃ frame, after.identity = some frame ∧
          commission.command? max = some .register ∧ exchange.register.1 = .ok frame) := by
  intro after
  rcases commission.exists_of_isAwaited awaited with ⟨incoming, command, heard, given, waited⟩
  have command? : commission.command? max = some command := by
    simp only [Commission.command?, heard]
    exact given
  have handled : commission.answer exchange max now =
      Connection.handle exchange max now strand.stage incoming := by
    simp only [Commission.answer, heard, same]
  rw [← same] at given
  cases lodged with
  | taken _ _ _ answered =>
      rw [answered] at waits
      cases waits
  | ended _ free =>
      rw [free] at waits
      cases waits
  | greeted deadline greeting _ unknown =>
      rw [greeting] at given handled
      rcases Connection.command?_cases given with ⟨rfl, _⟩ | ⟨_, serving, _⟩
      · rcases Connection.handle_of_register given exchange now with
          ⟨reason, refused⟩ | ⟨frame, taken, accepted⟩
        · rw [refused] at handled
          have still : after.identity = strand.identity := by
            simp only [after, Strand.await, handled]
            rfl
          refine ⟨.greeted deadline greeting ?_ (still.trans unknown), .inl still⟩
          intro messages next answered
          simp only [after, Strand.await, handled] at answered
          cases answered
          exact ⟨rfl, reason, rfl⟩
        · rw [accepted] at handled
          have known : after.identity = some frame := by
            simp only [after, Strand.await, handled]
            rfl
          refine ⟨.taken deadline frame greeting ?_ known,
            .inr ⟨unknown, frame, known, command?, taken⟩⟩
          simp only [after, Strand.await, handled]
          rfl
      · cases serving
  | serving frame serving _ known =>
      rw [serving] at given handled
      have goesOn := Connection.stage_handle_serving exchange now max frame incoming
      rw [Connection.isFarewell_of_isAwaited given waited, if_neg Bool.false_ne_true] at goesOn
      have still : after.identity = strand.identity := by
        simp only [after, Strand.await, handled, goesOn, known]
        rfl
      refine ⟨.serving frame serving ?_ (still.trans known), .inl still⟩
      intro messages next answered
      simp only [after, Strand.await, handled, goesOn] at answered
      cases answered
      exact ⟨rfl, Hub.isDelivery_handle exchange now max (.serving frame) incoming⟩

end Strand.Lodged

end SessionBus
