import SessionBus.Proofs.Hub.SlotChange

/-!
# Hubs that differ in what waits

What a hub answers, and whom it serves, depends on its switchboard but not on the packets that lie
in inboxes.  Two hubs that differ in their inboxes only do the same with every act but the one that
writes packets, and still differ in their inboxes only.
-/

namespace SessionBus

namespace Exchange

variable {exchange other : Exchange} (same : other.board = exchange.board)

include same

theorem request_of_board {α : Type} (closed : α) (ask : Switchboard → Turn α) :
    (other.request closed ask).1 = (exchange.request closed ask).1 := by
  unfold request
  rw [same]
  cases exchange.board <;> rfl

theorem board_ask_of_board (now : Instant) (command : Command) :
    (other.ask now command).board = (exchange.ask now command).board := by
  rw [board_ask, board_ask, same]

theorem board_unregister_of_board (frame : FrameId) :
    (other.unregister frame).board = (exchange.unregister frame).board := by
  rw [other.unregister_eq_ask .epoch, exchange.unregister_eq_ask .epoch]
  exact board_ask_of_board same _ _

end Exchange

/-- Two answers say the same and lead to the same stage and the same switchboard. -/
structure Answer.Alike (answer other : Answer) : Prop where
  messages : other.messages = answer.messages
  stage : other.stage = answer.stage
  board : other.exchange.board = answer.exchange.board

namespace Connection

variable {exchange other : Exchange} (same : other.board = exchange.board)

include same

theorem serve_of_board (frame : FrameId) (now : Instant) (request : Request) :
    (serve other frame now request).messages = (serve exchange frame now request).messages ∧
      (serve other frame now request).stage = (serve exchange frame now request).stage := by
  cases request with
  | connect | send | ping | disconnect =>
      exact ⟨rfl, rfl⟩
  | claimSession request session =>
      have replied : (other.claim frame session now).1 = (exchange.claim frame session now).1 :=
        Exchange.request_of_board same _ _
      simp only [serve, goOnAfterPause, replied, and_self]
  | joinSession request session displayName =>
      have replied : (other.join frame session displayName now).1 =
          (exchange.join frame session displayName now).1 :=
        Exchange.request_of_board same _ _
      simp only [serve, goOnAfterPause, replied, and_self]
  | describeSession request session =>
      simp only [serve, goOnAfterPause, Exchange.describe, same, and_self]

theorem greet_of_board (message : FrameMessage) :
    (greet other message).messages = (greet exchange message).messages ∧
      (greet other message).stage = (greet exchange message).stage := by
  have replied : other.register.1 = exchange.register.1 := Exchange.request_of_board same _ _
  unfold greet
  split
  · exact ⟨rfl, rfl⟩
  · split
    · rcases said : other.register with ⟨result, first⟩
      rcases heard : exchange.register with ⟨_, second⟩
      rw [said, heard] at replied
      cases replied
      cases result <;> exact ⟨rfl, rfl⟩
    · exact ⟨rfl, rfl⟩

/-- A connection answers what the switchboard says. -/
theorem handle_of_board (max : Nat) (now : Instant) (stage : Stage) (incoming : Incoming) :
    (handle exchange max now stage incoming).Alike (handle other max now stage incoming) := by
  have told : (handle other max now stage incoming).messages =
        (handle exchange max now stage incoming).messages ∧
      (handle other max now stage incoming).stage =
        (handle exchange max now stage incoming).stage := by
    cases stage with
    | ended =>
        exact ⟨rfl, rfl⟩
    | greeting deadline =>
        cases incoming with
        | tooLong | notText =>
            exact ⟨rfl, rfl⟩
        | line text =>
            simp only [handle]
            split
            · exact greet_of_board same _
            · exact ⟨rfl, rfl⟩
    | serving frame =>
        cases incoming with
        | tooLong | notText =>
            exact ⟨rfl, rfl⟩
        | line text =>
            simp only [handle]
            split
            · exact serve_of_board same frame now _
            · exact ⟨rfl, rfl⟩
            · exact ⟨rfl, rfl⟩
  refine ⟨told.1, told.2, ?_⟩
  rw [exchange_handle, exchange_handle]
  cases command? max stage incoming with
  | none =>
      exact same
  | some command =>
      exact Exchange.board_ask_of_board same now command

theorem endOfStream_of_board (stage : Stage) :
    (endOfStream exchange stage).Alike (endOfStream other stage) := by
  cases stage with
  | ended | greeting =>
      exact ⟨rfl, rfl, same⟩
  | serving frame =>
      exact ⟨rfl, rfl, Exchange.board_unregister_of_board same frame⟩

end Connection

namespace Hub

theorem map_act_run (hub : Hub) (acts : List Act) : (hub.run acts).map (·.act) = acts := by
  induction acts generalizing hub with
  | nil =>
      rfl
  | cons act rest ih =>
      exact congrArg _ (ih (hub.perform act).1)

/-- Two hubs are alike if they differ at most in what lies in inboxes and feeds. -/
def Alike (hub other : Hub) : Prop :=
  ∃ exchange : Exchange, exchange.board = hub.exchange.board ∧ other = { hub with exchange }

variable {hub other : Hub}

namespace Alike

theorem refl (hub : Hub) : hub.Alike hub :=
  ⟨hub.exchange, rfl, rfl⟩

theorem symm (alike : hub.Alike other) : other.Alike hub := by
  rcases alike with ⟨exchange, same, rfl⟩
  exact ⟨hub.exchange, same.symm, rfl⟩

theorem trans {third : Hub} (first : hub.Alike other) (second : other.Alike third) :
    hub.Alike third := by
  rcases first with ⟨one, same, rfl⟩
  rcases second with ⟨two, again, rfl⟩
  exact ⟨two, again.trans same, rfl⟩

theorem board (alike : hub.Alike other) : other.exchange.board = hub.exchange.board := by
  rcases alike with ⟨exchange, same, rfl⟩
  exact same

theorem connection? (alike : hub.Alike other) (number : Nat) :
    other.connection? number = hub.connection? number := by
  rcases alike with ⟨exchange, same, rfl⟩
  rfl

/-- What is left of answers that are alike is alike. -/
theorem settled (alike : hub.Alike other) {answer another : Answer} (told : answer.Alike another) :
    (hub.settled answer).Alike (other.settled another) := by
  rcases alike with ⟨exchange, same, rfl⟩
  rcases answer with ⟨messages, stage, first, pauses⟩
  rcases another with ⟨others, next, second, more⟩
  obtain rfl : others = messages := told.messages
  obtain rfl : next = stage := told.stage
  have boards : second.board = first.board := told.board
  cases next with
  | ended | greeting =>
      exact ⟨rfl, rfl, boards⟩
  | serving frame =>
      simp only [Hub.settled]
      split
      · exact ⟨rfl, rfl, Exchange.board_unregister_of_board boards frame⟩
      · exact ⟨rfl, rfl, boards⟩

/-- Answers that are alike are carried out alike. -/
theorem carryOut (alike : hub.Alike other) (connection : Connection) {answer another : Answer}
    (told : answer.Alike another) :
    (hub.carryOut connection answer).1.Alike (other.carryOut connection another).1 ∧
      (other.carryOut connection another).2 = (hub.carryOut connection answer).2 := by
  have left := alike.settled told
  have stages := left.stage
  rw [carryOut_eq, carryOut_eq, stages, told.messages]
  refine ⟨⟨(other.settled another).exchange, left.board, ?_⟩, rfl⟩
  rcases alike with ⟨exchange, same, rfl⟩
  rfl

theorem answerTo (alike : hub.Alike other) (connection : Connection) (now : Instant)
    (incoming : Incoming) :
    (hub.answerTo connection now incoming).Alike (other.answerTo connection now incoming) := by
  have boards := alike.board
  rcases alike with ⟨exchange, same, rfl⟩
  exact Connection.handle_of_board boards _ now connection.stage incoming

/-- Whatever is done but for the packets that are written is done alike. -/
theorem perform (alike : hub.Alike other) {act : Act} (quiet : act ≠ .forward) :
    (hub.perform act).1.Alike (other.perform act).1 ∧
      (other.perform act).2 = (hub.perform act).2 := by
  cases act with
  | forward =>
      exact absurd rfl quiet
  | accept =>
      rcases alike with ⟨exchange, same, rfl⟩
      refine ⟨⟨exchange, ?_, ?_⟩, rfl⟩ <;> simp only [Hub.perform, accept]
      · split <;> exact same
      · split <;> rfl
  | pass | stop =>
      rcases alike with ⟨exchange, same, rfl⟩
      exact ⟨⟨exchange, same, rfl⟩, rfl⟩
  | read number bytes =>
      have found := alike.connection? number
      simp only [Hub.perform, found]
      cases hub.connection? number with
      | none =>
          exact ⟨alike, rfl⟩
      | some connection =>
          rcases alike with ⟨exchange, same, rfl⟩
          exact ⟨⟨exchange, same, rfl⟩, rfl⟩
  | hear number now incoming =>
      have found := alike.connection? number
      simp only [Hub.perform, found]
      cases hub.connection? number with
      | none =>
          exact ⟨alike, rfl⟩
      | some connection =>
          exact alike.carryOut connection (alike.answerTo connection now incoming)
  | leave number =>
      have found := alike.connection? number
      simp only [Hub.perform, found]
      cases hub.connection? number with
      | none =>
          exact ⟨alike, rfl⟩
      | some connection =>
          exact alike.carryOut connection
            (Connection.endOfStream_of_board alike.board connection.stage)

theorem performAll (alike : hub.Alike other) {acts : List Act} (quiet : .forward ∉ acts) :
    (hub.performAll acts).1.Alike (other.performAll acts).1 ∧
      (other.performAll acts).2 = (hub.performAll acts).2 := by
  induction acts generalizing hub other with
  | nil =>
      exact ⟨alike, rfl⟩
  | cons act rest ih =>
      rw [List.mem_cons, not_or] at quiet
      rcases alike.perform (Ne.symm quiet.1) with ⟨first, same⟩
      rcases ih first quiet.2 with ⟨later, more⟩
      exact ⟨later, by simp only [Hub.performAll, same, more]⟩

theorem allows (alike : hub.Alike other) {act : Act} (allowed : hub.Allows act) :
    other.Allows act := by
  rcases alike with ⟨exchange, same, rfl⟩
  cases act <;> exact allowed

theorem dismissed? (alike : hub.Alike other) {answer another : Answer}
    (told : answer.Alike another) : other.dismissed? another = hub.dismissed? answer := by
  rcases alike with ⟨exchange, same, rfl⟩
  simp only [Hub.dismissed?, told.stage]

/-- Hubs that are alike ask their switchboards the same. -/
theorem commandsFor (alike : hub.Alike other) (act : Act) :
    other.commandsFor act = hub.commandsFor act := by
  have limit : other.maxMessageSize = hub.maxMessageSize := by
    rcases alike with ⟨exchange, same, rfl⟩
    rfl
  cases act with
  | accept | read | forward | pass | stop =>
      rfl
  | hear number now incoming =>
      have found := alike.connection? number
      simp only [Hub.commandsFor, found, limit]
      cases hub.connection? number with
      | none =>
          rfl
      | some connection =>
          simp only [alike.dismissed? (alike.answerTo connection now incoming)]
  | leave number =>
      have found := alike.connection? number
      simp only [Hub.commandsFor, found]

/-- What one of them does act by act, the other does alike. -/
theorem run (alike : hub.Alike other) {acts : List Act} (quiet : .forward ∉ acts) :
    List.Forall₂ (fun first second => second.act = first.act ∧ first.before.Alike second.before)
      (hub.run acts) (other.run acts) := by
  induction acts generalizing hub other with
  | nil =>
      exact .nil
  | cons act rest ih =>
      rw [List.mem_cons, not_or] at quiet
      exact .cons ⟨rfl, alike⟩ (ih (alike.perform (Ne.symm quiet.1)).1 quiet.2)

theorem allows_run
    (alike : hub.Alike other) {acts : List Act} (quiet : .forward ∉ acts)
    (allowed : ∀ moment ∈ hub.run acts, moment.before.Allows moment.act) :
    ∀ moment ∈ other.run acts, moment.before.Allows moment.act := by
  have pairs := alike.run quiet
  generalize hub.run acts = moments at pairs allowed
  generalize other.run acts = others at pairs
  induction pairs with
  | nil =>
      exact fun _ => nofun
  | cons same _ ih =>
      rw [List.forall_mem_cons] at allowed ⊢
      exact ⟨same.1 ▸ same.2.allows allowed.1, ih allowed.2⟩

/-- Both ask their switchboards the same. -/
theorem commands_run (alike : hub.Alike other) {acts : List Act} (quiet : .forward ∉ acts) :
    ((other.run acts).flatMap fun moment => moment.before.commandsFor moment.act) =
      (hub.run acts).flatMap fun moment => moment.before.commandsFor moment.act := by
  have pairs := alike.run quiet
  generalize hub.run acts = moments at pairs
  generalize other.run acts = others at pairs
  induction pairs with
  | nil =>
      rfl
  | cons same _ ih =>
      rw [List.flatMap_cons, List.flatMap_cons, ih, same.1, same.2.commandsFor]

theorem consistent {max : Nat} (alike : hub.Alike other) (consistent : other.Consistent max) :
    hub.Consistent max := by
  have running := consistent.running
  rw [alike.board] at running
  rcases alike with ⟨exchange, same, rfl⟩
  exact ⟨consistent.limit, consistent.apart, consistent.numbered, consistent.alive,
    consistent.readers, consistent.idle, running⟩

end Alike

end Hub

end SessionBus
