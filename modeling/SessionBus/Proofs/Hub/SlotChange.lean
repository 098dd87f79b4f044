import SessionBus.Proofs.Hub.Lines
import SessionBus.Proofs.Registry.Turn

/-!
# What an act does to the slots for frames

A slot for a frame is taken by the line that asks to connect, and it is given back when the
connection ends, whatever ends it: a farewell, bytes that are no text, the end of the stream or of
the hub.  Nothing else touches the registered frames.
-/

namespace SessionBus

namespace Output

/-- The connections that have been accepted, with the identities of their frames. -/
def accepted (outputs : List Output) : List (Nat × FrameId) :=
  outputs.filterMap fun output =>
    match output with
    | .write number message => message.identity?.map (number, ·)
    | .close _ => none

theorem accepted_append (first second : List Output) :
    accepted (first ++ second) = accepted first ++ accepted second :=
  List.filterMap_append

theorem mem_accepted {number : Nat} {frame : FrameId} {outputs : List Output} :
    (number, frame) ∈ accepted outputs ↔ frame ∈ identities number outputs := by
  rw [identities, accepted, List.mem_filterMap, List.mem_filterMap]
  constructor
  · rintro ⟨output, inside, told⟩
    cases output with
    | close other =>
        cases told
    | write other message =>
        rcases Option.map_eq_some_iff.mp told with ⟨identity, same, own⟩
        cases own
        exact ⟨message, mem_messagesTo.mpr inside, same⟩
  · rintro ⟨message, inside, told⟩
    exact ⟨_, mem_messagesTo.mp inside, Option.map_eq_some_iff.mpr ⟨frame, told, rfl⟩⟩

/-- The answer to one line accepts the connection as often as it tells an identity. -/
theorem accepted_written
    (number : Nat) (messages : List HubMessage) (closes : Prop) [Decidable closes] :
    accepted (messages.map (.write number) ++ if closes then [.close number] else []) =
      (messages.filterMap HubMessage.identity?).map (number, ·) := by
  have none : accepted (if closes then [.close number] else []) = [] := by
    split <;> rfl
  rw [accepted_append, none, List.append_nil]
  induction messages with
  | nil =>
      rfl
  | cons message rest ih =>
      rw [accepted] at ih
      cases told : message.identity? <;> simp [accepted, told, ih]

end Output

/-! ## Commands -/

/-- The frame that a command takes out. -/
def Command.leaver? : Command → Option FrameId
  | .unregister frame => some frame
  | _ => none

namespace Connection

variable {max : Nat} {frame : FrameId} {incoming : Incoming}

/-- A farewell takes the frame out. -/
theorem command?_of_farewell (parts : isFarewell max incoming = true) :
    command? max (.serving frame) incoming = some (.unregister frame) := by
  cases incoming with
  | tooLong =>
      cases parts
  | notText =>
      rfl
  | line text =>
      simp only [isFarewell] at parts
      split at parts
      · rename_i message parsed
        have leaves : message.request = .disconnect := by simpa using parts
        simp [command?, parsed, leaves, Request.command?]
      · cases parts

/-- Nothing else that a frame says takes a frame in or out. -/
theorem command?_of_stays
    (stays : isFarewell max incoming = false) {command : Command}
    (asked : command? max (.serving frame) incoming = some command) :
    command ≠ .register ∧ command.leaver? = none := by
  cases incoming with
  | tooLong =>
      cases asked
  | notText =>
      simp [isFarewell] at stays
  | line text =>
      simp only [command?] at asked
      split at asked
      · rename_i message parsed
        rcases message with ⟨version, request⟩
        cases request <;> cases asked <;> simp [isFarewell, parsed, Command.leaver?] at stays ⊢
      · cases asked

end Connection

theorem Switchboard.steady_refl (board : Switchboard) : board.Steady board :=
  ⟨rfl, rfl, rfl⟩

namespace Exchange

theorem board_of_registered
    {exchange : Exchange} {board : Switchboard} (running : exchange.board = some board)
    {result : Except SwitchboardError FrameId} (asked : exchange.register.1 = result) :
    board.register.reply = result ∧ exchange.register.2.board = some board.register.board := by
  simp only [register, request, running] at asked ⊢
  exact ⟨asked, rfl⟩

theorem board_of_unregistered
    {exchange : Exchange} {board : Switchboard} (running : exchange.board = some board)
    (frame : FrameId) :
    (exchange.unregister frame).board = some (board.unregister frame).board := by
  simp only [unregister, request, running]
  rfl

end Exchange

namespace Hub

variable {hub : Hub} {limits : Limits} {max number : Nat} {past : List Moment} {act : Act}

/-- The frames that an act takes out of the switchboard. -/
def releases (hub : Hub) (act : Act) : List FrameId :=
  (hub.commandsFor act).filterMap fun entry => entry.2.leaver?

/-- All frames that have been taken out of the switchboard. -/
def released (moments : List Moment) : List FrameId :=
  moments.flatMap fun moment => moment.before.releases moment.act

/-! ## What an act does to the slots -/

def ServesFrame (hub : Hub) (number : Nat) (frame : FrameId) : Prop :=
  hub.stage? number = some (.serving frame)

/-- What an act does to the slots: nothing, or it takes one, or both takes one and gives it back, or
it gives one back. -/
inductive SlotChange (hub : Hub) (board : Switchboard) (act : Act) : Prop
  | kept
      (after : Switchboard)
      (running : (hub.perform act).1.exchange.board = some after)
      (steady : board.Steady after)
      (released : hub.releases act = [])
      (serves : ∀ number frame,
        (hub.perform act).1.ServesFrame number frame ↔ hub.ServesFrame number frame)
      (accepted : Output.accepted (hub.perform act).2 = [])
  | taken (number : Nat) (frame : FrameId)
      (free : ∀ other, ¬ hub.ServesFrame number other)
      (registered : board.register.reply = .ok frame)
      (running : (hub.perform act).1.exchange.board = some board.register.board)
      (released : hub.releases act = [])
      (serves : ∀ other served, (hub.perform act).1.ServesFrame other served ↔
        other = number ∧ served = frame ∨ hub.ServesFrame other served)
      (accepted : Output.accepted (hub.perform act).2 = [(number, frame)])
  | passed (number : Nat) (frame : FrameId)
      (registered : board.register.reply = .ok frame)
      (running : (hub.perform act).1.exchange.board =
        some (board.register.board.unregister frame).board)
      (released : hub.releases act = [frame])
      (serves : ∀ number frame,
        (hub.perform act).1.ServesFrame number frame ↔ hub.ServesFrame number frame)
      (accepted : Output.accepted (hub.perform act).2 = [(number, frame)])
  | freed (number : Nat) (frame : FrameId)
      (served : hub.ServesFrame number frame)
      (running : (hub.perform act).1.exchange.board = some (board.unregister frame).board)
      (released : hub.releases act = [frame])
      (serves : ∀ other served, (hub.perform act).1.ServesFrame other served ↔
        other ≠ number ∧ hub.ServesFrame other served)
      (accepted : Output.accepted (hub.perform act).2 = [])

section OneConnection

variable (allowed : hub.Allows act) (own : act.number? = some number)

include allowed own

/-- What becomes of one connection does not change which frames the others serve. -/
theorem servesFrame_other {other : Nat} (different : other ≠ number) (frame : FrameId) :
    (hub.perform act).1.ServesFrame other frame ↔ hub.ServesFrame other frame := by
  have elsewhere : act.number? ≠ some other := by
    rw [own]
    exact fun same => different (Option.some.inj same).symm
  have comes : act ≠ .accept := by
    rintro rfl
    cases own
  unfold ServesFrame stage?
  rw [connection?_perform allowed elsewhere comes]

theorem servesFrame_kept
    (same : ∀ frame, (hub.perform act).1.ServesFrame number frame ↔ hub.ServesFrame number frame)
    (other : Nat) (frame : FrameId) :
    (hub.perform act).1.ServesFrame other frame ↔ hub.ServesFrame other frame := by
  by_cases here : other = number
  · subst here
    exact same frame
  · exact servesFrame_other allowed own here frame

theorem servesFrame_taken
    {frame : FrameId} (unserved : ∀ served, ¬ hub.ServesFrame number served)
    (serves : (hub.perform act).1.stage? number = some (.serving frame)) (other : Nat)
    (served : FrameId) :
    (hub.perform act).1.ServesFrame other served ↔
      other = number ∧ served = frame ∨ hub.ServesFrame other served := by
  by_cases here : other = number
  · subst here
    rw [ServesFrame, serves]
    simp [unserved served, eq_comm]
  · rw [servesFrame_other allowed own here served]
    simp [here]

theorem servesFrame_freed
    (unserved : ∀ served, ¬ (hub.perform act).1.ServesFrame number served) (other : Nat)
    (served : FrameId) :
    (hub.perform act).1.ServesFrame other served ↔
      other ≠ number ∧ hub.ServesFrame other served := by
  by_cases here : other = number
  · subst here
    exact iff_of_false (unserved served) fun both => both.1 rfl
  · rw [servesFrame_other allowed own here served]
    simp [here]

end OneConnection

/-- An act on which nothing is said does not change the slots. -/
theorem kept_of_quiet
    (consistent : hub.Consistent max) (allowed : hub.Allows act) {board : Switchboard}
    (running : hub.exchange.board = some board)
    (same : (hub.perform act).1.exchange.board = hub.exchange.board)
    (silent : hub.commandsFor act = [])
    (spared : ∀ number, (∀ now incoming, act ≠ .hear number now incoming) ∧ act ≠ .leave number)
    (accepted : Output.accepted (hub.perform act).2 = []) : SlotChange hub board act := by
  refine .kept board (same.trans running) board.steady_refl ?_ ?_ accepted
  · rw [releases, silent]
    rfl
  · intro number frame
    unfold ServesFrame
    cases fate consistent allowed number with
    | spared stage =>
        rw [stage]
    | admitted act_eq next deadline absent stage =>
        rw [stage, absent]
        simp
    | heard now incoming act_eq =>
        exact absurd act_eq ((spared number).1 now incoming)
    | left act_eq =>
        exact absurd act_eq (spared number).2

section Answers

variable {board : Switchboard} {connection : Connection} {now : Instant} {incoming : Incoming}

theorem perform_hear
    (known : hub.connection? number = some connection) (now : Instant) (incoming : Incoming) :
    let answer := hub.answerTo connection now incoming
    let performed := hub.perform (.hear number now incoming)
    performed.1.exchange = (hub.settled answer).exchange ∧
      performed.1.stage? number =
        (if (hub.settled answer).stage = .ended then none else some (hub.settled answer).stage) ∧
      Output.accepted performed.2 =
        (answer.messages.filterMap HubMessage.identity?).map (number, ·) := by
  intro answer performed
  have carried : performed = hub.carryOut connection answer := by
    simp only [performed, perform, known]
    rfl
  rw [carried]
  refine ⟨?_, ?_, ?_⟩
  · rw [carryOut_eq]
    rfl
  · rw [stage?_carryOut known, if_pos rfl]
  · rw [carryOut_eq, number_of_connection? known]
    exact Output.accepted_written number _ _

theorem releases_hear
    (known : hub.connection? number = some connection) (now : Instant) (incoming : Incoming) :
    hub.releases (.hear number now incoming) =
      ((Connection.command? hub.maxMessageSize connection.stage incoming).bind
          Command.leaver?).toList ++
        (hub.dismissed? (hub.answerTo connection now incoming)).toList := by
  simp only [releases, commandsFor, known]
  cases Connection.command? hub.maxMessageSize connection.stage incoming with
  | none =>
      cases hub.dismissed? (hub.answerTo connection now incoming) <;> rfl
  | some command =>
      cases hub.dismissed? (hub.answerTo connection now incoming) <;> cases command <;> rfl

section Greeting

variable (running : hub.exchange.board = some board)
  (known : hub.connection? number = some connection) {deadline : Nat}
  (greeting : connection.stage = .greeting deadline)

include known greeting

theorem unserved_of_greeting (frame : FrameId) : ¬ hub.ServesFrame number frame := by
  rw [ServesFrame, stage?_of_connection? known, greeting]
  nofun

/-- Only a hub that stops takes out a frame again at its first line. -/
theorem releases_greeting (now : Instant) (incoming : Incoming) :
    hub.releases (.hear number now incoming) =
      (hub.dismissed? (hub.answerTo connection now incoming)).toList := by
  rw [releases_hear known]
  cases given : Connection.command? hub.maxMessageSize connection.stage incoming with
  | none =>
      rfl
  | some command =>
      rcases Connection.command?_cases given with ⟨rfl, _⟩ | ⟨frame, serving, _⟩
      · rfl
      · rw [greeting] at serving
        cases serving

include running

/-- A connection that ends without an identity leaves the slots alone. -/
theorem slots_refused
    {reply : List HubMessage} (untold : reply.filterMap HubMessage.identity? = [])
    (refused : hub.answerTo connection now incoming =
      { messages := reply, stage := .ended, exchange := hub.exchange }) :
    SlotChange hub board (.hear number now incoming) := by
  have released := releases_greeting known greeting now incoming
  rcases perform_hear known now incoming with ⟨exchange, stage, accepted⟩
  rw [refused] at exchange stage accepted released
  refine .kept board (exchange ▸ running) board.steady_refl released ?_ ?_
  · refine servesFrame_kept ⟨connection, known⟩ rfl fun frame => ?_
    refine iff_of_false ?_ (unserved_of_greeting known greeting frame)
    rw [ServesFrame, stage]
    simp [settled]
  · rw [accepted, untold]
    rfl

/-- A connection that is accepted takes a slot, and gives it back at once if the hub stops. -/
theorem slots_accepted
    {frame : FrameId} (room : hub.exchange.register.1 = .ok frame)
    (taken : hub.answerTo connection now incoming =
      Connection.goOn hub.exchange.register.2 frame [.accept frame]) :
    SlotChange hub board (.hear number now incoming) := by
  have allowed : hub.Allows (.hear number now incoming) := ⟨connection, known⟩
  have unserved := unserved_of_greeting known greeting
  have released := releases_greeting known greeting now incoming
  rcases perform_hear known now incoming with ⟨exchange, stage, accepted⟩
  rcases Exchange.board_of_registered running room with ⟨registered, board_eq⟩
  rw [taken] at exchange stage accepted released
  cases stopping : hub.stopping with
  | false =>
      rw [settled_of_running _ stopping] at exchange stage
      rw [dismissed?_of_running stopping] at released
      exact .taken number frame unserved registered (exchange ▸ board_eq) released
        (servesFrame_taken allowed rfl unserved stage) accepted
  | true =>
      have left : hub.settled (Connection.goOn hub.exchange.register.2 frame [.accept frame]) =
          Connection.release hub.exchange.register.2 frame := by
        simp [settled, Connection.goOn, stopping]
      have gone : hub.dismissed? (Connection.goOn hub.exchange.register.2 frame
          [.accept frame]) = some frame := by
        simp [dismissed?, Connection.goOn, stopping]
      rw [left] at exchange stage
      rw [gone] at released
      refine .passed number frame registered
        (exchange ▸ Exchange.board_of_unregistered board_eq frame) released ?_ accepted
      refine servesFrame_kept allowed rfl fun served => iff_of_false ?_ (unserved served)
      rw [ServesFrame, stage]
      simp [Connection.release, Connection.hangUp]

/-- The first line takes a slot if it is accepted. -/
theorem slots_greeting : SlotChange hub board (.hear number now incoming) := by
  have answered : hub.answerTo connection now incoming =
      Connection.handle hub.exchange hub.maxMessageSize now (.greeting deadline) incoming := by
    simp only [answerTo, greeting]
  rcases Connection.handle_greeting_cases hub.exchange now hub.maxMessageSize deadline incoming with
    ⟨hungUp, _⟩ | ⟨_, _, _, _, ⟨reply, _, refused, kind⟩ | ⟨_, ⟨error, full, refused⟩ |
      ⟨frame, room, taken⟩⟩⟩
  · exact slots_refused running known greeting rfl (answered.trans hungUp)
  · refine slots_refused running known greeting ?_ (answered.trans refused)
    rcases kind with ⟨_, rfl⟩ | ⟨_, rfl⟩ <;> rfl
  · rw [hub.exchange.eq_of_refused full] at refused
    exact slots_refused running known greeting rfl (answered.trans refused)
  · exact slots_accepted running known greeting room (answered.trans taken)

end Greeting

/-- A line of a frame gives its slot back if it is a farewell. -/
theorem slots_serving
    (reached : Reached limits max past hub) (running : hub.exchange.board = some board)
    (known : hub.connection? number = some connection) {frame : FrameId}
    (serving : connection.stage = .serving frame) :
    SlotChange hub board (.hear number now incoming) := by
  have stands : hub.ServesFrame number frame :=
    (stage?_of_connection? known).trans (congrArg some serving)
  have goesOn := reached.running_of_serving known serving
  have answered : hub.answerTo connection now incoming =
      Connection.handle hub.exchange hub.maxMessageSize now (.serving frame) incoming := by
    simp only [answerTo, serving]
  have untold : (hub.answerTo connection now incoming).messages.filterMap HubMessage.identity? =
      [] := (hub.serving_told serving now incoming).1
  have allowed : hub.Allows (.hear number now incoming) := ⟨connection, known⟩
  have released := releases_hear known now incoming
  rw [dismissed?_of_running goesOn, Option.toList_none, List.append_nil, serving] at released
  rcases perform_hear known now incoming with ⟨exchange, stage, accepted⟩
  rw [settled_of_running _ goesOn] at exchange stage
  rw [untold] at accepted
  have asked : (hub.answerTo connection now incoming).exchange = _ :=
    (congrArg Answer.exchange answered).trans
      (Connection.exchange_handle hub.exchange now hub.maxMessageSize (.serving frame) incoming)
  have stays := Connection.stage_handle_serving hub.exchange now hub.maxMessageSize frame incoming
  rw [← answered] at stays
  rw [asked] at exchange
  rw [stays] at stage
  cases parts : Connection.isFarewell hub.maxMessageSize incoming with
  | true =>
      have leaves : Connection.command? hub.maxMessageSize (.serving frame) incoming =
          some (.unregister frame) := Connection.command?_of_farewell parts
      rw [leaves] at exchange released
      refine .freed number frame stands ?_ released ?_ accepted
      · rw [exchange, Option.elim_some, Exchange.board_ask, running]
        rfl
      · refine servesFrame_freed allowed rfl fun served => ?_
        rw [ServesFrame, stage]
        simp [parts]
  | false =>
      have same : ∀ other served,
          (hub.perform (.hear number now incoming)).1.ServesFrame other served ↔
            hub.ServesFrame other served := by
        refine servesFrame_kept allowed rfl fun served => ?_
        rw [ServesFrame, stage, ServesFrame, stands]
        simp [parts]
      cases given : Connection.command? hub.maxMessageSize (.serving frame) incoming with
      | none =>
          rw [given] at exchange released
          exact .kept board (exchange ▸ running) board.steady_refl released same accepted
      | some command =>
          rw [given] at exchange released
          rcases Connection.command?_of_stays parts given with ⟨comes, goes⟩
          refine .kept (board.handle now command).board ?_ ?_ ?_ same accepted
          · rw [exchange, Option.elim_some, Exchange.board_ask, running]
            rfl
          · apply board.steady_handle now comes
            rintro other rfl
            cases goes
          · rw [released, Option.bind_some, goes]
            rfl

end Answers

/-- A connection that is left gives the slot of its frame back. -/
theorem slots_leave
    (consistent : hub.Consistent max) {board : Switchboard}
    (running : hub.exchange.board = some board) (number : Nat) :
    SlotChange hub board (.leave number) := by
  have allowed : hub.Allows (.leave number) := trivial
  cases known : hub.connection? number with
  | none =>
      have same : hub.perform (.leave number) = (hub, []) := perform_of_absent rfl known
      refine .kept board ?_ board.steady_refl ?_ ?_ ?_
      · rw [same]
        exact running
      · simp only [releases, commandsFor, known]
        rfl
      · simp [same]
      · rw [same]
        rfl
  | some connection =>
      have stands := stage?_of_connection? known
      have performed : hub.perform (.leave number) =
          hub.carryOut connection (hub.farewell connection) := by
        simp only [perform, known]
      have gone : (hub.perform (.leave number)).1.stage? number = none := by
        rw [performed, stage?_carryOut known, if_pos rfl, if_pos (stage_farewell hub connection)]
      have exchange : (hub.perform (.leave number)).1.exchange =
          (servedFrame? connection).elim hub.exchange fun frame =>
            hub.exchange.ask .epoch (.unregister frame) := by
        rw [performed, carryOut_eq, exchange_setConnection]
        exact hub.exchange_farewell connection
      have accepted : Output.accepted (hub.perform (.leave number)).2 = [] := by
        rw [performed, carryOut_eq, Output.accepted_written, messages_farewell]
        rfl
      have unserved (served : FrameId) :
          ¬ (hub.perform (.leave number)).1.ServesFrame number served := by
        rw [ServesFrame, gone]
        simp
      cases stage : connection.stage with
      | ended =>
          exact absurd stage (consistent.alive _ (mem_of_connection? known))
      | greeting deadline =>
          simp only [servedFrame?, stage] at exchange
          refine .kept board ?_ board.steady_refl ?_ ?_ accepted
          · rw [exchange]
            exact running
          · simp [releases, commandsFor, known, servedFrame?, stage]
          · refine servesFrame_kept allowed rfl fun served => iff_of_false (unserved served) ?_
            exact unserved_of_greeting known stage served
      | serving frame =>
          simp only [servedFrame?, stage] at exchange
          refine .freed number frame (stands.trans (congrArg some stage)) ?_ ?_ ?_ accepted
          · rw [exchange, Option.elim_some, Exchange.board_ask, running]
            rfl
          · simp [releases, commandsFor, known, servedFrame?, stage, Command.leaver?]
          · exact servesFrame_freed allowed rfl unserved

/-- What an act does to the slots. -/
theorem slotChange
    (reached : Reached limits max past hub) {board : Switchboard}
    (running : hub.exchange.board = some board) (allowed : hub.Allows act) :
    SlotChange hub board act := by
  have consistent := reached.consistent
  cases act with
  | accept =>
      refine kept_of_quiet consistent allowed running ?_ rfl (by simp) rfl
      simp only [perform, accept]
      split <;> rfl
  | read number bytes =>
      have given := allowed
      rcases allowed with ⟨connection, known⟩
      refine kept_of_quiet consistent given running ?_ rfl (by simp) ?_
      · simp only [perform, known]
        rfl
      · simp only [perform, known]
        rfl
  | pass | stop =>
      exact kept_of_quiet consistent allowed running rfl rfl (by simp) rfl
  | forward =>
      refine kept_of_quiet consistent allowed running (board_forward hub) rfl (by simp) ?_
      rw [Output.accepted, List.filterMap_eq_nil_iff]
      intro output inside
      rcases mem_forward inside with ⟨_, _, _, _, _, _, rfl⟩
      rfl
  | hear number now incoming =>
      rcases allowed with ⟨connection, known⟩
      cases stage : connection.stage with
      | ended =>
          exact absurd stage (consistent.alive _ (mem_of_connection? known))
      | greeting deadline =>
          exact slots_greeting running known stage
      | serving frame =>
          exact slots_serving reached running known stage
  | leave number =>
      exact slots_leave consistent running number

end Hub

end SessionBus
