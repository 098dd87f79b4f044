import SessionBus.Proofs.Frame.Set
import SessionBus.Proofs.Hub.Hearing
import SessionBus.Proofs.Hub.Slots

/-!
# Slots for frames, whatever fails

The registered frames are those of the connections that have been told their identity and have not
been closed, also if writes fail.  A handshake that fails leaves everything as it was, with one
exception: an identity that was given out and could not be told is used up.  Its frame has been taken
in and out again.
-/

namespace SessionBus

namespace Effect

/-- The connection and the identity of a frame that is told its identity. -/
def welcome? : Effect → Option (Nat × FrameId)
  | .write number message => message.identity?.map (number, ·)
  | .cut _ _ | .close _ => none

/-- The connection and the identity of a frame that is to be told its identity. -/
def identity? : Effect → Option (Nat × FrameId)
  | .write number message | .cut number message => message.identity?.map (number, ·)
  | .close _ => none

/-- The identities that have been given out, whether their frames could be told or not. -/
def issued (effects : List Effect) : List (Nat × FrameId) :=
  effects.filterMap identity?

/-- The connections that have been told an identity and have not been closed. -/
def live (effects : List Effect) : List (Nat × FrameId) :=
  (effects.filterMap welcome?).filter fun entry => !effects.contains (.close entry.1)

theorem issued_append (first second : List Effect) :
    issued (first ++ second) = issued first ++ issued second :=
  List.filterMap_append

/-- If no write failed, all frames to which an identity is given would be told. -/
theorem accepted_plain (effects : List Effect) :
    Output.accepted (plain effects) = issued effects := by
  rw [Output.accepted, plain, issued, List.filterMap_filterMap]
  apply List.filterMap_congr
  intro effect _
  cases effect with
  | close number =>
      rfl
  | write number message | cut number message =>
      cases message <;> rfl

/-- An identity that cannot be told ends its connection at once. -/
def Prudent (effects : List Effect) : Prop :=
  ∀ number message, .cut number message ∈ effects → message.identity? ≠ none →
    .close number ∈ effects

theorem live_plain {effects : List Effect} (prudent : Prudent effects) :
    Output.live (plain effects) = live effects := by
  have closes : (fun entry : Nat × FrameId => !Output.closes entry.1 (plain effects)) =
      fun entry => !effects.contains (.close entry.1) := by
    funext entry
    congr 1
    rw [Bool.eq_iff_iff, Output.closes_eq_true, close_mem_plain, List.contains_iff_mem]
  rw [Output.live, accepted_plain, closes, live, issued, List.filter_filterMap,
    List.filter_filterMap]
  apply List.filterMap_congr
  intro effect inside
  cases effect with
  | close number | write number message =>
      rfl
  | cut number message =>
      simp only [identity?, welcome?, Option.filter_none, Option.filter_eq_none_iff]
      intro entry own
      rcases Option.map_eq_some_iff.mp own with ⟨frame, told, rfl⟩
      have closed := prudent number message inside (told ▸ Option.some_ne_none frame)
      simpa using closed

end Effect

/-- A frame that is taken in and out again leaves nothing behind but its identity. -/
theorem Switchboard.unregister_register
    (board : Switchboard) {frame : FrameId} (registered : board.register.reply = .ok frame)
    (strange : frame ∉ board.frames.toList) :
    (board.register.board.unregister frame).board =
      { board with nextFrame := successor board.nextFrame } := by
  by_cases full : board.maxFrames ≤ board.frames.size
  · rw [board.register_of_full full] at registered
    cases registered
  · rw [board.register_of_room full] at registered ⊢
    cases registered
    simp [unregister, FrameSet.erase_insert strange]

namespace BusyHub

open Hub (Act)

variable {busy : BusyHub} {limits : Limits} {max number : Nat} {past : List Moment} {step : Step}
  {connection : Connection}

/-! ## Identities that cannot be told -/

/-- An identity that cannot be told is that of a handshake, which ends with the same step. -/
theorem handshake_of_cut
    (consistent : busy.hub.Consistent max) {message : HubMessage}
    (told : message.identity? ≠ none) (cut : .cut number message ∈ (busy.step step).2) :
    ∃ connection now incoming deadline, busy.hub.connection? number = some connection ∧
      connection.stage = .greeting deadline ∧
      message ∈ (busy.answer connection now incoming).messages ∧
      busy.actsFor step = [.hear number now incoming, .leave number] ∧
      .close number ∈ (busy.step step).2 := by
  by_cases own : step.number? = some number
  · cases work consistent own with
    | idle nothing acts =>
        simp [nothing] at cut
    | reads connection bytes known goesOn acts tasks silent
    | ends connection last known goesOn left acts tasks hub silent =>
        simp [silent] at cut
    | leaves connection known reason acts tasks effects =>
        simp [effects] at cut
    | forwards connection frame packet written known serving going acts tasks effects =>
        rw [effects, List.mem_singleton] at cut
        cases written <;> cases cut
        exact absurd rfl told
    | answers connection now incoming rest known waits acts tasks effects =>
        rw [effects, List.mem_map] at cut
        rcases cut with ⟨output, _, same⟩
        cases output <;> cases same
    | breaks connection now incoming rest known waits said acts tasks effects =>
        have spoken : message ∈ (busy.answer connection now incoming).messages := by
          rw [effects, List.mem_append, List.mem_map] at cut
          rcases cut with ⟨_, inside, same⟩ | closed
          · cases same
            exact inside
          · split at closed
            · cases closed
            · cases List.mem_singleton.mp closed
        cases stage : connection.stage with
        | ended =>
            exact absurd stage (consistent.alive _ (Hub.mem_of_connection? known))
        | serving frame =>
            rw [answer, stage] at spoken
            exact absurd (Hub.plain_handle_serving _ _ _ _ _ _ spoken).1 told
        | greeting deadline =>
            simp only [Hub.servedFrame?, stage] at acts effects
            refine ⟨connection, now, incoming, deadline, known, stage, spoken, acts, ?_⟩
            rw [effects]
            exact List.mem_append_right _ (List.mem_singleton_self _)
  · exact absurd rfl ((spares consistent own).effects _ cut)

theorem prudent_step (consistent : busy.hub.Consistent max) (step : Step) :
    Effect.Prudent (busy.step step).2 := by
  intro number message inside told
  rcases handshake_of_cut consistent told inside with ⟨_, _, _, _, _, _, _, _, closed⟩
  exact closed

theorem Reached.prudent (reached : Reached limits max past busy) :
    Effect.Prudent (told past) := by
  induction reached with
  | start =>
      simp [Effect.Prudent, told]
  | step reached step ih =>
      intro number message inside told
      rw [told_concat] at inside ⊢
      rcases List.mem_append.mp inside with old | new
      · exact List.mem_append_left _ (ih number message old told)
      · exact List.mem_append_right _ (prudent_step reached.consistent step number message new told)

/-! ## Slots in use -/

/-- The slots of a busy hub are those of its shadow. -/
theorem Reached.slotted
    (reached : Reached limits max past busy)
    (few : (Effect.issued (told past)).length < UInt64.size) :
    ∃ shadows hub board, Shadowed limits max past busy shadows hub ∧
      Hub.Slotted limits shadows hub board ∧ busy.hub.exchange.board = some board := by
  rcases reached.shadowed with ⟨shadows, hub, shadowed⟩
  rw [← Effect.accepted_plain, ← shadowed.told] at few
  rcases shadowed.reached.slotted few with ⟨board, slotted⟩
  exact ⟨shadows, hub, board, shadowed, slotted, shadowed.alike.board ▸ slotted.running⟩

theorem Shadowed.live_eq
    {shadows : List Hub.Moment} {hub : Hub} (shadowed : Shadowed limits max past busy shadows hub)
    (reached : Reached limits max past busy) :
    Output.live (Hub.told shadows) = Effect.live (BusyHub.told past) := by
  rw [shadowed.told, Effect.live_plain reached.prudent]

/-! ## Handshakes -/

/-- A connection that is there and has not been told an identity has still to send its first line. -/
theorem Reached.greeting_of_stranger
    (reached : Reached limits max past busy)
    (known : busy.hub.connection? number = some connection)
    (stranger : ¬ Welcomed number (told past)) :
    ∃ deadline, connection.stage = .greeting deadline := by
  cases stage : connection.stage with
  | ended =>
      exact absurd stage (reached.consistent.alive _ (Hub.mem_of_connection? known))
  | greeting deadline =>
      exact ⟨deadline, rfl⟩
  | serving frame =>
      rcases (reached.careful number).welcomed_of_serving reached known stage with
        ⟨own, others, first⟩
      refine absurd ⟨own, ?_⟩ stranger
      have inside : ⟨.accept own, true⟩ ∈ Effect.attempts number (told past) := by
        rw [first]
        exact List.mem_cons_self
      exact Effect.mem_attempts.mp inside

/-- A handshake that is cut off leaves the exchange as its end does. -/
theorem exchange_of_breaks
    (consistent : busy.hub.Consistent max) {now : Instant} {incoming : Incoming}
    (known : busy.hub.connection? number = some connection)
    (acts : busy.actsFor step = [.hear number now incoming, .leave number]) :
    let answer := busy.answer connection now incoming
    (busy.step step).1.hub.exchange =
      (Connection.endOfStream answer.exchange answer.stage).exchange := by
  intro answer
  have asks : ∀ number written, step ≠ .forward number written := by
    rintro _ _ rfl
    cases acts
  have stages : answer.stage = .ended ∨ ∃ frame, answer.stage = .serving frame :=
    Connection.stage_handle busy.hub.exchange now busy.hub.maxMessageSize connection.stage incoming
  have ends := (Hub.settle_endOfStream known stages).1
  have done : (busy.step step).1.hub =
      ((busy.hub.carryOut connection answer).1.perform (.leave number)).1 := by
    rw [(follows_step consistent asks).1, acts]
    simp only [Hub.performAll, perform_hear known]
    rfl
  have settled := congrArg (·.1.exchange) ends
  rw [done]
  refine settled.symm.trans ?_
  cases answer.stage <;> rfl

/-- An identity that cannot be told is used up: its frame is taken in and out again. -/
theorem exchange_of_cut
    (consistent : busy.hub.Consistent max) {frame : FrameId}
    (cut : .cut number (.accept frame) ∈ (busy.step step).2) :
    busy.hub.exchange.register.1 = .ok frame ∧
      (busy.step step).1.hub.exchange = busy.hub.exchange.register.2.unregister frame := by
  have told : (HubMessage.accept frame).identity? ≠ none := Option.some_ne_none frame
  rcases handshake_of_cut consistent told cut with
    ⟨connection, now, incoming, _, known, _, spoken, acts, _⟩
  rcases Connection.welcome_cases spoken with ⟨_, room, accepted⟩
  have exchange := exchange_of_breaks consistent known acts
  simp only [answer] at exchange
  rw [accepted] at exchange
  exact ⟨room, exchange⟩

/-- What is done on a connection that has been told no identity changes nothing that the hub serves,
unless an identity is given out for it. -/
theorem Reached.exchange_of_stranger
    (reached : Reached limits max past busy) (own : step.number? = some number)
    (stranger : ¬ Welcomed number (told past))
    (untold : ¬ Welcomed number (busy.step step).2)
    (uncut : ∀ frame, .cut number (.accept frame) ∉ (busy.step step).2) :
    (busy.step step).1.hub.exchange = busy.hub.exchange := by
  have consistent := reached.consistent
  cases known : busy.hub.connection? number with
  | none =>
      rw [(idle_of_absent own known).1]
  | some connection =>
      rcases reached.greeting_of_stranger known stranger with ⟨deadline, greeting⟩
      -- What one act does is nothing, or it gives an identity out.
      have single {act : Act} (acts : busy.actsFor step = [act])
          (about : act.number? = some number) :
          (busy.step step).1.hub.exchange = busy.hub.exchange := by
        have asks : ∀ number written, step ≠ .forward number written := by
          rintro _ _ rfl
          cases acts
        rcases follows_step consistent asks with ⟨hub, effects⟩
        rw [acts] at hub effects
        simp only [Hub.performAll, List.append_nil] at hub effects
        rw [hub]
        refine (Hub.exchange_of_greeting about known greeting).resolve_right ?_
        rintro ⟨frame, inside⟩
        rw [← effects] at inside
        rcases Effect.write_mem_plain.mp inside with ⟨_, written | cut⟩
        · exact untold ⟨frame, written⟩
        · exact uncut frame cut
      cases work consistent own with
      | idle nothing acts =>
          rw [nothing]
      | reads _ bytes _ goesOn acts | leaves _ _ reason acts
      | answers _ now incoming rest _ waits acts =>
          exact single acts rfl
      | ends _ last _ goesOn left acts tasks hub =>
          rw [hub]
      | forwards other frame packet written there serving =>
          obtain rfl := Option.some.inj (there.symm.trans known)
          rw [serving] at greeting
          cases greeting
      | breaks other now incoming rest there waits said acts tasks effects =>
          obtain rfl := Option.some.inj (there.symm.trans known)
          simp only [Hub.servedFrame?, greeting] at acts
          have exchange := exchange_of_breaks consistent known acts
          have answered : busy.answer other now incoming = Connection.handle busy.hub.exchange
              busy.hub.maxMessageSize now (.greeting deadline) incoming := by
            rw [answer, greeting]
          rcases Connection.handle_greeting_cases busy.hub.exchange now busy.hub.maxMessageSize
            deadline incoming with ⟨hungUp, _⟩ | ⟨_, _, _, _, ⟨reply, _, refused, _⟩ |
              ⟨_, ⟨_, full, refused⟩ | ⟨frame, room, accepted⟩⟩⟩
          · rw [answered, hungUp] at said
            exact absurd rfl said
          · rw [answered, refused] at exchange
            exact exchange
          · rw [answered, refused] at exchange
            exact exchange.trans (busy.hub.exchange.eq_of_refused full)
          · refine absurd ?_ (uncut frame)
            rw [effects, answered, accepted]
            exact List.mem_append_left _ (List.mem_singleton_self _)

/-! ## What is left of a run -/

theorem exchange_performAll (hub : Hub) {acts : List Act} (quiet : .forward ∉ acts) :
    (hub.performAll acts).1.exchange =
      hub.exchange.askAll
        ((hub.run acts).flatMap fun done => done.before.commandsFor done.act) := by
  induction acts generalizing hub with
  | nil =>
      rfl
  | cons act rest ih =>
      rw [List.mem_cons, not_or] at quiet
      simp only [Hub.performAll, Hub.run, List.flatMap_cons, Exchange.askAll, List.foldl_append]
      rw [ih _ quiet.2, hub.exchange_perform (Ne.symm quiet.1)]
      rfl

/-- What becomes of the slots with one step.  Commands are all that changes what the hub serves, but
for the packets that are taken from inboxes.  A handshake that fails leaves it as it is; if it fails
because the identity cannot be told, that identity is used up, and the connection ends.  Whoever asks
to connect is accepted exactly if fewer connections than the limit are live. -/
structure Accountable (limits : Limits) (max : Nat) (past : List Moment) (moment : Moment) :
    Prop where
  asks : (∀ number written, moment.step ≠ .forward number written) →
    moment.after.hub.exchange = moment.before.hub.exchange.askAll moment.commands
  forwards : ∀ number written, moment.step = .forward number written →
    moment.after.hub.exchange.board = moment.before.hub.exchange.board
  fails : ∀ number, moment.step.number? = some number → ¬ Welcomed number (told past) →
    ¬ Welcomed number moment.effects →
      (∀ frame, .cut number (.accept frame) ∉ moment.effects) →
        moment.after.hub.exchange = moment.before.hub.exchange
  wastes : ∀ number frame, .cut number (.accept frame) ∈ moment.effects →
    .close number ∈ moment.effects ∧
      ∃ board, moment.before.hub.exchange.board = some board ∧
        moment.after.hub.exchange.board =
          some { board with nextFrame := Switchboard.successor board.nextFrame }
  greets : ∀ number text message, moment.heardOn number = some (.line text) →
    Line.parseFrame text max = .ok message → message.asksToConnect = true →
      ¬ Welcomed number (told past) →
        ((Effect.live (told past)).length < limits.maxFrames ∧
            ∃ frame whole, ⟨.accept frame, whole⟩ ∈ Effect.attempts number moment.effects) ∨
          limits.maxFrames ≤ (Effect.live (told past)).length ∧
            ∃ reason whole, ⟨.reject reason, whole⟩ ∈ Effect.attempts number moment.effects

theorem Reached.exchange_asked
    (reached : Reached limits max past busy)
    (asks : ∀ number written, step ≠ .forward number written) :
    (busy.step step).1.hub.exchange =
      busy.hub.exchange.askAll (⟨busy, step⟩ : Moment).commands := by
  rw [(follows_step reached.consistent asks).1]
  exact exchange_performAll busy.hub (busy.forward_notMem_actsFor step)

/-- The packets that go out are none of the switchboard's. -/
theorem Reached.board_of_forward
    (reached : Reached limits max past busy) (written : Bool) :
    (busy.step (.forward number written)).1.hub.exchange.board = busy.hub.exchange.board :=
  (alike_step reached.consistent (.forward number written)).1.board

/-- An identity that cannot be told is all that is lost. -/
theorem Reached.board_of_cut
    (reached : Reached limits max past busy)
    (few : (Effect.issued (told (past ++ [⟨busy, step⟩]))).length < UInt64.size) {frame : FrameId}
    (cut : .cut number (.accept frame) ∈ (busy.step step).2) :
    ∃ board, busy.hub.exchange.board = some board ∧
      (busy.step step).1.hub.exchange.board =
        some { board with nextFrame := Switchboard.successor board.nextFrame } := by
  have issued : Effect.issued (busy.step step).2 ≠ [] :=
    List.ne_nil_of_mem (List.mem_filterMap.mpr ⟨_, cut, rfl⟩)
  have one := List.length_pos_iff.mpr issued
  rw [told_concat, Effect.issued_append, List.length_append] at few
  rcases reached.slotted (by omega) with ⟨shadows, hub, board, shadowed, slotted, running⟩
  rcases exchange_of_cut reached.consistent cut with ⟨room, after⟩
  rcases Exchange.board_of_registered running room with ⟨registered, taken⟩
  have fewer : (Output.accepted (Hub.told shadows)).length + 1 < UInt64.size := by
    rw [shadowed.told, Effect.accepted_plain]
    omega
  have next := (slotted.fresh fewer registered).2
  have strange : frame ∉ board.frames.toList := fun inside => by
    have below := slotted.issued.frames frame inside
    omega
  refine ⟨board, running, ?_⟩
  rw [after, Exchange.board_of_unregistered taken, board.unregister_register registered strange]

/-- What is done when a line is heard, whether it can be written or not. -/
theorem attempted_of_heard
    (consistent : busy.hub.Consistent max) {incoming : Incoming}
    (hears : (⟨busy, step⟩ : Moment).heardOn number = some incoming) :
    ∃ now connection, busy.hub.connection? number = some connection ∧
      ∀ message, .write number message ∈ (busy.hub.perform (.hear number now incoming)).2 →
        ∃ whole, ⟨message, whole⟩ ∈ Effect.attempts number (busy.step step).2 := by
  have among {now : Instant} {acts : List Act}
      (acts_eq : busy.actsFor step = .hear number now incoming :: acts) (message : HubMessage)
      (said : .write number message ∈ (busy.hub.perform (.hear number now incoming)).2) :
      ∃ whole, ⟨message, whole⟩ ∈ Effect.attempts number (busy.step step).2 := by
    have plain : .write number message ∈ Effect.plain (busy.step step).2 := by
      rw [(alike_step consistent step).2, acts_eq]
      exact List.mem_append_left _ said
    rcases (Effect.write_mem_plain.mp plain).2 with written | cut
    · exact ⟨true, Effect.mem_attempts.mpr written⟩
    · exact ⟨false, Effect.mem_attempts.mpr cut⟩
  cases hearing_of_heardOn consistent hears with
  | answers connection now known acts =>
      exact ⟨now, connection, known, among acts⟩
  | breaks connection now known said acts =>
      exact ⟨now, connection, known, among acts⟩

theorem Reached.greets
    (reached : Reached limits max past busy)
    (few : (Effect.issued (told past)).length < UInt64.size) {text : String}
    {message : FrameMessage}
    (heard : (⟨busy, step⟩ : Moment).heardOn number = some (.line text))
    (parsed : Line.parseFrame text max = .ok message) (asks : message.asksToConnect = true)
    (stranger : ¬ Welcomed number (told past)) :
    ((Effect.live (told past)).length < limits.maxFrames ∧
        ∃ frame whole, ⟨.accept frame, whole⟩ ∈ Effect.attempts number (busy.step step).2) ∨
      limits.maxFrames ≤ (Effect.live (told past)).length ∧
        ∃ reason whole, ⟨.reject reason, whole⟩ ∈ Effect.attempts number (busy.step step).2 := by
  rcases attempted_of_heard reached.consistent heard with ⟨now, connection, known, attempted⟩
  rcases reached.slotted few with ⟨shadows, hub, board, shadowed, slotted, _⟩
  have there : hub.Allows (.hear number now (.line text)) :=
    ⟨connection, (shadowed.connection?_eq number).trans known⟩
  rcases reached.greeting_of_stranger known stranger with ⟨deadline, greeting⟩
  have stands := Hub.stage?_of_connection? ((shadowed.connection?_eq number).trans known)
  rw [greeting] at stands
  have strange : Output.identities number (Hub.told shadows) = [] := by
    rw [Output.identities, Output.messagesTo_eq_nil (shadowed.reached.greeting stands)]
    rfl
  have hears : Act.hear number now (.line text) ≠ .forward := by simp
  have same := (shadowed.alike.perform hears).2
  have greeted := slotted.greet shadowed.reached there parsed asks strange
  rw [shadowed.live_eq reached, same] at greeted
  refine greeted.imp ?_ ?_
  · rintro ⟨room, frame, said⟩
    exact ⟨room, frame, attempted _ said⟩
  · rintro ⟨full, reason, said⟩
    exact ⟨full, reason, attempted _ said⟩

theorem Reached.accountable
    (reached : Reached limits max past busy) (step : Step)
    (few : (Effect.issued (told (past ++ [⟨busy, step⟩]))).length < UInt64.size) :
    Accountable limits max past ⟨busy, step⟩ where
  asks := reached.exchange_asked
  forwards := by
    rintro number written rfl
    exact reached.board_of_forward written
  fails := fun number own stranger untold uncut =>
    reached.exchange_of_stranger own stranger untold uncut
  wastes := fun number frame cut =>
    ⟨prudent_step reached.consistent step number _ cut nofun, reached.board_of_cut few cut⟩
  greets := fun number text message hears parsed asks stranger => by
    have fewer : (Effect.issued (told past)).length < UInt64.size := by
      rw [told_concat, Effect.issued_append, List.length_append] at few
      omega
    exact reached.greets fewer hears parsed asks stranger

/--
Frame slots follow the connections that have been told their identity, whatever comes to a hub and
in any order, and whatever write fails, as long as fewer than 2 ^ 64 identities are given out.

The registered frames are those of the connections that have been told an identity and not closed,
no two of which share one.  A frame that got an identity, told or not, is taken out of the
switchboard once, when its connection is closed.
-/
theorem slots_follow_told_identities
    (limits : Limits) (max : Nat) (steps : List Step)
    (few : (Effect.issued ((start limits max).run steps).2).length < UInt64.size) :
    let busy := ((start limits max).run steps).1
    let effects := ((start limits max).run steps).2
    let moments := (start limits max).history steps
    told moments = effects ∧
      (∃ board, busy.hub.exchange.board = some board ∧
        (∀ frame, frame ∈ board.frames.toList ↔ ∃ number, (number, frame) ∈ Effect.live effects) ∧
        ((Effect.live effects).map (·.2)).Nodup ∧
        (Effect.live effects).length ≤ limits.maxFrames) ∧
      (∀ number frame, (number, frame) ∈ Effect.issued effects →
        (released moments).count frame = if .close number ∈ effects then 1 else 0) ∧
      ∀ past moment future, moments = past ++ moment :: future →
        Accountable limits max past moment := by
  intro busy effects moments
  have reached : Reached limits max moments busy := reached_history limits max steps
  have all : told moments = effects := told_history _ steps
  rw [← show told moments = ((start limits max).run steps).2 from all] at few
  rcases reached.slotted few with ⟨shadows, hub, board, shadowed, slotted, running⟩
  have live : Output.live (Hub.told shadows) = Effect.live effects :=
    all ▸ shadowed.live_eq reached
  refine ⟨all, ⟨board, running, ?_, ?_, ?_⟩, ?_, ?_⟩
  · exact live ▸ slotted.registered_live shadowed.reached
  · exact live ▸ slotted.live_apart
  · rw [← live, ← slotted.size_eq shadowed.reached]
    exact slotted.issued.room
  · intro number frame issued
    have accepted : (number, frame) ∈ Output.accepted (Hub.told shadows) := by
      rwa [shadowed.told, Effect.accepted_plain, all]
    have once := slotted.released_once shadowed.reached accepted
    rw [shadowed.released, shadowed.told] at once
    simpa only [Effect.close_mem_plain, all] using once
  · rintro past ⟨before, step⟩ future split
    rw [split] at reached few
    rcases reached.of_append with ⟨earlier, _⟩
    rw [List.append_cons, told, List.flatMap_append, ← told, Effect.issued_append,
      List.length_append] at few
    exact earlier.accountable step (Nat.lt_of_le_of_lt (Nat.le_add_right _ _) few)

/-- Four frames come to a hub; the first leaves, and the third is gone before it can be told. -/
def visitors : List Step :=
  let greeting := (greetingText ++ "\n").toUTF8.toList
  [.accept, .read 0 greeting, .handle 0 .epoch true,
    .accept, .read 1 greeting, .handle 1 .epoch true, .lose 0, .handle 0 .epoch true,
    .accept, .read 2 greeting, .handle 2 .epoch false,
    .accept, .read 3 greeting, .handle 3 .epoch true]

/-- If there is one slot, the second is refused, and the fourth gets the slot that the first and the
third have left. -/
theorem fourth_visitor_gets_slot :
    Effect.live ((start ⟨1, 4⟩ 1024).run visitors).2 = [(3, ⟨3⟩)] ∧
      (released ((start ⟨1, 4⟩ 1024).history visitors)).count ⟨2⟩ = 1 := by
  have effects : ((start ⟨1, 4⟩ 1024).run visitors).2 =
      [.write 0 (.accept ⟨1⟩), .write 1 (.reject (SwitchboardError.tooManyFrames 1).message),
        .close 1, .close 0, .cut 2 (.accept ⟨2⟩), .close 2, .write 3 (.accept ⟨3⟩)] := by
    decide +kernel
  have slots := slots_follow_told_identities ⟨1, 4⟩ 1024 visitors (by rw [effects]; decide)
  have once := slots.2.2.1 2 ⟨2⟩ (by rw [effects]; decide)
  rw [effects] at once ⊢
  exact ⟨by decide, once⟩

/-- A first line that only the end of its stream finishes, so that nobody is told the identity. -/
def lateGreeting : List Step :=
  [.accept, .read 0 greetingText.toUTF8.toList, .finish 0]

/-- A handshake that fails because the identity cannot be told does not leave the count of
identities as it was. -/
theorem untold_identity_used_up :
    let busy := ((start ⟨1, 4⟩ 1024).run lateGreeting).1
    let failed := busy.step (.handle 0 .epoch false)
    failed.2 = [.cut 0 (.accept ⟨1⟩), .close 0] ∧
      busy.hub.exchange.board.map (·.nextFrame) = some 1 ∧
      failed.1.hub.exchange.board.map (·.nextFrame) = some 2 := by
  decide +kernel

end BusyHub

end SessionBus
