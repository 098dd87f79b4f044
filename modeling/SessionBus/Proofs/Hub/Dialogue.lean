import Mathlib.Data.List.Forall2
import SessionBus.Proofs.Hub.Lines

/-!
# The dialogue of a connection

The first line on a connection is its handshake: it is answered by the identity of the frame, or the
connection ends with at most one word.  After that every line but a packet is answered by exactly
one message, in the order of the lines, until the farewell.  The packets that are written in between
do not come before the identity and take no answer away.
-/

namespace SessionBus

/-! ## Single answers -/

def Request.isPacket : Request → Bool
  | .send _ _ => true
  | _ => false

namespace Connection

/-- The error for a line that is too long.  It has a code, but no number of a request. -/
def overlong (max : Nat) : HubMessage :=
  .error ("Message too large (max: " ++ decimal max ++ " bytes)") none (some "message_too_large")

/-- The error for a line that is no message. -/
def complaintFor (max : Nat) : Line.LineError → HubMessage
  | .tooLarge _ _ => overlong max
  | error => .error error.message none none

/-- The answer that a frame gets for its request.  Packets and farewells have none. -/
inductive RepliesTo : Request → HubMessage → Prop
  | connect (displayName : Option String) :
      RepliesTo (.connect displayName) (.error "Already connected" none none)
  | claimed (request : UInt64) (session : SessionId) (claimed : Bool) :
      RepliesTo (.claimSession request session) (.sessionClaimed request claimed)
  | claimRefused (request : UInt64) (session : SessionId) (reason code : String) :
      RepliesTo (.claimSession request session) (.error reason (some request) (some code))
  | joined (request : UInt64) (session : SessionId) (displayName : String) (joined : Bool) :
      RepliesTo (.joinSession request session displayName) (.sessionJoined request joined)
  | joinRefused (request : UInt64) (session : SessionId) (displayName reason code : String) :
      RepliesTo (.joinSession request session displayName)
        (.error reason (some request) (some code))
  | described (request : UInt64) (session : SessionId) (description : Option Session) :
      RepliesTo (.describeSession request session) (.sessionDescribed request description)
  | ping (seq : UInt64) : RepliesTo (.ping seq) (.pong seq)

/-- The answer that a frame which is served gets for what the reader found. -/
inductive Replies (max : Nat) : Incoming → HubMessage → Prop
  | tooLong : Replies max .tooLong (overlong max)
  | unreadable (text : String) (error : Line.LineError)
      (refused : Line.parseFrame text max = .error error) :
      Replies max (.line text) (complaintFor max error)
  | message (text : String) (message : FrameMessage)
      (parsed : Line.parseFrame text max = .ok message) (reply : HubMessage)
      (answers : RepliesTo message.request reply) : Replies max (.line text) reply

/-- Whether what the reader found is a packet. -/
def isPacket (max : Nat) : Incoming → Bool
  | .line text =>
    match Line.parseFrame text max with
    | .ok message => message.request.isPacket
    | .error _ => false
  | _ => false

/-- Whether a frame that is served gets an answer: for every line but packets and farewells. -/
def wantsReply (max : Nat) (incoming : Incoming) : Bool :=
  !isPacket max incoming && !isFarewell max incoming

theorem max_of_parseFrame
    {text : String} {max size limit : Nat}
    (refused : Line.parseFrame text max = .error (.tooLarge size limit)) : limit = max := by
  unfold Line.parseFrame Line.parseWith Line.body at refused
  split at refused
  · cases refused
    rfl
  · split at refused
    · cases refused
    · rw [Fallible.ok_bind] at refused
      generalize Json.readWhole _ _ = read at refused
      cases read <;> cases refused

theorem replies_serve
    (exchange : Exchange) (frame : FrameId) (now : Instant) (request : Request) :
    ((∃ route packet, request = .send route packet) ∨ request = .disconnect) ∧
        (serve exchange frame now request).messages = [] ∨
      ∃ reply, (serve exchange frame now request).messages = [reply] ∧ RepliesTo request reply := by
  cases request with
  | connect displayName =>
      exact .inr ⟨_, rfl, .connect displayName⟩
  | claimSession request session =>
      right
      refine ⟨_, rfl, ?_⟩
      split
      · exact .claimed request session _
      · exact .claimRefused request session _ _
  | joinSession request session displayName =>
      right
      refine ⟨_, rfl, ?_⟩
      split
      · exact .joined request session displayName _
      · exact .joinRefused request session displayName _ _
  | describeSession request session =>
      exact .inr ⟨_, rfl, .described request session _⟩
  | send route packet =>
      exact .inl ⟨.inl ⟨route, packet, rfl⟩, rfl⟩
  | ping seq =>
      exact .inr ⟨_, rfl, .ping seq⟩
  | disconnect =>
      exact .inl ⟨.inr rfl, rfl⟩

/-- A frame that is served gets one answer for everything but packets and farewells. -/
theorem replies_handle
    (exchange : Exchange) (now : Instant) (max : Nat) (frame : FrameId) (incoming : Incoming) :
    wantsReply max incoming = false ∧
        (handle exchange max now (.serving frame) incoming).messages = [] ∨
      wantsReply max incoming = true ∧
        ∃ reply, (handle exchange max now (.serving frame) incoming).messages = [reply] ∧
          Replies max incoming reply := by
  cases incoming with
  | tooLong =>
      exact .inr ⟨rfl, _, rfl, .tooLong⟩
  | notText =>
      exact .inl ⟨rfl, rfl⟩
  | line text =>
      cases parsed : Line.parseFrame text max with
      | error error =>
          right
          refine ⟨by simp [wantsReply, isPacket, isFarewell, parsed], complaintFor max error, ?_,
            .unreadable text error parsed⟩
          cases error with
          | tooLarge size limit =>
              obtain rfl := max_of_parseFrame parsed
              simp only [handle, parsed]
              rfl
          | empty | json =>
              simp only [handle, parsed]
              rfl
      | ok message =>
          have handled : handle exchange max now (.serving frame) (.line text) =
              serve exchange frame now message.request := by
            simp only [handle, parsed]
          rw [handled]
          rcases replies_serve exchange frame now message.request with
            ⟨kind, nothing⟩ | ⟨reply, said, answers⟩
          · left
            refine ⟨?_, nothing⟩
            rcases kind with ⟨route, packet, same⟩ | same <;>
              simp [wantsReply, isPacket, isFarewell, parsed, same, Request.isPacket]
          · right
            refine ⟨?_, reply, said, .message text message parsed reply answers⟩
            rcases message with ⟨version, request⟩
            cases answers <;> simp [wantsReply, isPacket, isFarewell, parsed, Request.isPacket]

end Connection

namespace Hub

variable {hub : Hub} {limits : Limits} {max number : Nat} {past : List Moment} {act : Act}

/-! ## The whole dialogue -/

/-- What has been written on a connection, beside what has been heard there. -/
inductive Dialogue (max number : Nat) (past : List Moment) : Prop
  | silent
      (lines : heard number past = [])
      (written : Output.messagesTo number (told past) = [])
  | refused (first : Incoming)
      (lines : heard number past = [first])
      (closed : .close number ∈ told past)
      (written : Output.messagesTo number (told past) = [] ∧
          (∀ text message, first = .line text → Line.parseFrame text max ≠ .ok message) ∨
        ∃ reason, Output.messagesTo number (told past) = [.reject reason] ∨
          Output.messagesTo number (told past) = [.complaint reason])
  | served (text : String) (message : FrameMessage) (rest : List Incoming) (frame : FrameId)
      (more : List HubMessage)
      (lines : heard number past = .line text :: rest)
      (connects : Line.parseFrame text max = .ok message ∧ message.asksToConnect = true)
      (written : Output.messagesTo number (told past) = .accept frame :: more)
      (replies : List.Forall₂ (Connection.Replies max)
        (rest.filter (Connection.wantsReply max)) (more.filter fun message => !message.isDelivery))
      (before : ∀ incoming ∈ rest.dropLast, Connection.isFarewell max incoming = false)
      (farewell : ∀ incoming ∈ rest, Connection.isFarewell max incoming = true →
        .close number ∈ told past)
      (closes : ClosedByLine number past →
        (∃ incoming ∈ rest, Connection.isFarewell max incoming = true) ∨
          ∃ moment ∈ past, moment.before.stopping = true)

theorem messagesTo_concat (number : Nat) (past : List Moment) (hub : Hub) (act : Act) :
    Output.messagesTo number (told (past ++ [⟨hub, act⟩])) =
      Output.messagesTo number (told past) ++ Output.messagesTo number (hub.perform act).2 := by
  rw [told_concat, Output.messagesTo_append]

theorem ClosedByLine.of_concat
    (closed : ClosedByLine number (past ++ [⟨hub, act⟩])) :
    ClosedByLine number past ∨ (∃ incoming, act.heardOn number = some incoming) ∧
      .close number ∈ (hub.perform act).2 := by
  rcases closed with ⟨moment, inside, ⟨now, incoming, hears⟩, closes⟩
  rcases List.mem_append.mp inside with old | new
  · exact .inl ⟨moment, old, ⟨now, incoming, hears⟩, closes⟩
  · obtain rfl := List.mem_singleton.mp new
    exact .inr ⟨⟨incoming, by rw [show act = _ from hears]; exact if_pos rfl⟩, closes⟩

/-- As long as nothing is heard on a connection, packets at most are written there, after the
identity. -/
theorem Dialogue.quiet
    (dialogue : Dialogue max number past) (reached : Reached limits max past hub)
    (nothing : act.heardOn number = none)
    (packets : ∀ message ∈ Output.messagesTo number (hub.perform act).2,
      message.isDelivery = true ∧ ∃ frame, hub.stage? number = some (.serving frame)) :
    Dialogue max number (past ++ [⟨hub, act⟩]) := by
  have lines : heard number (past ++ [⟨hub, act⟩]) = heard number past := by
    rw [heard_concat, nothing]
    exact List.append_nil _
  have later {output : Output} (before : output ∈ told past) :
      output ∈ told (past ++ [⟨hub, act⟩]) := by
    rw [told_concat]
    exact List.mem_append_left _ before
  -- Whoever is not served is written nothing.
  have unserved (absent : ∀ frame, hub.stage? number ≠ some (.serving frame)) :
      Output.messagesTo number (told (past ++ [⟨hub, act⟩])) =
        Output.messagesTo number (told past) := by
    have none : Output.messagesTo number (hub.perform act).2 = [] := by
      rw [List.eq_nil_iff_forall_not_mem]
      intro message inside
      rcases (packets message inside).2 with ⟨frame, serving⟩
      exact absent frame serving
    rw [messagesTo_concat, none, List.append_nil]
  cases dialogue with
  | silent noLines written =>
      refine .silent (lines.trans noLines) ((unserved ?_).trans written)
      intro frame serving
      have identity := (reached.serving serving).1
      rw [Output.identities, written] at identity
      cases identity
  | refused first own closed written =>
      refine .refused first (lines.trans own) (later closed) ?_
      rw [unserved]
      · exact written
      · intro frame serving
        exact absurd closed (reached.serving serving).2
  | served text message rest frame more own connects written replies before farewell closes =>
      refine .served text message rest frame (more ++ Output.messagesTo number (hub.perform act).2)
        (lines.trans own) connects ?_ ?_ before (fun incoming inside parts =>
          later (farewell incoming inside parts)) ?_
      · rw [messagesTo_concat, written, List.cons_append]
      · have none : (Output.messagesTo number (hub.perform act).2).filter
            (fun message => !message.isDelivery) = [] := by
          rw [List.filter_eq_nil_iff]
          intro message inside
          simp [(packets message inside).1]
        rw [List.filter_append, none, List.append_nil]
        exact replies
      · intro closed
        rcases closed.of_concat with old | ⟨⟨incoming, hears⟩, _⟩
        · refine (closes old).imp_right ?_
          rintro ⟨moment, inside, stops⟩
          exact ⟨moment, List.mem_append_left _ inside, stops⟩
        · rw [nothing] at hears
          cases hears

section Hearing

variable {now : Instant} {incoming : Incoming} {connection : Connection}

/-- What is written and closed when a line is heard. -/
theorem told_hear (hub : Hub) (number : Nat) (past : List Moment) (incoming : Incoming)
    (known : hub.connection? number = some connection) :
    let answer := hub.answerTo connection now incoming
    let moments := past ++ [⟨hub, .hear number now incoming⟩]
    heard number moments = heard number past ++ [incoming] ∧
      Output.messagesTo number (told moments) =
        Output.messagesTo number (told past) ++ answer.messages ∧
      (.close number ∈ (hub.perform (.hear number now incoming)).2 ↔
        (hub.settled answer).stage = .ended) := by
  intro answer moments
  have written : (hub.perform (.hear number now incoming)).2 =
      answer.messages.map (Output.write number) ++
        if (hub.settled answer).stage = .ended then [.close number] else [] :=
    outputs_hear known now incoming
  refine ⟨?_, ?_, ?_⟩
  · rw [heard_concat, Act.heardOn, if_pos rfl]
    rfl
  · rw [messagesTo_concat, written, Output.messagesTo_append, Output.messagesTo_write]
    split <;> simp [Output.messagesTo]
  · rw [written]
    exact close_mem_written number _ _

/-- On a connection that is greeted nothing has been heard or written yet. -/
theorem Dialogue.unheard
    (dialogue : Dialogue max number past) (reached : Reached limits max past hub) {deadline : Nat}
    (stands : hub.stage? number = some (.greeting deadline)) :
    heard number past = [] ∧ Output.messagesTo number (told past) = [] := by
  have quiet := reached.greeting stands
  have unwritten : Output.messagesTo number (told past) = [] := Output.messagesTo_eq_nil quiet
  cases dialogue with
  | silent noLines =>
      exact ⟨noLines, unwritten⟩
  | refused first own closed =>
      exact absurd rfl (quiet _ closed)
  | served text message rest frame more own connects written =>
      rw [unwritten] at written
      cases written

/-- The first line is answered by the identity of the frame, or the connection ends. -/
theorem Dialogue.greet
    (dialogue : Dialogue max number past) (reached : Reached limits max past hub)
    (known : hub.connection? number = some connection) {deadline : Nat}
    (greeting : connection.stage = .greeting deadline) :
    Dialogue max number (past ++ [⟨hub, .hear number now incoming⟩]) := by
  have stands := stage?_of_connection? known
  rw [greeting] at stands
  have quiet := reached.greeting stands
  rcases dialogue.unheard reached stands with ⟨noLines, unwritten⟩
  rcases told_hear hub number past incoming known with ⟨lines, said, closes⟩
  rw [noLines, List.nil_append] at lines
  rw [unwritten, List.nil_append] at said
  have answered : hub.answerTo connection now incoming =
      Connection.handle hub.exchange max now (.greeting deadline) incoming := by
    simp only [answerTo, greeting, reached.consistent.limit]
  have ends {answer : Answer} (same : hub.answerTo connection now incoming = answer)
      (ended : answer.stage = .ended) :
      .close number ∈ told (past ++ [⟨hub, .hear number now incoming⟩]) := by
    rw [told_concat]
    refine List.mem_append_right _ (closes.mpr ?_)
    rw [same, settled, ended]
    exact ended
  rcases Connection.handle_greeting_cases hub.exchange now max deadline incoming with
    ⟨hungUp, unreadable⟩ | ⟨text, message, rfl, parsed, ⟨reply, _, refused, kind⟩ |
      ⟨asks, ⟨error, _, refused⟩ | ⟨frame, _, accepted⟩⟩⟩
  · have same := answered.trans hungUp
    refine .refused incoming lines (ends same rfl) (.inl ⟨?_, unreadable⟩)
    rw [said, same]
    rfl
  · have same := answered.trans refused
    refine .refused _ lines (ends same rfl) (.inr ?_)
    rw [said, same]
    rcases kind with ⟨reason, rfl⟩ | ⟨reason, rfl⟩
    · exact ⟨reason, .inl rfl⟩
    · exact ⟨reason, .inr rfl⟩
  · have same := answered.trans refused
    refine .refused _ lines (ends same rfl) (.inr ⟨error.message, .inl ?_⟩)
    rw [said, same]
    rfl
  · have same := answered.trans accepted
    refine .served text message [] frame [] lines ⟨parsed, asks⟩ ?_ .nil (by simp) (by simp) ?_
    · rw [said, same]
      rfl
    · intro closed
      rcases closed.of_concat with old | ⟨_, here⟩
      · exact absurd rfl (quiet _ old.close_mem)
      · -- A frame that has been taken in is left at once only by a hub that shuts down.
        refine .inr ⟨_, List.mem_append_right _ (List.mem_singleton_self _), ?_⟩
        cases stopping : hub.stopping with
        | true =>
            rfl
        | false =>
            have ended := closes.mp here
            rw [same, settled_of_running _ stopping] at ended
            cases ended

/-- A line on a connection that serves a frame is answered, unless it is a packet or a farewell. -/
theorem Dialogue.serve
    (dialogue : Dialogue max number past) (reached : Reached limits max past hub)
    (known : hub.connection? number = some connection) {frame : FrameId}
    (serving : connection.stage = .serving frame) :
    Dialogue max number (past ++ [⟨hub, .hear number now incoming⟩]) := by
  have stands := stage?_of_connection? known
  rw [serving] at stands
  rcases reached.serving stands with ⟨identity, goesOn⟩
  have running := reached.running_of_serving known serving
  rcases told_hear hub number past incoming known with ⟨lines, said, closes⟩
  have answered : hub.answerTo connection now incoming =
      Connection.handle hub.exchange max now (.serving frame) incoming := by
    simp only [answerTo, serving, reached.consistent.limit]
  have parts : .close number ∈ (hub.perform (.hear number now incoming)).2 ↔
      Connection.isFarewell max incoming = true := by
    rw [closes, settled_of_running _ running, answered, Connection.stage_handle_serving]
    split
    · rename_i farewell
      simp [farewell]
    · rename_i other
      simp [other]
  cases dialogue with
  | silent noLines written =>
      rw [Output.identities, written] at identity
      cases identity
  | refused first own closed =>
      exact absurd closed goesOn
  | served text message rest accepted more own connects written replies before farewell closing =>
      rw [own, List.cons_append] at lines
      rw [written, List.cons_append, answered] at said
      have stays : ∀ incoming ∈ rest, Connection.isFarewell max incoming = false := by
        intro other inside
        cases parted : Connection.isFarewell max other with
        | false =>
            rfl
        | true =>
            exact absurd (farewell other inside parted) goesOn
      refine .served text message (rest ++ [incoming]) accepted _ lines connects said ?_ ?_ ?_ ?_
      · rcases Connection.replies_handle hub.exchange now max frame incoming with
          ⟨unwanted, nothing⟩ | ⟨wanted, reply, own, answers⟩
        · rw [nothing, List.append_nil, List.filter_append,
            List.filter_cons_of_neg (by simp [unwanted]), List.filter_nil, List.append_nil]
          exact replies
        · have plain : reply.isDelivery = false := by
            apply isDelivery_handle hub.exchange now max (.serving frame) incoming
            rw [own]
            exact List.mem_singleton_self _
          rw [own, List.filter_append, List.filter_append, List.filter_cons_of_pos wanted,
            List.filter_cons_of_pos (by simp [plain])]
          exact List.rel_append replies (.cons answers .nil)
      · rw [List.dropLast_concat]
        exact stays
      · rw [told_concat]
        intro other inside parted
        rcases List.mem_append.mp inside with old | new
        · exact List.mem_append_left _ (farewell other old parted)
        · obtain rfl := List.mem_singleton.mp new
          exact List.mem_append_right _ (parts.mpr parted)
      · intro closed
        rcases closed.of_concat with old | ⟨_, here⟩
        · exact absurd old.close_mem goesOn
        · exact .inl ⟨incoming, List.mem_append_right _ (List.mem_singleton_self _), parts.mp here⟩

end Hearing

theorem Dialogue.perform
    (dialogue : Dialogue max number past) (reached : Reached limits max past hub)
    (allowed : hub.Allows act) : Dialogue max number (past ++ [⟨hub, act⟩]) := by
  cases fate reached.consistent allowed number with
  | spared stage next heard packets =>
      have nothing : act.heardOn number = none := by
        cases act with
        | hear other now incoming =>
            refine if_neg ?_
            rintro rfl
            exact heard now incoming rfl
        | accept | read | forward | leave | pass | stop =>
            rfl
      refine dialogue.quiet reached nothing fun message inside => ?_
      rcases packets _ (Output.mem_messagesTo.mp inside) rfl with ⟨frame, packet, serving, _, same⟩
      cases same
      exact ⟨rfl, frame, serving⟩
  | admitted act_eq next deadline absent stage taken silent =>
      subst act_eq
      refine dialogue.quiet reached rfl ?_
      rw [silent]
      simp [Output.messagesTo]
  | heard now incoming act_eq connection known =>
      subst act_eq
      cases stage : connection.stage with
      | ended =>
          exact absurd stage (reached.consistent.alive _ (mem_of_connection? known))
      | greeting deadline =>
          exact dialogue.greet reached known stage
      | serving frame =>
          exact dialogue.serve reached known stage
  | left act_eq connection known stage written =>
      subst act_eq
      refine dialogue.quiet reached rfl ?_
      rw [written]
      simp [Output.messagesTo]

theorem Reached.dialogue
    (reached : Reached limits max past hub) (number : Nat) : Dialogue max number past := by
  induction reached with
  | start =>
      exact .silent rfl rfl
  | act reached act allowed ih =>
      exact ih.perform reached allowed

/-! ## Lines that change nothing -/

/-- Whether what the reader found is no message: too long, or a text that cannot be read as one. -/
def IsUnreadable (max : Nat) (incoming : Incoming) : Prop :=
  incoming = .tooLong ∨
    ∃ text error, incoming = .line text ∧ Line.parseFrame text max = .error error

/-- Whether what the reader found is one more greeting. -/
def IsGreeting (max : Nat) (incoming : Incoming) : Prop :=
  ∃ text message displayName, incoming = .line text ∧ Line.parseFrame text max = .ok message ∧
    message.request = .connect displayName

/-- A line that is no message, and a greeting of a frame that has been accepted, ask the switchboard
nothing. -/
theorem commandsFor_of_idle
    (reached : Reached limits max past hub) (now : Instant) {incoming : Incoming}
    (idle : IsUnreadable max incoming ∨
      IsGreeting max incoming ∧ Output.identities number (told past) ≠ []) :
    hub.commandsFor (.hear number now incoming) = [] := by
  cases known : hub.connection? number with
  | none =>
      simp only [commandsFor, known]
  | some connection =>
      have stands := stage?_of_connection? known
      simp only [commandsFor, known, reached.consistent.limit]
      cases stage : connection.stage with
      | ended =>
          exact absurd stage (reached.consistent.alive _ (mem_of_connection? known))
      | greeting deadline =>
          rw [stage] at stands
          rcases idle with (rfl | ⟨text, error, rfl, refused⟩) | ⟨_, accepted⟩
          · simp [answerTo, stage, Connection.command?, Connection.handle, Connection.hangUp,
              dismissed?]
          · simp [answerTo, stage, reached.consistent.limit, Connection.command?,
              Connection.handle, Connection.hangUp, dismissed?, refused]
          · have quiet := reached.greeting stands
            rw [Output.identities, Output.messagesTo_eq_nil quiet] at accepted
            exact absurd rfl accepted
      | serving frame =>
          have running := reached.running_of_serving known stage
          have asked : Connection.command? max (.serving frame) incoming = none := by
            rcases idle with (rfl | ⟨text, error, rfl, refused⟩) |
              ⟨⟨text, message, displayName, rfl, parsed, connects⟩, _⟩
            · rfl
            · simp [Connection.command?, refused]
            · simp [Connection.command?, parsed, connects, Request.command?]
          rw [asked, dismissed?_of_running running]
          rfl

/-! ## After the end -/

/-- Nothing is written on a connection that has been closed. -/
theorem quiet_of_closed
    (reached : Reached limits max past hub) (allowed : hub.Allows act)
    (closed : .close number ∈ told past) :
    ∀ output ∈ (hub.perform act).2, output.number ≠ number := by
  have absent := reached.absent closed
  intro output inside own
  cases fate reached.consistent allowed number with
  | spared stage next heard packets =>
      rcases packets output inside own with ⟨frame, packet, serving, _⟩
      rw [stage?, absent] at serving
      cases serving
  | admitted act_eq next deadline none stage taken silent =>
      rw [silent] at inside
      cases inside
  | heard now incoming act_eq connection known | left act_eq connection known =>
      rw [absent] at known
      cases known

/-- Whatever comes on a connection that has been closed has no effect. -/
theorem take_of_closed
    (reached : Reached limits max past hub) (closed : .close number ∈ told past) (now : Instant)
    (bytes : List UInt8) :
    hub.take (.bytes number now bytes) = (hub, []) ∧
      hub.take (.endOfStream number now) = (hub, []) := by
  have absent := reached.absent closed
  constructor
  · simp only [take, receive, absent]
  · simp only [take, finish, absent]

end Hub

end SessionBus
