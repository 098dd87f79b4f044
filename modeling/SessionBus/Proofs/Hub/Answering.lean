import SessionBus.Proofs.Hub.Hearing

/-!
# Answers in the order of lines

The first line of a connection is its handshake: it is answered by the identity of the frame, or the
connection ends with at most one word.  After that every line but a packet is answered by exactly
one message, in the order of the lines, until the farewell, as long as the answers can be written.
An answer that cannot is the last; what its line has asked for stays as it was decided.

Packets are written in between, but not before the identity.  They take no answer away, even if they
are cut off.
-/

namespace SessionBus.BusyHub

open Hub (Act)

variable {busy : BusyHub} {limits : Limits} {max number : Nat} {past : List Moment}
  {connection : Connection}

/-! ## The whole dialogue -/

/-- What is written on a connection, beside what has been heard there. -/
inductive Dialogue (max number : Nat) (past : List Moment) : Prop
  | silent
      (lines : heard number past = [])
      (written : Effect.attempts number (told past) = [])
  | refused (first : Incoming)
      (lines : heard number past = [first])
      (closed : .close number ∈ told past)
      (written : Effect.attempts number (told past) = [] ∧
          (∀ text message, first = .line text → Line.parseFrame text max ≠ .ok message) ∨
        ∃ reason whole, Effect.attempts number (told past) = [⟨.reject reason, whole⟩] ∨
          Effect.attempts number (told past) = [⟨.complaint reason, whole⟩])
  | unwelcomed (text : String) (message : FrameMessage) (frame : FrameId)
      (lines : heard number past = [.line text])
      (connects : Line.parseFrame text max = .ok message ∧ message.asksToConnect = true)
      (closed : .close number ∈ told past)
      (written : Effect.attempts number (told past) = [⟨.accept frame, false⟩])
  | served (text : String) (message : FrameMessage) (rest : List Incoming) (frame : FrameId)
      (more : List Attempt)
      (lines : heard number past = .line text :: rest)
      (connects : Line.parseFrame text max = .ok message ∧ message.asksToConnect = true)
      (written : Effect.attempts number (told past) = ⟨.accept frame, true⟩ :: more)
      (replies : List.Forall₂ (Connection.Replies max)
        (rest.filter (Connection.wantsReply max)) ((Attempt.answers more).map (·.message)))
      (answers : Attempt.AllWhole (Attempt.answers more).dropLast)
      (lost : ¬ Attempt.AllWhole (Attempt.answers more) →
        ∃ earlier line, rest = earlier ++ [line] ∧ Connection.wantsReply max line = true)
      (packets : Attempt.AllWhole (Attempt.packets more).dropLast)
      (before : ∀ incoming ∈ rest.dropLast, Connection.isFarewell max incoming = false)
      (farewell : ∀ incoming ∈ rest, Connection.isFarewell max incoming = true →
        .close number ∈ told past)

/-- On a connection that is refused, nothing is written but the refusal. -/
theorem Careful.refused
    (careful : busy.Careful max number past)
    (unwelcome : ∀ frame more,
      Effect.attempts number (told past) ≠ ⟨.accept frame, true⟩ :: more) :
    (Attempt.answers (Effect.attempts number (told past))) =
      Effect.attempts number (told past) := by
  apply Attempt.answers_eq_self
  by_contra some
  rcases careful.welcome some with ⟨frame, more, first⟩
  exact unwelcome frame more first

/-- What is written on a connection that serves a frame, behind the identity. -/
theorem Careful.served
    (careful : busy.Careful max number past) {text : String} {message : FrameMessage}
    {rest : List Incoming} {frame : FrameId} {said : List HubMessage} {more : List Attempt}
    (lines : heard number past = .line text :: rest)
    (connects : Line.parseFrame text max = .ok message ∧ message.asksToConnect = true)
    (written : Effect.attempts number (told past) = ⟨.accept frame, true⟩ :: more)
    (answers : (Attempt.answers more).map (·.message) = said)
    (replies : List.Forall₂ (Connection.Replies max) (rest.filter (Connection.wantsReply max))
      (said.filter fun message => !message.isDelivery))
    (before : ∀ incoming ∈ rest.dropLast, Connection.isFarewell max incoming = false)
    (farewell : ∀ incoming ∈ rest, Connection.isFarewell max incoming = true →
      .close number ∈ told past) : Dialogue max number past := by
  have plain : said.filter (fun message => !message.isDelivery) = said := by
    rw [← answers, List.filter_eq_self, List.forall_mem_map]
    exact fun attempt inside => (List.mem_filter.mp inside).2
  have wholeAnswers := careful.answers
  have wholePackets := careful.packets
  rw [written] at wholeAnswers wholePackets
  rw [plain, ← answers] at replies
  refine .served text message rest frame more lines connects written replies ?_ ?_ ?_ before
    farewell
  · rcases wholeAnswers with whole | ⟨_, whole, _⟩
    · exact (Attempt.allWhole_cons.mp whole).2.dropLast
    · exact Attempt.allWhole_dropLast_of_cons whole
  · intro cut
    rcases wholeAnswers with whole | ⟨_, _, earlier, line, own, reason⟩
    · exact absurd (Attempt.allWhole_cons.mp whole).2 cut
    · rw [lines] at own
      rcases earlier with _ | ⟨first, between⟩
      · -- Nothing has been answered but the first line.
        rw [(List.cons.inj own).2, List.filter_nil, List.forall₂_nil_left_iff,
          List.map_eq_nil_iff] at replies
        rw [replies] at cut
        exact absurd Attempt.allWhole_nil cut
      · rcases reason with ⟨first, _⟩ | ⟨_, wanted⟩
        · cases first
        · exact ⟨between, line, (List.cons.inj own).2, wanted⟩
  · rcases wholePackets with whole | ⟨_, whole⟩
    · exact whole.dropLast
    · exact whole

/-- What is written on a connection is a handshake and the answers to its lines. -/
theorem Reached.dialogue
    (reached : Reached limits max past busy) (number : Nat) : Dialogue max number past := by
  have careful := reached.careful number
  rcases reached.shadowed with ⟨shadows, hub, shadowed⟩
  have answers : Output.messagesTo number (Hub.told shadows) =
      (Attempt.answers (Effect.attempts number (told past))).map (·.message) := by
    rw [shadowed.told, Effect.messagesTo_plain]
  have closes {number : Nat} : .close number ∈ Hub.told shadows ↔ .close number ∈ told past := by
    rw [shadowed.told, Effect.close_mem_plain]
  cases shadowed.reached.dialogue number with
  | silent lines written =>
      rw [shadowed.heard_eq] at lines
      rw [answers, List.map_eq_nil_iff] at written
      refine .silent lines ?_
      rw [← written]
      refine (careful.refused fun frame more first => ?_).symm
      rw [first] at written
      cases written
  | refused first lines closed written =>
      rw [shadowed.heard_eq] at lines
      rw [answers] at written
      have own : Attempt.answers (Effect.attempts number (told past)) =
          Effect.attempts number (told past) := by
        refine careful.refused fun frame more welcome => ?_
        rw [welcome] at written
        rcases written with ⟨nothing, _⟩ | ⟨reason, refused | refused⟩
        · cases nothing
        · cases refused
        · cases refused
      rw [own] at written
      refine .refused first lines (closes.mp closed) ?_
      rcases written with ⟨nothing, unreadable⟩ | ⟨reason, refused⟩
      · exact .inl ⟨List.map_eq_nil_iff.mp nothing, unreadable⟩
      · right
        rcases refused with refused | refused
        · rcases List.map_eq_singleton_iff.mp refused with ⟨⟨said, whole⟩, one, rfl⟩
          exact ⟨reason, whole, .inl one⟩
        · rcases List.map_eq_singleton_iff.mp refused with ⟨⟨said, whole⟩, one, rfl⟩
          exact ⟨reason, whole, .inr one⟩
  | served text message rest frame more lines connects written replies before farewell =>
      rw [shadowed.heard_eq] at lines
      rw [answers] at written
      rcases careful.welcomed lines written replies with
        ⟨alone, rfl, closed⟩ | ⟨others, first⟩
      · exact .unwelcomed text message frame lines connects closed alone
      · rw [first] at written
        exact careful.served lines connects first (List.cons.inj written).2 replies before
          fun incoming inside parts => closes.mp (farewell incoming inside parts)

/-! ## Single steps -/

variable {step : Step} {now : Instant} {incoming : Incoming}

theorem Reached.ended
    (reached : Reached limits max past busy) (closed : .close number ∈ told past) (step : Step) :
    ∀ effect ∈ (busy.step step).2, effect.number ≠ number := by
  by_cases own : step.number? = some number
  · rw [reached.step_of_closed closed own]
    simp
  · exact (spares reached.consistent own).effects

theorem Reached.closes
    (reached : Reached limits max past busy) (closes : .close number ∈ (busy.step step).2) :
    step = .leave number ∨ (busy.tasks number).waiting.head? = some none ∨
      ∃ incoming, (⟨busy, step⟩ : Moment).heardOn number = some incoming := by
  by_cases own : step.number? = some number
  · cases work reached.consistent own with
    | idle nothing acts =>
        simp [nothing] at closes
    | reads connection bytes known goesOn acts tasks silent
    | ends connection last known goesOn left acts tasks hub silent =>
        simp [silent] at closes
    | leaves connection known reason =>
        exact reason.imp_right .inl
    | answers connection now incoming rest known waits acts
    | breaks connection now incoming rest known waits said acts =>
        exact .inr (.inr ⟨incoming, heardOn_of_hears acts⟩)
    | forwards connection frame packet written known serving going acts tasks effects =>
        rw [effects, List.mem_singleton] at closes
        cases written <;> cases closes
  · exact absurd rfl ((spares reached.consistent own).effects _ closes)

theorem close_mem_effects {outputs : List Output} :
    .close number ∈ outputs.map Output.effect ↔ .close number ∈ outputs := by
  rw [List.mem_map]
  constructor
  · rintro ⟨output, inside, same⟩
    cases output with
    | write => cases same
    | close =>
        cases same
        exact inside
  · exact fun inside => ⟨_, inside, rfl⟩

theorem write_mem_effects {message : HubMessage} {outputs : List Output} :
    .write number message ∈ outputs.map Output.effect ↔ .write number message ∈ outputs := by
  rw [List.mem_map]
  constructor
  · rintro ⟨output, inside, same⟩
    cases output with
    | close => cases same
    | write =>
        cases same
        exact inside
  · exact fun inside => ⟨_, inside, rfl⟩

/-- A line that is answered closes its connection if nothing is left of it. -/
theorem close_mem_answers
    (known : busy.hub.connection? number = some connection)
    (effects : (busy.step step).2 =
      (busy.hub.perform (.hear number now incoming)).2.map Output.effect) :
    .close number ∈ (busy.step step).2 ↔
      (busy.hub.settled (busy.answer connection now incoming)).stage = .ended := by
  rw [effects, close_mem_effects, Hub.outputs_hear known]
  exact Hub.close_mem_written number _ _

theorem Reached.parts
    (reached : Reached limits max past busy)
    (hears : (⟨busy, step⟩ : Moment).heardOn number = some incoming)
    (welcomed : Welcomed number (told past)) :
    .close number ∈ (busy.step step).2 ↔ Connection.isFarewell max incoming = true := by
  have consistent := reached.consistent
  cases hearing_of_heardOn consistent hears with
  | answers connection now known acts effects =>
      rcases reached.serving_of_welcomed known welcomed with ⟨frame, serving⟩
      have running := consistent.running_of_serving known serving
      have stage := Connection.stage_handle_serving busy.hub.exchange now busy.hub.maxMessageSize
        frame incoming
      rw [close_mem_answers known effects, Hub.settled_of_running _ running, answer, serving,
        stage, consistent.limit]
      cases Connection.isFarewell max incoming <;> simp
  | breaks connection now known said acts effects =>
      rcases reached.serving_of_welcomed known welcomed with ⟨frame, serving⟩
      rw [answer, serving] at said
      have stays := Connection.isFarewell_of_said said
      rw [consistent.limit] at stays
      rw [effects, stays]
      simp [Hub.servedFrame?, serving]

/-- A connection that tells an identity serves the frame, unless the hub shuts down. -/
theorem settled_of_welcome
    {frame : FrameId} (said : .accept frame ∈ (busy.answer connection now incoming).messages) :
    (busy.hub.settled (busy.answer connection now incoming)).stage = .ended ↔
      busy.hub.stopping = true := by
  rw [answer] at said ⊢
  rw [(Connection.welcome_cases said).2.2]
  cases stopping : busy.hub.stopping <;>
    simp [Hub.settled, Connection.goOn, stopping, Connection.release, Connection.hangUp]

/-- A frame that is accepted is kept, unless the hub shuts down. -/
theorem Reached.stays
    (reached : Reached limits max past busy) (welcomed : Welcomed number (busy.step step).2) :
    .close number ∈ (busy.step step).2 ↔ busy.hub.stopping = true := by
  rcases welcomed with ⟨frame, inside⟩
  have consistent := reached.consistent
  by_cases own : step.number? = some number
  · cases work consistent own with
    | idle nothing acts =>
        simp [nothing] at inside
    | reads connection bytes known goesOn acts tasks silent
    | ends connection last known goesOn left acts tasks hub silent =>
        simp [silent] at inside
    | leaves connection known reason acts tasks effects =>
        simp [effects] at inside
    | forwards connection frame packet written known serving going acts tasks effects =>
        rw [effects, List.mem_singleton] at inside
        cases written <;> cases inside
    | breaks connection now incoming rest known waits said acts tasks effects =>
        rw [effects, List.mem_append, List.mem_map] at inside
        rcases inside with ⟨_, _, same⟩ | closed
        · cases same
        · split at closed
          · cases closed
          · cases List.mem_singleton.mp closed
    | answers connection now incoming rest known waits acts tasks effects =>
        rw [close_mem_answers known effects]
        rw [effects, write_mem_effects, Hub.outputs_hear known, List.mem_append] at inside
        rcases inside with said | closed
        · rcases List.mem_map.mp said with ⟨message, said, same⟩
          cases same
          exact settled_of_welcome said
        · split at closed
          · cases List.mem_singleton.mp closed
          · cases closed
  · exact absurd rfl ((spares consistent own).effects _ inside)

/-- A line that is no message has no answer in a handshake. -/
theorem unsaid_of_unreadable
    (busy : BusyHub) {deadline : Nat} (greeting : connection.stage = .greeting deadline)
    (now : Instant) (unreadable : Hub.IsUnreadable busy.hub.maxMessageSize incoming) :
    (busy.answer connection now incoming).messages = [] := by
  rw [answer, greeting]
  rcases unreadable with rfl | ⟨text, error, rfl, refused⟩
  · rfl
  · simp [Connection.handle, refused, Connection.hangUp]

/-- A line that is no message asks the switchboard nothing, and neither does a greeting after the
first. -/
theorem Reached.commandsFor_of_idle
    (reached : Reached limits max past busy)
    (idle : Hub.IsUnreadable max incoming ∨
      Hub.IsGreeting max incoming ∧ Welcomed number (told past)) (now : Instant) :
    busy.hub.commandsFor (.hear number now incoming) = [] := by
  rcases reached.shadowed with ⟨shadows, hub, shadowed⟩
  rw [← shadowed.alike.commandsFor]
  refine Hub.commandsFor_of_idle shadowed.reached now (idle.imp_right ?_)
  rintro ⟨greets, frame, written⟩
  refine ⟨greets, List.ne_nil_of_mem (a := frame) ?_⟩
  rw [Output.mem_identities, shadowed.told]
  exact ⟨_, List.mem_filterMap.mpr ⟨_, written, rfl⟩⟩

theorem Reached.idle
    (reached : Reached limits max past busy)
    (hears : (⟨busy, step⟩ : Moment).heardOn number = some incoming)
    (idle : Hub.IsUnreadable max incoming ∨
      Hub.IsGreeting max incoming ∧ Welcomed number (told past)) :
    (busy.step step).1.hub.exchange = busy.hub.exchange := by
  have consistent := reached.consistent
  have follows {now : Instant} (acts : busy.actsFor step = [.hear number now incoming]) :
      (busy.step step).1.hub.exchange = busy.hub.exchange := by
    have asks : ∀ number written, step ≠ .forward number written := by
      rintro _ _ rfl
      cases acts
    rw [(follows_step consistent asks).1, acts]
    simp only [Hub.performAll]
    rw [busy.hub.exchange_perform (by simp), reached.commandsFor_of_idle idle now]
    rfl
  cases hearing_of_heardOn consistent hears with
  | answers connection now known acts =>
      exact follows acts
  | breaks connection now known said acts =>
      cases stage : connection.stage with
      | ended =>
          exact absurd stage (consistent.alive _ (Hub.mem_of_connection? known))
      | serving frame =>
          simp only [Hub.servedFrame?, stage] at acts
          exact follows acts
      | greeting deadline =>
          rcases idle with unreadable | ⟨_, welcomed⟩
          · rw [← consistent.limit] at unreadable
            exact absurd (busy.unsaid_of_unreadable stage now unreadable) said
          · rcases reached.serving_of_welcomed known welcomed with ⟨frame, serving⟩
            rw [stage] at serving
            cases serving

/-- Whether the answer to a frame can be written makes no difference to what the hub does. -/
theorem Reached.decided
    (reached : Reached limits max past busy) (welcomed : Welcomed number (told past))
    (now : Instant) (written : Bool) :
    (busy.step (.handle number now written)).1.hub =
      (busy.step (.handle number now true)).1.hub := by
  have acts : busy.actsFor (.handle number now written) =
      busy.actsFor (.handle number now true) := by
    simp only [actsFor, actsOn]
    cases known : busy.hub.connection? number with
    | none =>
        rfl
    | some connection =>
        rcases reached.serving_of_welcomed known welcomed with ⟨frame, serving⟩
        simp [handlingActs, Hub.servedFrame?, serving]
  rw [(follows_step reached.consistent (by simp)).1, (follows_step reached.consistent (by simp)).1,
    acts]

end SessionBus.BusyHub
