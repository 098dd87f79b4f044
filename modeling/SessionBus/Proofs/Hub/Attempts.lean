import SessionBus.Proofs.Hub.Listening

/-!
# What is written whole

Of the answers on a connection, the last one at most is cut off, and so is the last one at most of
its packets.  An answer that is cut off answers the last line that is heard there; the first answer
is one that is written whole, unless it is the only thing that is written.
-/

namespace SessionBus

open Hub (Act)

/-- A message that is to be written, and whether its line is written whole. -/
structure Attempt where
  message : HubMessage
  whole : Bool
deriving DecidableEq

namespace Attempt

/-- Those that are no packets. -/
def answers (attempts : List Attempt) : List Attempt :=
  attempts.filter fun attempt => !attempt.message.isDelivery

def packets (attempts : List Attempt) : List Attempt :=
  attempts.filter fun attempt => attempt.message.isDelivery

/-- All of them are written whole. -/
def AllWhole (attempts : List Attempt) : Prop :=
  ∀ attempt ∈ attempts, attempt.whole = true

theorem allWhole_append {first second : List Attempt} :
    AllWhole (first ++ second) ↔ AllWhole first ∧ AllWhole second :=
  List.forall_mem_append

theorem allWhole_nil : AllWhole [] := by
  simp [AllWhole]

theorem allWhole_cons {first : Attempt} {rest : List Attempt} :
    AllWhole (first :: rest) ↔ first.whole = true ∧ AllWhole rest :=
  List.forall_mem_cons

theorem AllWhole.dropLast {attempts : List Attempt} (whole : AllWhole attempts) :
    AllWhole attempts.dropLast :=
  fun attempt inside => whole attempt (List.dropLast_subset attempts inside)

theorem allWhole_dropLast_of_cons {first : Attempt} {rest : List Attempt}
    (whole : AllWhole (first :: rest).dropLast) : AllWhole rest.dropLast := by
  cases rest with
  | nil =>
      exact allWhole_nil
  | cons next more =>
      exact (allWhole_cons.mp whole).2

theorem answers_append (first second : List Attempt) :
    answers (first ++ second) = answers first ++ answers second :=
  List.filter_append ..

theorem packets_append (first second : List Attempt) :
    packets (first ++ second) = packets first ++ packets second :=
  List.filter_append ..

variable {attempts : List Attempt}

theorem answers_eq_self (none : packets attempts = []) : answers attempts = attempts := by
  rw [packets, List.filter_eq_nil_iff] at none
  rw [answers, List.filter_eq_self]
  simpa using none

/-- Answers are all answers. -/
theorem answers_of_plain (plain : ∀ attempt ∈ attempts, attempt.message.isDelivery = false) :
    answers attempts = attempts ∧ packets attempts = [] := by
  rw [answers, packets, List.filter_eq_self, List.filter_eq_nil_iff]
  exact ⟨fun attempt inside => by simp [plain attempt inside],
    fun attempt inside => by simp [plain attempt inside]⟩

end Attempt

namespace Effect

/-- What is to be written to a connection. -/
def attempt? (number : Nat) : Effect → Option Attempt
  | .write other message => if other = number then some ⟨message, true⟩ else none
  | .cut other message => if other = number then some ⟨message, false⟩ else none
  | .close _ => none

def attempts (number : Nat) (effects : List Effect) : List Attempt :=
  effects.filterMap (attempt? number)

theorem attempts_append (number : Nat) (first second : List Effect) :
    attempts number (first ++ second) = attempts number first ++ attempts number second :=
  List.filterMap_append

theorem mem_attempts {number : Nat} {message : HubMessage} {whole : Bool} {effects : List Effect} :
    ⟨message, whole⟩ ∈ attempts number effects ↔
      (if whole then .write number message else .cut number message) ∈ effects := by
  rw [attempts, List.mem_filterMap]
  constructor
  · rintro ⟨effect, inside, same⟩
    cases effect with
    | close other =>
        cases same
    | write other said | cut other said =>
        simp only [attempt?, Option.ite_none_right_eq_some, Option.some.injEq,
          Attempt.mk.injEq] at same
        obtain ⟨rfl, rfl, rfl⟩ := same
        exact inside
  · intro inside
    cases whole with
    | true | false =>
        exact ⟨_, inside, by simp [attempt?]⟩

/-- If no write failed, the answers would be written. -/
theorem messagesTo_plain (number : Nat) (effects : List Effect) :
    Output.messagesTo number (plain effects) =
      (Attempt.answers (attempts number effects)).map (·.message) := by
  induction effects with
  | nil =>
      rfl
  | cons effect rest ih =>
      rw [← List.singleton_append, plain_append, Output.messagesTo_append, attempts_append,
        Attempt.answers_append, List.map_append, ih]
      congr 1
      cases effect with
      | close other =>
          rfl
      | write other message | cut other message =>
          cases delivers : message.isDelivery <;> by_cases here : other = number <;>
            simp [plain, plain?, Output.messagesTo, attempts, attempt?, Attempt.answers, delivers,
              here]

theorem attempts_eq_nil {number : Nat} {effects : List Effect}
    (quiet : ∀ effect ∈ effects, effect.number ≠ number) : attempts number effects = [] := by
  rw [attempts, List.filterMap_eq_nil_iff]
  intro effect inside
  have elsewhere := quiet effect inside
  cases effect with
  | close other =>
      rfl
  | write other | cut other =>
      exact if_neg elsewhere

theorem close_mem_plain {number : Nat} {effects : List Effect} :
    .close number ∈ plain effects ↔ .close number ∈ effects := by
  rw [plain, List.mem_filterMap]
  constructor
  · rintro ⟨effect, inside, same⟩
    cases effect with
    | close other =>
        cases same
        exact inside
    | write | cut =>
        simp only [plain?] at same
        split at same <;> cases same
  · exact fun inside => ⟨_, inside, rfl⟩

/-- What would be written if no write failed is an answer that is written or cut off. -/
theorem write_mem_plain {number : Nat} {message : HubMessage} {effects : List Effect} :
    .write number message ∈ plain effects ↔ message.isDelivery = false ∧
      (.write number message ∈ effects ∨ .cut number message ∈ effects) := by
  rw [plain, List.mem_filterMap]
  constructor
  · rintro ⟨effect, inside, same⟩
    cases effect with
    | close other =>
        cases same
    | write | cut =>
        simp only [plain?, Option.ite_none_left_eq_some, Option.some.injEq] at same
        obtain ⟨answer, same⟩ := same
        cases same
        exact ⟨by simpa using answer, by simp [inside]⟩
  · rintro ⟨answer, inside | inside⟩ <;> exact ⟨_, inside, by simp [plain?, answer]⟩

/-- What an answer that is written leaves behind. -/
theorem attempts_outputs (number : Nat) (outputs : List Output) :
    attempts number (outputs.map Output.effect) =
      (Output.messagesTo number outputs).map (⟨·, true⟩) := by
  rw [attempts, Output.messagesTo, List.filterMap_map, List.map_filterMap]
  apply List.filterMap_congr
  intro output _
  cases output with
  | close other =>
      rfl
  | write other message =>
      by_cases here : other = number <;> simp [Output.effect, attempt?, here]

theorem attempts_cut (number : Nat) (messages : List HubMessage) :
    attempts number (messages.map (.cut number)) = messages.map (⟨·, false⟩) := by
  rw [attempts, List.filterMap_map, ← List.filterMap_eq_map]
  apply List.filterMap_congr
  intro message _
  simp [attempt?]

end Effect

/-- A connection says one thing at most at a time. -/
theorem Connection.single_handle
    (exchange : Exchange) (now : Instant) (max : Nat) (stage : Stage) (incoming : Incoming) :
    (handle exchange max now stage incoming).messages = [] ∨
      ∃ message, (handle exchange max now stage incoming).messages = [message] := by
  cases stage with
  | ended =>
      exact .inl rfl
  | greeting deadline =>
      rcases handle_greeting_cases exchange now max deadline incoming with
        ⟨hungUp, _⟩ | ⟨_, _, _, _, ⟨reply, _, refused, _⟩ | ⟨_, ⟨error, _, refused⟩ |
          ⟨frame, _, accepted⟩⟩⟩
      · exact .inl (congrArg Answer.messages hungUp)
      · exact .inr ⟨reply, congrArg Answer.messages refused⟩
      · exact .inr ⟨_, congrArg Answer.messages refused⟩
      · exact .inr ⟨_, congrArg Answer.messages accepted⟩
  | serving frame =>
      rcases replies_handle exchange now max frame incoming with
        ⟨_, nothing⟩ | ⟨_, reply, said, _⟩
      · exact .inl nothing
      · exact .inr ⟨reply, said⟩

namespace BusyHub

variable {busy : BusyHub} {limits : Limits} {max number : Nat} {past : List Moment} {step : Step}
  {connection : Connection}

/-- All that is written to a connection: whole lines, but for the last answer, after which nothing is
heard, and the last packet, after which no packet is written.  The first that is written, if more
follows, is the identity of the frame. -/
structure Careful (busy : BusyHub) (max number : Nat) (past : List Moment) : Prop where
  packets :
    let packets := Attempt.packets (Effect.attempts number (told past))
    Attempt.AllWhole packets ∨
      (busy.tasks number).forwards = false ∧ Attempt.AllWhole packets.dropLast
  answers :
    let answers := Attempt.answers (Effect.attempts number (told past))
    Attempt.AllWhole answers ∨
      (busy.tasks number).waiting = [none] ∧ Attempt.AllWhole answers.dropLast ∧
        ∃ earlier line, heard number past = earlier ++ [line] ∧
          (earlier = [] ∧ .close number ∈ told past ∨
            earlier ≠ [] ∧ Connection.wantsReply max line = true)
  welcome :
    Attempt.packets (Effect.attempts number (told past)) ≠ [] →
      ∃ frame more, Effect.attempts number (told past) = ⟨.accept frame, true⟩ :: more

theorem careful_start (limits : Limits) (max number : Nat) :
    Careful (start limits max) max number [] where
  packets := .inl Attempt.allWhole_nil
  answers := .inl Attempt.allWhole_nil
  welcome := fun some => absurd rfl some

theorem attempts_concat (number : Nat) (past : List Moment) (busy : BusyHub) (step : Step) :
    Effect.attempts number (told (past ++ [⟨busy, step⟩])) =
      Effect.attempts number (told past) ++ Effect.attempts number (busy.step step).2 := by
  rw [told_concat, Effect.attempts_append]

/-- A step that writes and hears nothing on a connection. -/
theorem Careful.quiet
    (careful : busy.Careful max number past)
    (unwritten : Effect.attempts number (busy.step step).2 = [])
    (unheard : (busy.actsFor step).filterMap (Act.heardOn number) = [])
    (forwards : ((busy.step step).1.tasks number).forwards = (busy.tasks number).forwards)
    (waiting : (busy.tasks number).waiting = [none] →
      ((busy.step step).1.tasks number).waiting = [none]) :
    (busy.step step).1.Careful max number (past ++ [⟨busy, step⟩]) := by
  have written : Effect.attempts number (told (past ++ [⟨busy, step⟩])) =
      Effect.attempts number (told past) := by
    rw [attempts_concat, unwritten, List.append_nil]
  have lines : heard number (past ++ [⟨busy, step⟩]) = heard number past := by
    rw [heard_concat, unheard, List.append_nil]
  constructor
  · rw [written, forwards]
    exact careful.packets
  · rw [written, lines]
    refine careful.answers.imp_right ?_
    rintro ⟨waits, whole, earlier, line, own, reason⟩
    refine ⟨waiting waits, whole, earlier, line, own, reason.imp_left ?_⟩
    rintro ⟨first, closed⟩
    refine ⟨first, ?_⟩
    rw [told_concat]
    exact List.mem_append_left _ closed
  · rw [written]
    exact careful.welcome

/-- If something more is to be heard, no answer has been lost. -/
theorem Careful.allWhole_of_waiting
    (careful : busy.Careful max number past) {incoming : Incoming} {rest : List (Option Incoming)}
    (waits : (busy.tasks number).waiting = some incoming :: rest) :
    Attempt.AllWhole (Attempt.answers (Effect.attempts number (told past))) := by
  rcases careful.answers with whole | ⟨waiting, _⟩
  · exact whole
  · rw [waiting] at waits
    cases waits

/-- What an answer comes to, whether it is written whole or not. -/
def saying
    (busy : BusyHub) (connection : Connection) (now : Instant) (incoming : Incoming)
    (whole : Bool) : List Attempt :=
  (busy.answer connection now incoming).messages.map (Attempt.mk · whole)

theorem answers_saying
    (busy : BusyHub) (connection : Connection) (now : Instant) (incoming : Incoming)
    (whole : Bool) :
    Attempt.answers (busy.saying connection now incoming whole) =
        busy.saying connection now incoming whole ∧
      Attempt.packets (busy.saying connection now incoming whole) = [] := by
  apply Attempt.answers_of_plain
  rw [saying, List.forall_mem_map]
  exact busy.isDelivery_answer connection now incoming

/-- An answer leaves the packets as they are. -/
theorem Careful.say
    (careful : busy.Careful max number past) {now : Instant} {incoming : Incoming} {whole : Bool}
    {waiting : List (Option Incoming)}
    (tasks : (busy.step step).1.tasks = busy.tasksWith number
      { busy.tasks number with waiting })
    (said : Effect.attempts number (busy.step step).2 =
      busy.saying connection now incoming whole)
    (answers :
      let answers := Attempt.answers (Effect.attempts number (told past)) ++
        busy.saying connection now incoming whole
      Attempt.AllWhole answers ∨
        waiting = [none] ∧ Attempt.AllWhole answers.dropLast ∧
          ∃ earlier line, heard number (past ++ [⟨busy, step⟩]) = earlier ++ [line] ∧
            (earlier = [] ∧ .close number ∈ told (past ++ [⟨busy, step⟩]) ∨
              earlier ≠ [] ∧ Connection.wantsReply max line = true)) :
    (busy.step step).1.Careful max number (past ++ [⟨busy, step⟩]) := by
  have own : (busy.step step).1.tasks number = { busy.tasks number with waiting } := by
    rw [tasks, tasksWith, if_pos rfl]
  rcases busy.answers_saying connection now incoming whole with ⟨plain, none⟩
  have written : Effect.attempts number (told (past ++ [⟨busy, step⟩])) =
      Effect.attempts number (told past) ++ busy.saying connection now incoming whole := by
    rw [attempts_concat, said]
  have packets : Attempt.packets (Effect.attempts number (told (past ++ [⟨busy, step⟩]))) =
      Attempt.packets (Effect.attempts number (told past)) := by
    rw [written, Attempt.packets_append, none, List.append_nil]
  constructor
  · rw [packets, own]
    exact careful.packets
  · rw [written, Attempt.answers_append, plain, own]
    exact answers
  · rw [packets, written]
    intro some
    rcases careful.welcome some with ⟨frame, more, first⟩
    exact ⟨frame, more ++ busy.saying connection now incoming whole, by rw [first]; rfl⟩

/-- An answer is written. -/
theorem Careful.answer
    (careful : busy.Careful max number past) {now : Instant} {incoming : Incoming}
    {rest : List (Option Incoming)} (known : busy.hub.connection? number = some connection)
    (waits : (busy.tasks number).waiting = some incoming :: rest)
    (tasks : (busy.step step).1.tasks = busy.tasksWith number
      { busy.tasks number with waiting := rest })
    (effects : (busy.step step).2 =
      (busy.hub.perform (.hear number now incoming)).2.map Output.effect) :
    (busy.step step).1.Careful max number (past ++ [⟨busy, step⟩]) := by
  have own : Output.messagesTo number (busy.hub.perform (.hear number now incoming)).2 =
      (busy.answer connection now incoming).messages := by
    rw [Hub.outputs_hear known, Output.messagesTo_append, Output.messagesTo_write]
    split <;> simp [Output.messagesTo] <;> rfl
  have said : Effect.attempts number (busy.step step).2 =
      busy.saying connection now incoming true := by
    rw [effects, Effect.attempts_outputs, own]
    rfl
  refine careful.say tasks said (.inl ?_)
  rw [Attempt.allWhole_append]
  refine ⟨careful.allWhole_of_waiting waits, ?_⟩
  simp [Attempt.AllWhole, saying]

/-- What is answered to the first line is answered to nothing else, and what is answered to a frame
that is served is answered to a line that wants it. -/
theorem Reached.heard_before
    (reached : Reached limits max past busy)
    (known : busy.hub.connection? number = some connection) {now : Instant} {incoming : Incoming}
    (said : (busy.answer connection now incoming).messages ≠ []) :
    if (Hub.servedFrame? connection).isSome then
      heard number past ≠ [] ∧ Connection.wantsReply max incoming = true
    else heard number past = [] := by
  have limit := reached.consistent.limit
  rcases reached.shadowed with ⟨shadows, hub, shadowed⟩
  have there := (shadowed.connection?_eq number).trans known
  have stands := Hub.stage?_of_connection? there
  have dialogue := shadowed.reached.dialogue number
  rw [← shadowed.heard_eq]
  cases stage : connection.stage with
  | ended =>
      exact absurd stage (reached.consistent.alive _ (Hub.mem_of_connection? known))
  | greeting deadline =>
      rw [stage] at stands
      simp only [Hub.servedFrame?, stage]
      exact (dialogue.unheard shadowed.reached stands).1
  | serving frame =>
      rw [stage] at stands
      simp only [Hub.servedFrame?, stage]
      refine ⟨fun noLines => ?_, ?_⟩
      · cases dialogue with
        | silent _ written =>
            have identity := (shadowed.reached.serving stands).1
            rw [Output.identities, written] at identity
            cases identity
        | refused first own | served text message rest frame more own =>
            rw [noLines] at own
            cases own
      · rcases Connection.replies_handle busy.hub.exchange now max frame incoming with
          ⟨_, nothing⟩ | ⟨wanted, _⟩
        · refine absurd ?_ said
          simpa only [answer, stage, limit] using nothing
        · exact wanted

/-- An answer is cut off. -/
theorem Careful.breakOff
    (careful : busy.Careful max number past) (reached : Reached limits max past busy)
    {now : Instant} {incoming : Incoming} {rest : List (Option Incoming)}
    (known : busy.hub.connection? number = some connection)
    (waits : (busy.tasks number).waiting = some incoming :: rest)
    (spoken : (busy.answer connection now incoming).messages ≠ [])
    (lines : heard number (past ++ [⟨busy, step⟩]) = heard number past ++ [incoming])
    (tasks : (busy.step step).1.tasks = busy.tasksWith number
      { busy.tasks number with waiting := [none] })
    (effects : (busy.step step).2 =
      (busy.answer connection now incoming).messages.map (.cut number) ++
        if (Hub.servedFrame? connection).isSome then [] else [.close number]) :
    (busy.step step).1.Careful max number (past ++ [⟨busy, step⟩]) := by
  have said : Effect.attempts number (busy.step step).2 =
      busy.saying connection now incoming false := by
    have none : Effect.attempts number
        (if (Hub.servedFrame? connection).isSome then [] else [.close number]) = [] := by
      split <;> rfl
    rw [effects, Effect.attempts_append, none, List.append_nil, Effect.attempts_cut]
    rfl
  have before := reached.heard_before known spoken
  refine careful.say tasks said
    (.inr ⟨rfl, ?_, heard number past, incoming, lines, ?_⟩)
  · rcases Connection.single_handle busy.hub.exchange now busy.hub.maxMessageSize
      connection.stage incoming with nothing | ⟨message, one⟩
    · exact absurd nothing spoken
    · have last : busy.saying connection now incoming false = [⟨message, false⟩] :=
        congrArg (List.map (Attempt.mk · false)) one
      rw [last, List.dropLast_concat]
      exact careful.allWhole_of_waiting waits
  · split at before
    · exact .inr before
    · rename_i unserved
      refine .inl ⟨before, ?_⟩
      rw [told_concat, effects, if_neg unserved]
      simp

/-- What is said first to a frame that is accepted is its identity.  If that is cut off, it is all
that is said. -/
theorem Careful.welcomed
    (careful : busy.Careful max number past) {text : String} {rest : List Incoming}
    {frame : FrameId} {more : List HubMessage}
    (lines : heard number past = .line text :: rest)
    (said : (Attempt.answers (Effect.attempts number (told past))).map (·.message) =
      .accept frame :: more)
    (replies : List.Forall₂ (Connection.Replies max) (rest.filter (Connection.wantsReply max))
      (more.filter fun message => !message.isDelivery)) :
    (Effect.attempts number (told past) = [⟨.accept frame, false⟩] ∧ rest = [] ∧
        .close number ∈ told past) ∨
      ∃ others, Effect.attempts number (told past) = ⟨.accept frame, true⟩ :: others := by
  have answers := careful.answers
  have welcome := careful.welcome
  generalize Effect.attempts number (told past) = attempts at said answers welcome ⊢
  by_cases packets : Attempt.packets attempts = []
  · rw [Attempt.answers_eq_self packets] at said answers
    rcases attempts with _ | ⟨⟨message, whole⟩, others⟩
    · cases said
    · rw [List.map_cons, List.cons.injEq] at said
      obtain ⟨rfl, rfl⟩ := said
      cases whole with
      | true =>
          exact .inr ⟨others, rfl⟩
      | false =>
          left
          rcases answers with whole | ⟨_, whole, earlier, line, own, reason⟩
          · cases whole _ List.mem_cons_self
          · -- Only the last answer is cut off.
            have alone : others = [] := by
              cases others with
              | nil =>
                  rfl
              | cons next behind =>
                  cases whole ⟨.accept frame, false⟩ List.mem_cons_self
            subst alone
            have unanswered : rest.filter (Connection.wantsReply max) = [] := by
              cases kept : rest.filter (Connection.wantsReply max) with
              | nil =>
                  rfl
              | cons =>
                  rw [kept] at replies
                  cases replies
            rw [lines] at own
            rcases reason with ⟨rfl, closed⟩ | ⟨later, wanted⟩
            · exact ⟨rfl, (List.cons.inj own).2, closed⟩
            · rcases earlier with _ | ⟨first, between⟩
              · exact absurd rfl later
              · have inside : line ∈ rest := by
                  rw [(List.cons.inj own).2]
                  exact List.mem_append_right _ (List.mem_singleton_self _)
                rw [List.filter_eq_nil_iff] at unanswered
                exact absurd wanted (unanswered line inside)
  · right
    rcases welcome packets with ⟨own, others, rfl⟩
    refine ⟨others, ?_⟩
    have first : Attempt.answers (⟨.accept own, true⟩ :: others) =
        ⟨.accept own, true⟩ :: Attempt.answers others := rfl
    rw [first, List.map_cons, List.cons.injEq] at said
    have same : HubMessage.accept own = .accept frame := said.1
    rw [same]

/-- A frame that is served has been told its identity. -/
theorem Careful.welcomed_of_serving
    (careful : busy.Careful max number past) (reached : Reached limits max past busy)
    (known : busy.hub.connection? number = some connection) {frame : FrameId}
    (serving : connection.stage = .serving frame) :
    ∃ own others, Effect.attempts number (told past) = ⟨.accept own, true⟩ :: others := by
  rcases reached.shadowed with ⟨shadows, hub, shadowed⟩
  have stands := Hub.stage?_of_connection? ((shadowed.connection?_eq number).trans known)
  rw [serving] at stands
  rcases shadowed.reached.serving stands with ⟨identity, goesOn⟩
  rw [shadowed.told, Effect.close_mem_plain] at goesOn
  cases shadowed.reached.dialogue number with
  | silent _ written =>
      rw [Output.identities, written] at identity
      cases identity
  | refused first own closed =>
      rw [shadowed.told, Effect.close_mem_plain] at closed
      exact absurd closed goesOn
  | served text message rest own more lines connects written replies =>
      rw [shadowed.heard_eq] at lines
      rw [shadowed.told, Effect.messagesTo_plain] at written
      rcases careful.welcomed lines written replies with ⟨_, _, closed⟩ | ⟨others, first⟩
      · exact absurd closed goesOn
      · exact ⟨own, others, first⟩

/-- A packet is written, or cut off. -/
theorem Careful.forward
    (careful : busy.Careful max number past) (reached : Reached limits max past busy)
    {frame : FrameId} {packet : Packet} {written : Bool}
    (known : busy.hub.connection? number = some connection)
    (serving : connection.stage = .serving frame)
    (going : (busy.tasks number).forwards = true)
    (acts : busy.actsFor step = [])
    (tasks : (busy.step step).1.tasks = busy.tasksWith number
      { busy.tasks number with forwards := written })
    (effects : (busy.step step).2 =
      [if written then .write number (.deliver packet) else .cut number (.deliver packet)]) :
    (busy.step step).1.Careful max number (past ++ [⟨busy, step⟩]) := by
  have said : Effect.attempts number (busy.step step).2 = [⟨.deliver packet, written⟩] := by
    rw [effects]
    cases written <;> simp [Effect.attempts, Effect.attempt?]
  have written' : Effect.attempts number (told (past ++ [⟨busy, step⟩])) =
      Effect.attempts number (told past) ++ [⟨.deliver packet, written⟩] := by
    rw [attempts_concat, said]
  have own : (busy.step step).1.tasks number =
      { busy.tasks number with forwards := written } := by
    rw [tasks, tasksWith, if_pos rfl]
  have lines : heard number (past ++ [⟨busy, step⟩]) = heard number past := by
    rw [heard_concat, acts]
    exact List.append_nil _
  have answers : Attempt.answers (Effect.attempts number (told (past ++ [⟨busy, step⟩]))) =
      Attempt.answers (Effect.attempts number (told past)) := by
    rw [written', Attempt.answers_append]
    exact List.append_nil _
  have packets : Attempt.packets (Effect.attempts number (told (past ++ [⟨busy, step⟩]))) =
      Attempt.packets (Effect.attempts number (told past)) ++ [⟨.deliver packet, written⟩] := by
    rw [written', Attempt.packets_append]
    rfl
  have whole : Attempt.AllWhole (Attempt.packets (Effect.attempts number (told past))) := by
    rcases careful.packets with whole | ⟨stopped, _⟩
    · exact whole
    · rw [going] at stopped
      cases stopped
  constructor
  · rw [packets, own]
    cases written with
    | true =>
        left
        rw [Attempt.allWhole_append]
        exact ⟨whole, by simp [Attempt.AllWhole]⟩
    | false =>
        right
        rw [List.dropLast_concat]
        exact ⟨rfl, whole⟩
  · rw [answers, own, lines]
    refine careful.answers.imp_right ?_
    rintro ⟨waits, allWhole, earlier, line, same, reason⟩
    refine ⟨waits, allWhole, earlier, line, same, reason.imp_left ?_⟩
    rintro ⟨first, closed⟩
    refine ⟨first, ?_⟩
    rw [told_concat]
    exact List.mem_append_left _ closed
  · intro _
    rcases careful.welcomed_of_serving reached known serving with ⟨own, others, first⟩
    exact ⟨own, others ++ [⟨.deliver packet, written⟩], by rw [written', first]; rfl⟩

theorem Careful.take
    (careful : busy.Careful max number past) (reached : Reached limits max past busy)
    (step : Step) : (busy.step step).1.Careful max number (past ++ [⟨busy, step⟩]) := by
  by_cases own : step.number? = some number
  · cases work reached.consistent own with
    | idle nothing acts =>
        refine careful.quiet ?_ ?_ ?_ ?_ <;> simp [nothing, acts, Effect.attempts]
    | reads connection bytes known goesOn acts tasks silent =>
        refine careful.quiet ?_ ?_ ?_ ?_
        · rw [silent]
          rfl
        · simp [acts, Act.heardOn]
        · rw [tasks, tasksWith, if_pos rfl]
        · intro waits
          simp [hasEnded, waits] at goesOn
    | ends connection last known goesOn left acts tasks hub silent =>
        refine careful.quiet ?_ ?_ ?_ ?_
        · rw [silent]
          rfl
        · simp [acts]
        · rw [tasks, tasksWith, if_pos rfl]
        · intro waits
          simp [hasEnded, waits] at goesOn
    | leaves connection known reason acts tasks effects =>
        refine careful.quiet ?_ ?_ ?_ ?_ <;>
          simp [effects, acts, tasks, Effect.attempts, Effect.attempt?, Act.heardOn]
    | answers connection now incoming rest known waits acts tasks effects =>
        exact careful.answer known waits tasks effects
    | breaks connection now incoming rest known waits said acts tasks effects =>
        exact careful.breakOff reached known waits said
          (heard_of_hears past (hears_of_breaks acts)) tasks effects
    | forwards connection frame packet written known serving going acts tasks effects =>
        exact careful.forward reached known serving going acts tasks effects
  · have spared := spares reached.consistent own
    refine careful.quiet (Effect.attempts_eq_nil spared.effects) ?_ (by rw [spared.tasks])
      (fun waits => by rw [spared.tasks, waits])
    rw [List.filterMap_eq_nil_iff]
    exact fun act inside => (Act.silent_of_number (spared.acts act inside)).2

/-- Every busy hub writes with care. -/
theorem Reached.careful
    (reached : Reached limits max past busy) (number : Nat) : busy.Careful max number past := by
  induction reached with
  | start =>
      exact careful_start limits max number
  | step reached step ih =>
      exact ih.take reached step

end BusyHub

end SessionBus
