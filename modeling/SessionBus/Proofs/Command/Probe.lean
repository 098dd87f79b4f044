import SessionBus.Command.Daemon
import SessionBus.Proofs.Hub.Dialogue
import SessionBus.Proofs.Message.Delivered
import SessionBus.Proofs.Message.Size
import SessionBus.Proofs.Transport.Link

/-!
# A probe among other frames

The question for the status of a hub is asked by a frame like any other.  The probe writes a greeting
and reads a line, writes a ping and reads another line; in between the hub does whatever other frames
make it do, and hears the lines of the probe when it comes to them.

A packet that is sent to all frames is also handed to the probe.  If that happens before the answer
to the ping, the line that the probe reads is the packet, and the hub counts as not running.
-/

namespace SessionBus.Command

open SessionBus.Hub (Act Moment Reached told heard)

namespace Daemon

/-! ## The probe -/

/-- How far a probe is that has a connection. -/
inductive Probing where
  | greeting
  | pinging (frame : FrameId)
  | refused (fault : ProbeFault)
  | missed (frame : FrameId) (fault : ProbeFault)
  | recognised (frame : FrameId)

namespace Probing

/-- What the probe has written so far. -/
def requests : Probing → List SessionBus.Request
  | .greeting | .refused _ => [.connect (some "framebusd status")]
  | .pinging _ | .missed _ _ => [.connect (some "framebusd status"), .ping 1]
  | .recognised _ => [.connect (some "framebusd status"), .ping 1, .disconnect]

/-- What the probe has come to. -/
def result? : Probing → Option (Except ProbeFault FrameId)
  | .greeting | .pinging _ => none
  | .refused fault | .missed _ fault => some (.error fault)
  | .recognised frame => some (.ok frame)

/-- The position of the line for which the probe waits. -/
def position : Probing → Nat
  | .greeting => 0
  | _ => 1

/-- Goes on with a line of the hub, or with the end of what it writes. -/
def take (line : Option String) : Probing → Probing
  | .greeting =>
    match greeted line with
    | .ok frame => .pinging frame
    | .error fault => .refused fault
  | .pinging frame =>
    match answered line with
    | .ok () => .recognised frame
    | .error fault => .missed frame fault
  | ended => ended

end Probing

/-- What the probe finds at a position of what the hub writes to it: a line, or else the end. -/
def Finds (number : Nat) (past : List Moment) (position : Nat) (line : Option String) : Prop :=
  (linesTo number (told past))[position]? = line ∧ (line = none → .close number ∈ told past)

/-- What a hub hears of what the probe has written. -/
def spoken (max : Nat) (probing : Probing) : List Incoming :=
  probing.requests.map fun request => LineReader.seen max (FrameMessage.ofRequest request).toJson

/-- A probe on a connection of a hub.  The hub does anything at any time, but hears on this connection
only what the probe has written, and the probe reads one line after the other. -/
inductive Probed (limits : Limits) (max number : Nat) : List Moment → Hub → Probing → Prop
  | connect {past : List Moment} {hub : Hub} (reached : Reached limits max past hub)
      (running : hub.stopping = false) (next : number = hub.nextNumber) :
      Probed limits max number (past ++ [⟨hub, .accept⟩]) (hub.perform .accept).1 .greeting
  | act {past : List Moment} {hub : Hub} {probing : Probing}
      (probed : Probed limits max number past hub probing) (act : Act) (allowed : hub.Allows act)
      (within : heard number (past ++ [⟨hub, act⟩]) <+: spoken max probing) :
      Probed limits max number (past ++ [⟨hub, act⟩]) (hub.perform act).1 probing
  | read {past : List Moment} {hub : Hub} {probing : Probing}
      (probed : Probed limits max number past hub probing) (waits : probing.result? = none)
      {line : Option String} (finds : Finds number past probing.position line) :
      Probed limits max number past hub (probing.take line)

variable {limits : Limits} {max number : Nat} {past : List Moment} {hub : Hub} {act : Act}
  {probing : Probing}

theorem linesTo_concat (number : Nat) (past : List Moment) (hub : Hub) (act : Act) :
    linesTo number (told (past ++ [⟨hub, act⟩])) =
      linesTo number (told past) ++ linesTo number (hub.perform act).2 := by
  rw [linesTo, Hub.messagesTo_concat, List.map_append]
  rfl

/-- What has been found stays where it is. -/
theorem Finds.later
    {position : Nat} {line : Option String} (finds : Finds number past position line)
    (reached : Reached limits max past hub) (allowed : hub.Allows act) :
    Finds number (past ++ [⟨hub, act⟩]) position line := by
  rcases finds with ⟨here, ended⟩
  constructor
  · rw [linesTo_concat]
    cases line with
    | some line =>
        have inside := (List.getElem?_eq_some_iff.mp here).1
        rw [List.getElem?_append_left inside]
        exact here
    | none =>
        have quiet := Hub.quiet_of_closed reached allowed (ended rfl)
        rw [linesTo, linesTo, Output.messagesTo_eq_nil quiet, List.map_nil, List.append_nil]
        exact here
  · intro nothing
    rw [Hub.told_concat]
    exact List.mem_append_left _ (ended nothing)

namespace Probing

/-- What the probe has come to is what it has made of the lines that it has found. -/
def Judges (number : Nat) (past : List Moment) : Probing → Prop
  | .greeting => True
  | .pinging frame => ∃ line, Finds number past 0 line ∧ greeted line = .ok frame
  | .refused fault => ∃ line, Finds number past 0 line ∧ greeted line = .error fault
  | .missed frame fault =>
    (∃ line, Finds number past 0 line ∧ greeted line = .ok frame) ∧
      ∃ line, Finds number past 1 line ∧ answered line = .error fault
  | .recognised frame =>
    (∃ line, Finds number past 0 line ∧ greeted line = .ok frame) ∧
      ∃ line, Finds number past 1 line ∧ answered line = .ok ()

theorem Judges.later
    (judges : probing.Judges number past) (reached : Reached limits max past hub)
    (allowed : hub.Allows act) : probing.Judges number (past ++ [⟨hub, act⟩]) := by
  cases probing with
  | greeting =>
      trivial
  | pinging | refused =>
      rcases judges with ⟨line, finds, made⟩
      exact ⟨line, finds.later reached allowed, made⟩
  | missed | recognised =>
      rcases judges with ⟨⟨first, finds, made⟩, second, findsToo, madeToo⟩
      exact ⟨⟨first, finds.later reached allowed, made⟩, second, findsToo.later reached allowed,
        madeToo⟩

theorem Judges.read
    (judges : probing.Judges number past) {line : Option String}
    (finds : Finds number past probing.position line) : (probing.take line).Judges number past := by
  cases probing with
  | greeting =>
      simp only [take]
      cases made : greeted line with
      | ok frame =>
          exact ⟨line, finds, made⟩
      | error fault =>
          exact ⟨line, finds, made⟩
  | pinging frame =>
      simp only [take]
      cases made : answered line with
      | ok _ =>
          exact ⟨judges, line, finds, made⟩
      | error fault =>
          exact ⟨judges, line, finds, made⟩
  | refused | missed | recognised =>
      exact judges

/-- The line after the ping is the last that the probe reads. -/
theorem result?_take_pinging (frame : FrameId) (line : Option String) :
    ∃ result, ((Probing.pinging frame).take line).result? = some result := by
  simp only [take]
  cases answered line with
  | ok _ =>
      exact ⟨.ok frame, rfl⟩
  | error fault =>
      exact ⟨.error fault, rfl⟩

/-- The result is the verdict on all lines of the hub, however many there are. -/
theorem Judges.verdict_eq
    (judges : probing.Judges number past) {result : Except ProbeFault FrameId}
    (ended : probing.result? = some result) :
    result = verdict (linesTo number (told past)) := by
  cases probing with
  | greeting | pinging =>
      cases ended
  | refused fault =>
      rcases judges with ⟨line, finds, made⟩
      cases ended
      rw [verdict, finds.1, made]
      rfl
  | missed frame fault =>
      rcases judges with ⟨⟨first, finds, made⟩, second, findsToo, madeToo⟩
      cases ended
      rw [verdict, finds.1, made, findsToo.1]
      simp only [Fallible.ok_bind, madeToo]
      rfl
  | recognised frame =>
      rcases judges with ⟨⟨first, finds, made⟩, second, findsToo, madeToo⟩
      cases ended
      rw [verdict, finds.1, made, findsToo.1]
      simp only [Fallible.ok_bind, madeToo]
      rfl

end Probing

namespace Probed

theorem reached (probed : Probed limits max number past hub probing) :
    Reached limits max past hub := by
  induction probed with
  | connect reached =>
      exact .act reached .accept trivial
  | act _ act allowed _ ih =>
      exact .act ih act allowed
  | read _ _ _ ih =>
      exact ih

theorem judges (probed : Probed limits max number past hub probing) :
    probing.Judges number past := by
  induction probed with
  | connect =>
      trivial
  | act probed act allowed _ ih =>
      exact ih.later probed.reached allowed
  | read _ _ finds ih =>
      exact ih.read finds

theorem born (probed : Probed limits max number past hub probing) : number < hub.nextNumber := by
  induction probed with
  | connect _ running next =>
      simp only [Hub.perform, Hub.accept, running, next]
      exact Nat.lt_succ_self _
  | act _ act _ _ ih =>
      exact Nat.lt_of_lt_of_le ih (Hub.nextNumber_le_perform _ act)
  | read _ _ _ ih =>
      exact ih

theorem spoken_prefix_take (max : Nat) (line : Option String) (probing : Probing) :
    spoken max probing <+: spoken max (probing.take line) := by
  cases probing with
  | greeting =>
      simp only [Probing.take]
      cases greeted line with
      | ok frame =>
          exact ⟨[_], rfl⟩
      | error fault =>
          exact ⟨[], rfl⟩
  | pinging frame =>
      simp only [Probing.take]
      cases answered line with
      | ok _ =>
          exact ⟨[_], rfl⟩
      | error fault =>
          exact ⟨[], rfl⟩
  | refused | missed | recognised =>
      exact List.prefix_rfl

/-- The hub has heard nothing on the connection but lines of the probe. -/
theorem within (probed : Probed limits max number past hub probing) :
    heard number past <+: spoken max probing := by
  induction probed with
  | connect reached running next =>
      have unborn := (reached.attends number).unborn (next ▸ Nat.lt_irrefl _)
      rw [Hub.heard_concat, unborn.2]
      exact List.nil_prefix
  | act _ _ _ within =>
      exact within
  | read _ _ _ ih =>
      exact ih.trans (spoken_prefix_take _ _ _)

end Probed

/-! ## What the hub says -/

/-- The first two lines of the probe. -/
def hello : FrameMessage := .ofRequest (.connect (some "framebusd status"))

def question : FrameMessage := .ofRequest (.ping 1)

/-- The question is the shorter one. -/
theorem question_le_hello :
    question.toJson.compact.utf8ByteSize ≤ hello.toJson.compact.utf8ByteSize := by
  decide +kernel

/-- The answer to the question of the probe is a pong. -/
theorem eq_pong_of_replies
    (short : hello.toJson.compact.utf8ByteSize ≤ max) {reply : HubMessage}
    (replies : Connection.Replies max (LineReader.seen max question.toJson) reply) :
    reply = .pong 1 := by
  have fits := Nat.le_trans question_le_hello short
  have plain : question.IsPortable := FrameMessage.isPortable_of_plain rfl
  have parsed := Connection.parseFrame_compact plain fits
  rw [LineReader.seen, if_pos fits] at replies
  cases replies with
  | unreadable text error refused =>
      rw [parsed] at refused
      cases refused
  | message text message read reply answers =>
      cases parsed.symm.trans read
      cases answers
      rfl

theorem wantsReply_question (max : Nat) :
    Connection.wantsReply max (LineReader.seen max question.toJson) = true := by
  unfold LineReader.seen
  split
  · rename_i fits
    have plain : question.IsPortable := FrameMessage.isPortable_of_plain rfl
    have parsed := Connection.parseFrame_compact plain fits
    simp only [Connection.wantsReply, Connection.isPacket, Connection.isFarewell, parsed]
    rfl
  · rfl

/-- Behind its greeting, the probe writes its question first. -/
theorem spoken_eq (max : Nat) (probing : Probing) :
    spoken max probing = [LineReader.seen max hello.toJson] ∨
      ∃ rest, spoken max probing =
        LineReader.seen max hello.toJson :: LineReader.seen max question.toJson :: rest := by
  cases probing with
  | greeting | refused =>
      exact .inl rfl
  | pinging | missed | recognised =>
      exact .inr ⟨_, rfl⟩

/-- What a hub has heard of a probe starts with its greeting, and goes on with its question. -/
theorem heard_cases
    {first : Incoming} {rest : List Incoming} (within : first :: rest <+: spoken max probing) :
    first = LineReader.seen max hello.toJson ∧
      (rest = [] ∨ ∃ others, rest = LineReader.seen max question.toJson :: others) := by
  rcases spoken_eq max probing with one | ⟨others, more⟩
  · rw [one, List.cons_prefix_cons] at within
    exact ⟨within.1, .inl (List.prefix_nil.mp within.2)⟩
  · rw [more, List.cons_prefix_cons] at within
    refine ⟨within.1, ?_⟩
    cases rest with
    | nil =>
        exact .inl rfl
    | cons second rest =>
        rw [List.cons_prefix_cons] at within
        exact .inr ⟨rest, by rw [within.2.1]⟩

/-- After its identity, a probe is told the answer to its question, or a packet before it. -/
theorem Probed.second
    (probed : Probed limits max number past hub probing) {frame : FrameId}
    {message : HubMessage} {more : List HubMessage}
    (said : Output.messagesTo number (told past) = .accept frame :: message :: more) :
    message = .pong 1 ∨ ∃ packet, message = .deliver packet := by
  cases probed.reached.dialogue number with
  | silent _ written =>
      rw [said] at written
      cases written
  | refused _ _ _ written =>
      rw [said] at written
      rcases written with ⟨nothing, _⟩ | ⟨reason, one | one⟩
      · cases nothing
      · cases one
      · cases one
  | served text first rest other others lines connects written replies =>
      rw [said] at written
      cases written
      cases delivery : message.isDelivery with
      | true =>
          cases message with
          | deliver packet =>
              exact .inr ⟨packet, rfl⟩
          | connected | rejected | sessionClaimed | sessionJoined | sessionDescribed | pong |
            error =>
              cases delivery
      | false =>
          left
          have within := probed.within
          rw [lines] at within
          rcases heard_cases within with ⟨greets, none | ⟨others, asks⟩⟩
          · rw [none, List.filter_cons_of_pos (by simp [delivery])] at replies
            cases replies
          · have short : hello.toJson.compact.utf8ByteSize ≤ max := by
              unfold LineReader.seen at greets
              split at greets
              · assumption
              · cases greets
            rw [asks, List.filter_cons_of_pos (wantsReply_question max),
              List.filter_cons_of_pos (by simp [delivery])] at replies
            cases replies with
            | cons first _ =>
                exact eq_pong_of_replies short first

/-! ## What the probe makes of it -/

/-- The text of a line of the hub is its document, which ends with its closing brace. -/
theorem textOf_ofHub (message : HubMessage) :
    textOf (Line.ofHub message) = message.toJson.compact := by
  obtain ⟨members, object⟩ : ∃ members, message.toJson = .object members := ⟨_, rfl⟩
  have document : message.toJson.compact.toList =
      '\x7b' :: Json.writtenMembers true members ++ ['\x7d'] := by
    rw [Json.toList_compact, object, Json.written, List.cons_append]
  generalize '\x7b' :: Json.writtenMembers true members = front at document
  have reversed : (Line.ofHub message).toList.reverse = '\n' :: '\x7d' :: front.reverse := by
    simp [Line.ofHub, Line.ofJson, document]
  have whole : String.ofList ('\x7d' :: front.reverse).reverse = message.toJson.compact := by
    rw [List.reverse_cons, List.reverse_reverse, ← document, String.ofList_toList]
  simp only [textOf, reversed]
  exact whole

/-- The probe reads a message of the hub if its document is not too long. -/
theorem parseHub_textOf
    {message : HubMessage} (portable : message.IsPortable)
    (short : message.toJson.compact.utf8ByteSize ≤ Line.maxSize) :
    Line.parseHub (textOf (Line.ofHub message)) = .ok message.reread := by
  have blank : ∀ c ∈ ([] : List Char), Text.isBlank c = true := nofun
  rw [textOf_ofHub]
  apply Line.parseHub_written portable blank _ short
  rw [Json.toList_compact, List.append_nil]

theorem greeted_accept (frame : FrameId) : greeted (some (Line.ofHub (.accept frame))) = .ok frame := by
  have portable : (HubMessage.accept frame).IsPortable := by
    rintro packet ⟨⟩
  have short := Line.short_accept frame
  rw [Line.ofHub, Line.utf8ByteSize_ofJson] at short
  simp only [greeted, parseHub_textOf portable (Nat.le_of_succ_le short)]
  rfl

theorem answered_pong : answered (some (Line.ofHub (.pong 1))) = .ok () := by
  have portable : (HubMessage.pong 1).IsPortable := by
    rintro packet ⟨⟩
  simp only [answered, parseHub_textOf portable (by decide +kernel)]
  rfl

/-- A packet in place of the answer is taken for a fault of the hub. -/
theorem answered_deliver (packet : Packet) :
    answered (some (Line.ofHub (.deliver packet))) = .error .unexpectedPong ∨
      ∃ error, answered (some (Line.ofHub (.deliver packet))) = .error (.unreadable error) := by
  cases read : Line.parseHub (textOf (Line.ofHub (.deliver packet))) with
  | error error =>
      exact .inr ⟨error, by simp only [answered, read]⟩
  | ok message =>
      have blank : ∀ c ∈ ([] : List Char), Text.isBlank c = true := nofun
      have document : (textOf (Line.ofHub (.deliver packet))).toList =
          (HubMessage.deliver packet).toJson.written ++ [] := by
        rw [textOf_ofHub, Json.toList_compact, List.append_nil]
      rcases Line.deliver_of_parseHub_written blank document read with ⟨data, rfl⟩
      exact .inl (by simp only [answered, read])

/-- Without a first line the probe has no identity, and without a second one no answer. -/
theorem getElem?_linesTo (number : Nat) (past : List Moment) (position : Nat) :
    (linesTo number (told past))[position]? =
      (Output.messagesTo number (told past))[position]?.map Line.ofHub :=
  List.getElem?_map

/-! ## The end of the question -/

namespace Probed

/-- A connection that has not been closed can be heard on. -/
theorem connected
    (probed : Probed limits max number past hub probing) (goesOn : .close number ∉ told past) :
    ∃ connection, hub.connection? number = some connection := by
  cases known : hub.connection? number with
  | none =>
      exact absurd (probed.reached.closed probed.born known) goesOn
  | some connection =>
      exact ⟨connection, rfl⟩

/-- The hub hears the next line of the probe. -/
theorem hear
    (probed : Probed limits max number past hub probing) (goesOn : .close number ∉ told past)
    {incoming : Incoming} (next : heard number past ++ [incoming] <+: spoken max probing) :
    let act : Act := .hear number .epoch incoming
    heard number (past ++ [⟨hub, act⟩]) = heard number past ++ [incoming] ∧
      Probed limits max number (past ++ [⟨hub, act⟩]) (hub.perform act).1 probing := by
  intro act
  have lines : heard number (past ++ [⟨hub, act⟩]) = heard number past ++ [incoming] := by
    rw [Hub.heard_concat, Hub.Act.heardOn, if_pos rfl]
    rfl
  refine ⟨lines, probed.act act (probed.connected goesOn) ?_⟩
  rw [lines]
  exact next

/-- Each of the first two lines of the probe is answered, unless the connection is closed. -/
theorem answers
    (probed : Probed limits max number past hub probing) (goesOn : .close number ∉ told past) :
    heard number past = [] ∧ Output.messagesTo number (told past) = [] ∨
      (heard number past).length = 1 ∧ 1 ≤ (Output.messagesTo number (told past)).length ∨
        2 ≤ (heard number past).length ∧ 2 ≤ (Output.messagesTo number (told past)).length := by
  cases probed.reached.dialogue number with
  | silent lines written =>
      exact .inl ⟨lines, written⟩
  | refused first lines closed =>
      exact absurd closed goesOn
  | served text first rest frame more lines connects written replies =>
      right
      have within := probed.within
      rw [lines] at within
      rw [lines, written]
      rcases heard_cases within with ⟨_, none | ⟨others, asks⟩⟩
      · rw [none]
        exact .inl ⟨rfl, Nat.le_add_left 1 _⟩
      · right
        rw [asks, List.filter_cons_of_pos (wantsReply_question max)] at replies
        have answered : more ≠ [] := by
          rintro rfl
          cases replies
        rw [asks]
        exact ⟨Nat.le_add_left 2 _, Nat.succ_le_succ (List.length_pos_iff.mpr answered)⟩

/-- While the probe waits for a line that has not come, the hub has not heard its last one. -/
theorem unheard
    (probed : Probed limits max number past hub probing) (waits : probing.result? = none)
    (goesOn : .close number ∉ told past)
    (missing : (Output.messagesTo number (told past)).length ≤ probing.position) :
    ∃ next, heard number past ++ [next] <+: spoken max probing ∧
      (heard number past).length = probing.position := by
  cases probing with
  | greeting =>
      have said := List.length_eq_zero_iff.mp (Nat.le_zero.mp missing)
      rcases probed.answers goesOn with ⟨lines, _⟩ | ⟨_, some⟩ | ⟨_, some⟩
      · rw [lines]
        exact ⟨_, List.prefix_rfl, rfl⟩
      · simp [said] at some
      · simp [said] at some
  | pinging frame =>
      rcases probed.answers goesOn with ⟨_, said⟩ | ⟨one, _⟩ | ⟨_, two⟩
      · -- The probe has found its identity, so something has been written.
        rcases probed.judges with ⟨line, ⟨here, _⟩, made⟩
        rw [getElem?_linesTo, said] at here
        rw [← here] at made
        cases made
      · have within := probed.within
        rcases List.length_eq_one_iff.mp one with ⟨first, lines⟩
        rw [lines] at within ⊢
        rw [(heard_cases within).1]
        exact ⟨_, List.prefix_rfl, rfl⟩
      · exact absurd (Nat.le_trans two missing) (by simp [Probing.position])
  | refused | missed | recognised =>
      cases waits

/-- A line of the hub, or its end, is found once it is there. -/
theorem finds
    (number : Nat) (past : List Moment) (position : Nat)
    (said : position < (Output.messagesTo number (told past)).length ∨ .close number ∈ told past) :
    Finds number past position (linesTo number (told past))[position]? := by
  refine ⟨rfl, fun none => ?_⟩
  rcases said with inside | closed
  · rw [getElem?_linesTo, List.getElem?_eq_getElem inside] at none
    cases none
  · exact closed

/-- The line at the position of a probe is there, or will not come, once its lines are heard. -/
theorem finds_of_heard
    (probed : Probed limits max number past hub probing) (position : Nat) (small : position ≤ 1)
    (lines : .close number ∈ told past ∨ position < (heard number past).length) :
    Finds number past position (linesTo number (told past))[position]? := by
  apply finds
  by_cases closed : .close number ∈ told past
  · exact .inr closed
  · left
    have behind := lines.resolve_left closed
    rcases probed.answers closed with ⟨none, _⟩ | ⟨one, said⟩ | ⟨_, said⟩
    · simp [none] at behind
    · exact Nat.lt_of_lt_of_le (one ▸ behind) said
    · exact Nat.lt_of_le_of_lt small said

/-- A probe that waits for a line finds one, or the end, once the hub has heard what it has
written. -/
theorem comes
    (probed : Probed limits max number past hub probing) (waits : probing.result? = none) :
    ∃ acts line, (∀ act ∈ acts, ∃ now incoming, act = .hear number now incoming) ∧
      Probed limits max number (past ++ hub.run acts) (hub.performAll acts).1 probing ∧
        Finds number (past ++ hub.run acts) probing.position line := by
  by_cases there : probing.position < (Output.messagesTo number (told past)).length ∨
      .close number ∈ told past
  · refine ⟨[], _, by simp, ?_, finds _ _ _ ?_⟩
    · rw [Hub.run, List.append_nil]
      exact probed
    · rw [Hub.run, List.append_nil]
      exact there
  · rw [not_or, Nat.not_lt] at there
    rcases probed.unheard waits there.2 there.1 with ⟨next, within, behind⟩
    rcases probed.hear there.2 within with ⟨lines, later⟩
    have small : probing.position ≤ 1 := by
      cases probing <;> simp [Probing.position]
    have longer := congrArg List.length lines
    rw [List.length_append, behind, List.length_singleton] at longer
    refine ⟨[.hear number .epoch next], _, by simp, later,
      later.finds_of_heard probing.position small (.inr ?_)⟩
    exact Nat.lt_of_succ_le (Nat.le_of_eq longer.symm)

/-- A probe that waits reads on. -/
theorem goesOn
    (probed : Probed limits max number past hub probing) (waits : probing.result? = none) :
    ∃ acts line, (∀ act ∈ acts, ∃ now incoming, act = .hear number now incoming) ∧
      Probed limits max number (past ++ hub.run acts) (hub.performAll acts).1
        (probing.take line) := by
  rcases probed.comes waits with ⟨acts, line, hears, later, finds⟩
  exact ⟨acts, line, hears, later.read waits finds⟩

/-- A probe that has written its ping comes to an end. -/
theorem ends_of_pinging
    {frame : FrameId} (probed : Probed limits max number past hub (.pinging frame)) :
    ∃ acts after, (∀ act ∈ acts, ∃ now incoming, act = .hear number now incoming) ∧
      Probed limits max number (past ++ hub.run acts) (hub.performAll acts).1 after ∧
        after.result?.isSome = true := by
  rcases probed.goesOn rfl with ⟨acts, line, hears, later⟩
  exact ⟨acts, _, hears, later,
    Option.isSome_iff_exists.mpr (Probing.result?_take_pinging frame line)⟩

/-- From wherever it is, a probe comes to an end. -/
theorem ends (probed : Probed limits max number past hub probing) :
    ∃ acts after, (∀ act ∈ acts, ∃ now incoming, act = .hear number now incoming) ∧
      Probed limits max number (past ++ hub.run acts) (hub.performAll acts).1 after ∧
        after.result?.isSome = true := by
  have here := probed
  rw [← List.append_nil past] at here
  cases probing with
  | greeting =>
      rcases probed.goesOn rfl with ⟨acts, line, hears, later⟩
      simp only [Probing.take] at later
      cases made : greeted line with
      | error fault =>
          rw [made] at later
          exact ⟨acts, .refused fault, hears, later, rfl⟩
      | ok frame =>
          rw [made] at later
          rcases later.ends_of_pinging with ⟨more, after, hearsToo, final, ended⟩
          refine ⟨acts ++ more, after, List.forall_mem_append.mpr ⟨hears, hearsToo⟩, ?_, ended⟩
          rw [Hub.run_append, Hub.performAll_append, ← List.append_assoc]
          exact final
  | pinging frame =>
      exact probed.ends_of_pinging
  | refused fault =>
      exact ⟨[], .refused fault, by simp, here, rfl⟩
  | missed frame fault =>
      exact ⟨[], .missed frame fault, by simp, here, rfl⟩
  | recognised frame =>
      exact ⟨[], .recognised frame, by simp, here, rfl⟩

/-- A hub that runs and has room takes the probe in, if its greeting is not too long. -/
theorem takenIn
    (probed : Probed limits max number past hub probing) (unheard : heard number past = [])
    (goesOn : .close number ∉ told past) (running : hub.stopping = false)
    {board : Switchboard} (runs : hub.exchange.board = some board) {frame : FrameId}
    (room : board.register.reply = .ok frame) (now : Instant) :
    (hub.perform (.hear number now (LineReader.seen max hello.toJson))).2 =
      if hello.toJson.compact.utf8ByteSize ≤ max then [.write number (.accept frame)]
      else [.close number] := by
  rcases probed.connected goesOn with ⟨connection, known⟩
  have limit := probed.reached.consistent.limit
  obtain ⟨deadline, greeting⟩ : ∃ deadline, connection.stage = .greeting deadline := by
    have stands := Hub.stage?_of_connection? known
    have said : Output.messagesTo number (told past) = [] := by
      rcases probed.answers goesOn with ⟨_, said⟩ | ⟨one, _⟩ | ⟨two, _⟩
      · exact said
      · simp [unheard] at one
      · simp [unheard] at two
    cases probed.reached.standing number with
    | greeting deadline _ stage =>
        exact ⟨deadline, Option.some.inj (stands.symm.trans stage)⟩
    | serving frame _ _ identity =>
        rw [Output.identities, said] at identity
        cases identity
    | unborn _ stage | gone _ stage =>
        cases stands.symm.trans stage
  have plain : hello.IsPortable := FrameMessage.isPortable_of_plain rfl
  rw [Hub.outputs_hear known, Hub.answerTo, greeting, limit, LineReader.seen]
  split
  · rename_i short
    obtain ⟨reply, _⟩ := Exchange.request_of_running runs (.error .closed) (·.register)
    have asked : hub.exchange.register = (.ok frame, hub.exchange.register.2) :=
      Prod.ext (reply.trans room) rfl
    have answered : Connection.handle hub.exchange max now (.greeting deadline)
        (.line hello.toJson.compact) =
          Connection.goOn hub.exchange.register.2 frame [.accept frame] := by
      rw [Connection.handle_greeting plain short, hello, Hub.greet_connect, asked]
    rw [answered]
    simp [Connection.goOn, Hub.settled, running]
  · rfl

end Probed

end Daemon

end SessionBus.Command
