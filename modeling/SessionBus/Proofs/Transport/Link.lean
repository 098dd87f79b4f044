import SessionBus.Proofs.Bus.Refinement
import SessionBus.Proofs.Hub.Server

/-!
# What a link makes of a line

A link that reads takes from a line what the hub wrote.  As long as no other call is waiting, the
answer to a call completes it with what the switchboard said; the times of a described session are
those that their texts name.
-/

namespace SessionBus

namespace Session

/-- Sessions that are read again differ in their times only. -/
theorem timeless_reread (session : Session) : session.reread.timeless = session.timeless := by
  simp [reread, timeless, Member.reread, Member.timeless, Function.comp_def]

end Session

theorem Line.parseHub_of_long {line : String} (long : maxSize < line.utf8ByteSize) :
    parseHub line = .error (.tooLarge line.utf8ByteSize maxSize) := by
  rw [parseHub, parseWith, body, if_pos long]
  rfl

namespace SocketLink

variable {link : SocketLink}

/-- A line that is short enough is sent as long as the link writes. -/
theorem lineFor_of_short
    (writing : link.writing = true) {request : Request}
    (short : (Line.ofFrame (.ofRequest request)).utf8ByteSize ≤ Line.maxSize) :
    link.lineFor request = .ok (Line.ofFrame (.ofRequest request)) := by
  have fits : ¬ Line.maxSize < (FrameMessage.ofRequest request).toJson.compact.utf8ByteSize := by
    rw [Line.ofFrame, Line.utf8ByteSize_ofJson] at short
    omega
  unfold lineFor
  simp only [if_neg fits, if_pos writing]
  rfl

/-- The line of a message is read as that message. -/
theorem parseHub_ofHub
    {message : HubMessage} (portable : message.IsPortable)
    (short : (Line.ofHub message).utf8ByteSize ≤ Line.maxSize) :
    Line.parseHub (Line.ofHub message) = .ok message.reread := by
  apply Line.parseHub_written portable Line.isBlank_lineFeed _ short
  simp [Line.ofHub, Line.ofJson]

theorem takeLine_ofHub
    (reading : link.reading = true) {message : HubMessage} (portable : message.IsPortable)
    (short : (Line.ofHub message).utf8ByteSize ≤ Line.maxSize) :
    link.takeLine (Line.ofHub message) = link.take message.reread := by
  simp only [takeLine, reading, if_true, parseHub_ofHub portable short]

/-- A message completes no more than what waits. -/
theorem waiting_take (link : SocketLink) (message : HubMessage) :
    (link.take message).2.reading = link.reading ∧
      ∀ entry ∈ (link.take message).2.waiting, entry ∈ link.waiting := by
  unfold take
  split
  · exact ⟨rfl, fun _ => id⟩
  · split
    · exact ⟨rfl, fun _ => id⟩
    · exact ⟨rfl, fun entry inside => (List.mem_filter.mp inside).1⟩

theorem waiting_takeLine (link : SocketLink) (line : String) :
    (link.takeLine line).2.reading = link.reading ∧
      ∀ entry ∈ (link.takeLine line).2.waiting, entry ∈ link.waiting := by
  unfold takeLine
  split
  · split
    · exact link.waiting_take _
    · exact ⟨rfl, fun _ => id⟩
  · exact ⟨rfl, fun _ => id⟩

/-! ## Greetings -/

theorem greet_accept
    (frame : FrameId) (short : (Line.ofHub (.accept frame)).utf8ByteSize ≤ Line.maxSize) :
    greet (some (Line.ofHub (.accept frame))) = .ok frame := by
  have portable : (HubMessage.accept frame).IsPortable := by
    rintro packet ⟨⟩
  unfold greet
  simp only
  rw [parseHub_ofHub portable short]
  rfl

theorem greet_reject
    (reason : String) (short : (Line.ofHub (.reject reason)).utf8ByteSize ≤ Line.maxSize) :
    greet (some (Line.ofHub (.reject reason))) = .error (.rejected reason) := by
  have portable : (HubMessage.reject reason).IsPortable := by
    rintro packet ⟨⟩
  unfold greet
  simp only
  rw [parseHub_ofHub portable short]
  rfl

/-- A refusal is no identity, whether it can be read or not. -/
theorem eq_error_of_greet_reject (reason : String) :
    ∃ error, greet (some (Line.ofHub (.reject reason))) = .error error := by
  rcases Nat.lt_or_ge Line.maxSize (Line.ofHub (.reject reason)).utf8ByteSize with long | short
  · unfold greet
    simp only [Line.parseHub_of_long long]
    exact ⟨_, rfl⟩
  · exact ⟨_, greet_reject reason short⟩

/-! ## Calls -/

/-- The link that has started a call when no other call is waiting. -/
def asking (link : SocketLink) (what : Call) : SocketLink :=
  { link with nextRequest := link.nextRequest + 1, waiting := [(link.nextRequest, what)] }

/-- The link that has made a call. -/
def asked (link : SocketLink) : SocketLink :=
  { link with nextRequest := link.nextRequest + 1, waiting := [] }

theorem start_of_idle
    (idle : link.waiting = []) (reading : link.reading = true) (writing : link.writing = true)
    {what : Call}
    (short : (Line.ofFrame (.ofRequest (what.request link.nextRequest))).utf8ByteSize ≤
      Line.maxSize) :
    link.start what =
      (link.nextRequest, .ok (Line.ofFrame (.ofRequest (what.request link.nextRequest))),
        link.asking what) := by
  rcases link with ⟨frame, next, waiting, reads, writes⟩
  simp only at idle reading writing short
  subst idle reading writing
  let numbered : SocketLink := ⟨frame, next + 1, [], true, true⟩
  have line : numbered.lineFor (what.request next) =
      .ok (Line.ofFrame (.ofRequest (what.request next))) :=
    lineFor_of_short rfl short
  simp only [numbered] at line
  simp only [start, if_true, line]
  rfl

/-- A hub that refuses a call does so with the code of the refusal. -/
def refusal (error : SwitchboardError) : TransportError :=
  .remote error.message (some error.code)

/-- A call is answered under its number, and no packet is handed over with it. -/
theorem numbered_reply
    (board : Switchboard) (frame : FrameId) (now : Instant) (id : UInt64) (what : Call) :
    let reply := (Hub.reply board frame now id what).1
    reply.packet? = none ∧ reply.request? = some id := by
  cases what with
  | claim session =>
      simp only [Hub.reply]
      cases (board.claim frame session now).reply <;> exact ⟨rfl, rfl⟩
  | join | describe =>
      exact ⟨rfl, rfl⟩

theorem isPortable_reply
    (board : Switchboard) (frame : FrameId) (now : Instant) (id : UInt64) (what : Call) :
    (Hub.reply board frame now id what).1.IsPortable := by
  intro packet carried
  rw [(numbered_reply board frame now id what).1] at carried
  cases carried

/-- The answer of the hub completes the call with what the switchboard said. -/
theorem take_reply
    (link : SocketLink) (board : Switchboard) (frame : FrameId) (now : Instant) (what : Call) :
    ∃ result,
      (link.asking what).take (Hub.reply board frame now link.nextRequest what).1.reread =
          (.completed link.nextRequest result, link.asked) ∧
        result.map CallResult.timeless =
          (board.timeless.answer frame what).1.mapError refusal ∧
        (Hub.reply board frame now link.nextRequest what).2.timeless =
          (board.timeless.answer frame what).2 := by
  cases what with
  | claim session =>
      rcases board.claim_timeless frame session now with ⟨sameReply, sameBoard⟩
      simp only [Hub.reply, Switchboard.answer, sameReply, sameBoard]
      cases (board.claim frame session now).reply with
      | ok claimed =>
          refine ⟨.ok (.claimed claimed), ?_, rfl, trivial⟩
          simp [asking, take, HubMessage.reread, HubMessage.request?, Call.resultOf, asked]
      | error error =>
          refine ⟨.error (refusal error), ?_, rfl, trivial⟩
          simp [asking, take, Connection.refusal, HubMessage.requestError, HubMessage.reread,
            HubMessage.request?, Call.resultOf, asked, refusal]
  | join session displayName =>
      rcases board.join_timeless frame session displayName now with ⟨sameReply, sameBoard⟩
      simp only [Hub.reply, Switchboard.answer, sameReply, sameBoard]
      refine ⟨.ok (.joined (board.join frame session displayName now).reply), ?_, rfl, trivial⟩
      simp [asking, take, HubMessage.reread, HubMessage.request?, Call.resultOf, asked]
  | describe session =>
      simp only [Hub.reply, Switchboard.answer]
      refine ⟨.ok (.described ((board.table.describe session).map Session.reread)), ?_, ?_, trivial⟩
      · simp [asking, take, HubMessage.reread, HubMessage.request?, Call.resultOf, asked]
      · simp [Except.map, CallResult.timeless, Switchboard.timeless,
          SessionTable.describe_timeless, Function.comp_def, Session.timeless_reread]

end SocketLink

end SessionBus
