import SessionBus.Proofs.Hub.Orderly
import SessionBus.Proofs.Transport.Endpoints

/-!
# What a connection owes to the calls of its link

A wire is a link with the lines that the hub has not handled yet, and with what the hub has done
that the link has not seen yet.  As long as the connection is open, every call that waits has
something to come: its line is handled in the end, and then it is answered or missed.

A call is missed if its line is too long for the hub, which refuses it without the number of the
request, or if it asks for a description that makes a line too long for the link.  There is no other
way to miss a call.
-/

namespace SessionBus

/-- A link with what lies between it and the hub: the lines that the hub has not handled yet, and
what the hub has done on the connection that the link has not seen yet. -/
structure Wire where
  endpoint : Endpoint
  outgoing : List String
  incoming : List Output

namespace Wire

def link (wire : Wire) : SocketLink :=
  wire.endpoint.link

def number (wire : Wire) : Nat :=
  wire.endpoint.connection

/-- The wire with another state of its link, which has queued some lines. -/
def queue (wire : Wire) (link : SocketLink) (lines : List String) : Wire :=
  { wire with endpoint.link := link, outgoing := wire.outgoing ++ lines }

/-- Starts a call. -/
def call (wire : Wire) (what : Call) : Wire :=
  let started := wire.link.start what
  wire.queue started.2.2 started.2.1.toOption.toList

def send (wire : Wire) (route : Route) (packet : Packet) : Wire :=
  wire.queue wire.link (wire.link.lineOfPacket? route packet).toList

def detach (wire : Wire) : Wire :=
  let detached := wire.link.detach
  wire.queue detached.2 detached.1.toList

/-- Lets the link see the next thing that the hub has done. -/
def read (wire : Wire) : Wire :=
  match wire.incoming with
  | [] => wire
  | output :: rest => { wire with endpoint := (wire.endpoint.take output).1, incoming := rest }

/-- The wire after the hub has done some things. -/
def post (outputs : List Output) (wire : Wire) : Wire :=
  { wire with
    incoming := wire.incoming ++ outputs.filter (·.connection == wire.endpoint.connection) }

end Wire

/-- A line that the hub has handled, with what it has done. -/
structure Handling where
  connection : Nat
  line : String
  outputs : List Output

/-- The size of the line of a call, without its line feed. -/
def Call.size (call : Call) (id : UInt64) : Nat :=
  (FrameMessage.ofRequest (call.request id)).toJson.compact.utf8ByteSize

/-- The line of a call. -/
def Call.line (call : Call) (id : UInt64) : String :=
  Line.ofFrame (.ofRequest (call.request id))

/-- The hub has handled the line of a call without a usable answer: the line was too long for the
hub, though not for the link, or the call asked for a session whose description is too long for the
link. -/
structure Handling.Misses (handling : Handling) (maxMessageSize number : Nat) (id : UInt64)
    (call : Call) : Prop where
  connection : handling.connection = number
  line : handling.line = call.line id
  cause :
    maxMessageSize < call.size id ∧ call.size id ≤ Line.maxSize ∨
      ∃ session reply, call = .describe session ∧ .write number reply ∈ handling.outputs ∧
        reply.request? = some id ∧ Line.maxSize < (Line.ofHub reply).utf8ByteSize

/-! ## Links -/

namespace SocketLink

/-- What a link sends is the line of a request that is short enough for it. -/
theorem line_of_lineFor
    {link : SocketLink} {request : Request} {line : String}
    (written : link.lineFor request = .ok line) :
    line = Line.ofFrame (.ofRequest request) ∧
      (FrameMessage.ofRequest request).toJson.compact.utf8ByteSize ≤ Line.maxSize := by
  simp only [lineFor] at written
  split at written
  · cases written
  · rename_i fits
    split at written
    · cases written
      exact ⟨rfl, Nat.le_of_not_lt fits⟩
    · cases written

theorem message_of_sent
    {link : SocketLink} {request : Request} {line : String}
    (sent : line ∈ (link.lineFor request).toOption.toList) :
    ∃ message, line = Line.ofFrame message := by
  cases written : link.lineFor request with
  | ok other =>
      rw [written] at sent
      obtain rfl : line = other := by
        simpa [Except.toOption] using sent
      exact ⟨_, (line_of_lineFor written).1⟩
  | error error =>
      rw [written] at sent
      cases sent

/-- A call either fails at once, or waits for the answer to its line. -/
theorem start_cases (link : SocketLink) (what : Call) :
    let started := link.start what
    started.2.2.reading = link.reading ∧
      (started.2.1.toOption.toList = [] ∧ started.2.2.waiting = link.waiting ∨
        what.size link.nextRequest ≤ Line.maxSize ∧
          started.2.1.toOption.toList = [what.line link.nextRequest] ∧
          started.2.2.waiting =
            link.waiting.filter (fun entry => entry.1 != link.nextRequest) ++
              [(link.nextRequest, what)]) := by
  simp only [SocketLink.start]
  split
  · split
    · exact ⟨rfl, .inl ⟨rfl, rfl⟩⟩
    · rename_i line written
      rcases line_of_lineFor written with ⟨rfl, short⟩
      exact ⟨rfl, .inr ⟨short, rfl, rfl⟩⟩
  · exact ⟨rfl, .inl ⟨rfl, rfl⟩⟩

/-- An answer leaves no call of its number waiting. -/
theorem notWaiting_take
    (link : SocketLink) {message : HubMessage} {id : UInt64} (request : message.request? = some id)
    (plain : message.packet? = none) :
    ∀ entry ∈ (link.take message).2.waiting, entry.1 ≠ id := by
  unfold take
  split
  · cases plain
  · rw [request, Option.bind_some]
    cases found : link.waiting.lookup id with
    | none =>
        intro entry inside same
        have other := List.lookup_eq_none_iff.mp found entry inside
        simp [same] at other
    | some call =>
        intro entry inside
        simpa using (List.mem_filter.mp inside).2

theorem notWaiting_takeLine
    {link : SocketLink} (reading : link.reading = true) {message : HubMessage} {id : UInt64}
    (request : message.request? = some id) (plain : message.packet? = none)
    (short : (Line.ofHub message).utf8ByteSize ≤ Line.maxSize) :
    ∀ entry ∈ (link.takeLine (Line.ofHub message)).2.waiting, entry.1 ≠ id := by
  have portable : message.IsPortable := by
    intro packet carried
    rw [plain] at carried
    cases carried
  rw [takeLine_ofHub reading portable short]
  apply notWaiting_take
  · rw [← request]
    cases message <;> rfl
  · rw [← plain]
    cases message <;> rfl

end SocketLink

namespace Endpoint

theorem follow_eq (endpoint : Endpoint) (output : LinkOutput) :
    (endpoint.follow output).1.link = endpoint.link ∧
      (endpoint.follow output).1.connection = endpoint.connection := by
  cases output <;> exact ⟨rfl, rfl⟩

/-- An endpoint keeps its connection, and its link sees what is done there and nothing else. -/
theorem take_cases (endpoint : Endpoint) (output : Output) :
    let after := (endpoint.take output).1
    after.connection = endpoint.connection ∧
      (output.connection ≠ endpoint.connection ∧ after.link = endpoint.link ∨
        (∃ message, output = .write endpoint.connection message ∧
          after.link = (endpoint.link.takeLine (Line.ofHub message)).2) ∨
        output = .close endpoint.connection ∧ after.link = endpoint.link.endOfStream.2) := by
  by_cases own : output.connection = endpoint.connection
  · cases output with
    | write number message =>
        obtain rfl : number = endpoint.connection := own
        simp only [take, if_true]
        exact ⟨(follow_eq _ _).2, .inr (.inl ⟨message, rfl, (follow_eq _ _).1⟩)⟩
    | close number =>
        obtain rfl : number = endpoint.connection := own
        have taken : endpoint.take (.close endpoint.connection) = _ := if_pos rfl
        rw [taken]
        exact ⟨rfl, .inr (.inr ⟨rfl, rfl⟩)⟩
  · rw [take_of_ne own]
    exact ⟨rfl, .inl ⟨own, rfl⟩⟩

end Endpoint

/-! ## What a wire owes to its calls -/

namespace Wire

/-- The connection is closed, or will be when the link has seen what is on its way. -/
def Closing (wire : Wire) : Prop :=
  .close wire.number ∈ wire.incoming ∨ wire.link.reading = false

/-- What is to come of a call that waits: its line is on its way to the hub, or a readable answer
is on its way to the link, or the call has been missed. -/
inductive Awaits (wire : Wire) (maxMessageSize : Nat) (history : List Handling) (id : UInt64)
    (call : Call) : Prop where
  | asked (size : call.size id ≤ Line.maxSize) (queued : call.line id ∈ wire.outgoing)
  | answered (reply : HubMessage) (request : reply.request? = some id)
      (plain : reply.packet? = none) (short : (Line.ofHub reply).utf8ByteSize ≤ Line.maxSize)
      (written : .write wire.number reply ∈ wire.incoming)
  | missed (handling : Handling) (past : handling ∈ history)
      (misses : handling.Misses maxMessageSize wire.number id call)

/-- A wire carries lines of messages one way, and what is done on its connection the other way;
unless it is closing, the hub serves it and every call that waits has something to come. -/
structure Sound (wire : Wire) (hub : Hub) (history : List Handling) : Prop where
  lines : ∀ line ∈ wire.outgoing, ∃ message, line = Line.ofFrame message
  state :
    wire.Closing ∨
      hub.Serves wire.number ∧
        ∀ entry ∈ wire.link.waiting, wire.Awaits hub.maxMessageSize history entry.1 entry.2

variable {wire : Wire} {hub : Hub} {history : List Handling}

/-! ## Queueing -/

/-- More lines in the queue take nothing away. -/
theorem Awaits.queue
    {max : Nat} {id : UInt64} {call : Call} (awaits : wire.Awaits max history id call)
    (link : SocketLink) (lines : List String) :
    (wire.queue link lines).Awaits max history id call := by
  cases awaits with
  | asked size queued =>
      exact .asked size (List.mem_append_left _ queued)
  | answered reply request plain short written =>
      exact .answered reply request plain short written
  | missed handling past misses =>
      exact .missed handling past misses

/-- A link may queue lines of messages, if it waits for no other calls than those that it has waited
for and those whose lines it queues. -/
theorem Sound.queue
    (sound : wire.Sound hub history) (link : SocketLink) (lines : List String)
    (reading : link.reading = wire.link.reading)
    (written : ∀ line ∈ lines, ∃ message, line = Line.ofFrame message)
    (waiting : ∀ entry ∈ link.waiting, entry ∈ wire.link.waiting ∨
      entry.2.size entry.1 ≤ Line.maxSize ∧ entry.2.line entry.1 ∈ lines) :
    (wire.queue link lines).Sound hub history where
  lines := by
    intro line inside
    exact (List.mem_append.mp inside).elim (sound.lines line) (written line)
  state := by
    rcases sound.state with closing | ⟨serves, awaited⟩
    · exact .inl (closing.imp id fun ended => reading.trans ended)
    · refine .inr ⟨serves, fun entry inside => ?_⟩
      rcases waiting entry inside with old | ⟨size, queued⟩
      · exact (awaited entry old).queue link lines
      · exact .asked size (List.mem_append_right _ queued)

theorem Sound.call (sound : wire.Sound hub history) (what : Call) :
    (wire.call what).Sound hub history := by
  rcases wire.link.start_cases what with ⟨reading, ⟨line, waiting⟩ | ⟨size, line, waiting⟩⟩
  · refine sound.queue (wire.link.start what).2.2 _ reading ?_ ?_
    · rw [line]
      nofun
    · rw [waiting]
      exact fun entry inside => .inl inside
  · refine sound.queue (wire.link.start what).2.2 _ reading ?_ ?_
    · rw [line]
      intro other inside
      exact ⟨_, List.mem_singleton.mp inside⟩
    · rw [waiting, line]
      intro entry inside
      rcases List.mem_append.mp inside with old | new
      · exact .inl (List.mem_filter.mp old).1
      · rw [List.mem_singleton.mp new]
        exact .inr ⟨size, List.mem_singleton_self _⟩

theorem Sound.send (sound : wire.Sound hub history) (route : Route) (packet : Packet) :
    (wire.send route packet).Sound hub history :=
  sound.queue _ _ rfl (fun _ sent => SocketLink.message_of_sent sent) fun _ inside => .inl inside

theorem Sound.detach (sound : wire.Sound hub history) : wire.detach.Sound hub history :=
  sound.queue _ _ rfl (fun _ sent => SocketLink.message_of_sent sent) fun _ inside => .inl inside

/-! ## Reading -/

/-- A connection that is closed, or will be, stays so when the link has seen one thing more. -/
theorem Closing.read
    {endpoint : Endpoint} {outgoing : List String} {output : Output} {rest : List Output}
    (closing : Wire.Closing ⟨endpoint, outgoing, output :: rest⟩) :
    Wire.Closing ⟨(endpoint.take output).1, outgoing, rest⟩ := by
  simp only [Closing, number, link, List.mem_cons] at closing ⊢
  rcases endpoint.take_cases output with
    ⟨connection, ⟨other, same⟩ | ⟨message, rfl, same⟩ | ⟨rfl, same⟩⟩
  · rw [connection, same]
    refine closing.imp (fun closed => closed.resolve_left ?_) id
    rintro rfl
    exact other rfl
  · rw [connection, same, (endpoint.link.waiting_takeLine _).1]
    exact closing.imp (fun closed => closed.resolve_left nofun) id
  · rw [same]
    exact .inr rfl

/-- What a link has seen is no longer on its way. -/
theorem Awaits.read
    {endpoint : Endpoint} {outgoing : List String} {output : Output} {rest : List Output}
    {max : Nat} {id : UInt64} {call : Call}
    (awaits : Wire.Awaits ⟨endpoint, outgoing, output :: rest⟩ max history id call)
    (unanswered : ∀ reply : HubMessage, reply.request? = some id → reply.packet? = none →
      (Line.ofHub reply).utf8ByteSize ≤ Line.maxSize →
        output ≠ .write endpoint.connection reply) :
    Wire.Awaits ⟨(endpoint.take output).1, outgoing, rest⟩ max history id call := by
  have connection := (endpoint.take_cases output).1
  cases awaits with
  | asked size queued =>
      exact .asked size queued
  | answered reply request plain short written =>
      refine .answered reply request plain short ?_
      rw [number, connection]
      exact (List.mem_cons.mp written).resolve_left
        (unanswered reply request plain short).symm
  | missed handling past misses =>
      refine .missed handling past ?_
      rw [number, connection]
      exact misses

/-- A link that sees an answer no longer waits for it, and one that sees the end of the stream waits
for nothing. -/
theorem Sound.read (sound : wire.Sound hub history) : wire.read.Sound hub history := by
  rcases wire with ⟨endpoint, outgoing, incoming⟩
  cases incoming with
  | nil =>
      exact sound
  | cons output rest =>
      change Wire.Sound ⟨(endpoint.take output).1, outgoing, rest⟩ hub history
      refine ⟨sound.lines, ?_⟩
      rcases sound.state with closing | ⟨serves, awaited⟩
      · exact .inl closing.read
      · have goesOn : hub.Serves (endpoint.take output).1.connection :=
          (endpoint.take_cases output).1 ▸ serves
        rcases endpoint.take_cases output with
          ⟨_, ⟨other, same⟩ | ⟨message, rfl, same⟩ | ⟨rfl, same⟩⟩
        · refine .inr ⟨goesOn, fun entry inside => ?_⟩
          simp only [link, same] at inside
          refine (awaited entry inside).read fun reply _ _ _ => ?_
          rintro rfl
          exact other rfl
        · cases reading : endpoint.link.reading with
          | false =>
              exact .inl (Closing.read (.inr reading))
          | true =>
              refine .inr ⟨goesOn, fun entry inside => ?_⟩
              simp only [link, same] at inside
              have waited := (endpoint.link.waiting_takeLine _).2 entry inside
              refine (awaited entry waited).read fun reply request plain short => ?_
              rintro ⟨⟩
              exact SocketLink.notWaiting_takeLine reading request plain short entry inside rfl
        · exact .inl (.inr (congrArg SocketLink.reading same))

/-! ## What the hub does -/

/-- An answer on its way stays there, and a call that was missed stays missed. -/
theorem Awaits.post
    {max : Nat} {id : UInt64} {call : Call} (awaits : wire.Awaits max history id call)
    {rest : List String} {outputs : List Output} {more : List Handling}
    (asked : call.size id ≤ Line.maxSize → call.line id ∈ wire.outgoing →
      Wire.Awaits (.post outputs { wire with outgoing := rest }) max (history ++ more) id call) :
    Wire.Awaits (.post outputs { wire with outgoing := rest }) max (history ++ more) id call := by
  cases awaits with
  | asked size queued =>
      exact asked size queued
  | answered reply request plain short written =>
      exact .answered reply request plain short (List.mem_append_left _ written)
  | missed handling past misses =>
      exact .missed handling (List.mem_append_left _ past) misses

/-- A wire stays sound when the hub has handled a line, if every call whose line was queued has
something to come. -/
theorem Sound.post_of_asked
    (sound : wire.Sound hub history) {rest : List String} {outputs : List Output} {after : Hub}
    {more : List Handling} (goesOn : hub.GoesOn outputs after)
    (lines : ∀ line ∈ rest, line ∈ wire.outgoing)
    (asked : hub.Serves wire.number → ∀ entry : UInt64 × Call,
      entry.2.size entry.1 ≤ Line.maxSize → entry.2.line entry.1 ∈ wire.outgoing →
        Wire.Awaits (.post outputs { wire with outgoing := rest }) hub.maxMessageSize
          (history ++ more) entry.1 entry.2) :
    Wire.Sound (.post outputs { wire with outgoing := rest }) after (history ++ more) where
  lines := fun line inside => sound.lines line (lines line inside)
  state := by
    rcases sound.state with closing | ⟨serves, awaited⟩
    · exact .inl (closing.imp (List.mem_append_left _) id)
    · rcases goesOn.serves wire.number serves with closed | stays
      · refine .inl (.inl (List.mem_append_right _ (List.mem_filter.mpr ⟨closed, ?_⟩)))
        exact beq_self_eq_true _
      · refine .inr ⟨stays, fun entry inside => ?_⟩
        rw [goesOn.limit]
        exact (awaited entry inside).post (asked serves entry)

/-- What the hub does elsewhere leaves a wire sound. -/
theorem Sound.post
    (sound : wire.Sound hub history) {outputs : List Output} {after : Hub}
    (goesOn : hub.GoesOn outputs after) (more : List Handling) :
    (wire.post outputs).Sound after (history ++ more) :=
  sound.post_of_asked goesOn (fun _ => id) fun _ _ size queued => .asked size queued

/-- A call whose line the hub handles is answered or missed. -/
theorem awaits_handled
    (orderly : hub.Orderly) (serves : hub.Serves wire.number) (now : Instant) {id : UInt64}
    {call : Call} (size : call.size id ≤ Line.maxSize) (rest : List String) :
    let outputs := (hub.receive wire.number now (call.line id).toUTF8.toList).2
    Wire.Awaits (.post outputs { wire with outgoing := rest }) hub.maxMessageSize
      (history ++ [⟨wire.number, call.line id, outputs⟩]) id call := by
  intro outputs
  have newest : ⟨wire.number, call.line id, outputs⟩ ∈
      history ++ [(⟨wire.number, call.line id, outputs⟩ : Handling)] :=
    List.mem_append_right _ (List.mem_singleton_self _)
  rcases Nat.lt_or_ge hub.maxMessageSize (call.size id) with long | short
  · exact .missed _ newest ⟨rfl, rfl, .inl ⟨long, size⟩⟩
  · rcases orderly.answers serves now short with ⟨reply, answers, written⟩
    rcases Nat.lt_or_ge Line.maxSize (Line.ofHub reply).utf8ByteSize with long | readable
    · have described : ∃ session, call = .describe session := by
        cases call with
        | describe session =>
            exact ⟨session, rfl⟩
        | claim | join =>
            exact absurd (answers.short nofun) (Nat.not_le_of_lt long)
      rcases described with ⟨session, rfl⟩
      exact .missed _ newest
        ⟨rfl, rfl, .inr ⟨session, reply, rfl, written, answers.request, long⟩⟩
    · refine .answered reply answers.request answers.plain readable ?_
      refine List.mem_append_right _ (List.mem_filter.mpr ⟨written, ?_⟩)
      exact beq_self_eq_true _

/-- A wire stays sound when the hub handles its next line. -/
theorem Sound.handle
    (sound : wire.Sound hub history) (orderly : hub.Orderly) {line : String} {rest : List String}
    (outgoing : wire.outgoing = line :: rest) (now : Instant) :
    let received := hub.receive wire.number now line.toUTF8.toList
    hub.GoesOn received.2 received.1 →
      Wire.Sound (.post received.2 { wire with outgoing := rest }) received.1
        (history ++ [⟨wire.number, line, received.2⟩]) := by
  intro received goesOn
  refine sound.post_of_asked goesOn ?_ fun serves entry size queued => ?_
  · intro other inside
    rw [outgoing]
    exact List.mem_cons_of_mem _ inside
  · rw [outgoing] at queued
    rcases List.mem_cons.mp queued with here | later
    · subst here
      exact awaits_handled orderly serves now size rest
    · exact .asked size later

end Wire

end SessionBus
