import SessionBus.Proofs.Relay.System
import SessionBus.Proofs.Transport.Wire

/-!
# What a frame's end says and hears

Whatever is done with a link, at most one line comes out of it, and the farewell comes out only
once: after it the link writes nothing.  What the hub has written is heard line by line, however the
bytes are cut, and hearing changes neither the identity of a link nor whether it writes.
-/

namespace SessionBus

/-- The message with which a frame parts from the hub. -/
def FrameMessage.farewell : FrameMessage :=
  .ofRequest .disconnect

theorem FrameMessage.farewell_short : farewell.toJson.compact.utf8ByteSize ≤ Line.maxSize := by
  decide +kernel

/-- The packet that a message sends, with its route. -/
def FrameMessage.sent? (message : FrameMessage) : Option (Route × Packet) :=
  match message.request with
  | .send route packet => some (route, packet)
  | _ => none

theorem filterMap_cons_toList {α β : Type} (f : α → Option β) (first : α) (rest : List α) :
    (first :: rest).filterMap f = (f first).toList ++ rest.filterMap f := by
  rw [List.filterMap_cons]
  cases f first <;> rfl

/-! ## Speaking -/

/-- How the standing of a frame changes with the messages that it sends: nothing is sent, a link
that writes sends a request other than the farewell, or it sends the farewell and writes no more. -/
inductive FrameStage.Speaks : FrameStage → List FrameMessage → FrameStage → Prop where
  | silent (stage : FrameStage) : Speaks stage [] stage
  | quiet {link after : SocketLink} (same : after.frame = link.frame)
      (reading : after.reading = link.reading) (writing : after.writing = link.writing) :
      Speaks (.attached link) [] (.attached after)
  | request {link after : SocketLink} {request : Request} (same : after.frame = link.frame)
      (reading : after.reading = link.reading) (writes : link.writing = true)
      (writing : after.writing = true) (other : request ≠ .disconnect) :
      Speaks (.attached link) [.ofRequest request] (.attached after)
  | farewell {link after : SocketLink} (same : after.frame = link.frame)
      (reading : after.reading = link.reading) (writes : link.writing = true)
      (ended : after.writing = false) : Speaks (.attached link) [.farewell] (.attached after)

namespace FrameStage

/-- A link that is attached has not said farewell. -/
def IsOpen (stage : FrameStage) : Prop :=
  ∀ link, stage = .attached link → link.writing = true

/-- A frame that has been refused or has said farewell. -/
def IsParted (stage : FrameStage) : Prop :=
  stage ≠ .greeting ∧ ∀ link, stage = .attached link → link.writing = false

variable {stage after : FrameStage} {messages : List FrameMessage}

/-- Nothing comes after the farewell. -/
theorem IsParted.silent (parted : stage.IsParted) (speaks : stage.Speaks messages after) :
    messages = [] ∧ after.IsParted := by
  cases speaks with
  | silent =>
      exact ⟨rfl, parted⟩
  | quiet _ _ writing =>
      refine ⟨rfl, nofun, ?_⟩
      rintro other ⟨⟩
      exact writing.trans (parted.2 _ rfl)
  | request _ _ writes | farewell _ _ writes =>
      rw [parted.2 _ rfl] at writes
      cases writes

theorem Speaks.isParted (speaks : stage.Speaks [.farewell] after) : after.IsParted := by
  cases speaks with
  | request _ _ _ _ other =>
      exact absurd rfl other
  | farewell _ _ _ ended =>
      refine ⟨nofun, ?_⟩
      rintro other ⟨⟩
      exact ended

end FrameStage

namespace FrameEnd

/-- What is done at a frame's end sends some messages, as short lines, and hands nothing on; the
stream ends after the farewell only. -/
structure Utters (before : FrameEnd) (done : List FrameNotice × FrameEnd)
    (messages : List FrameMessage) : Prop where
  lines : done.1.filterMap FrameNotice.line? = messages.map Line.ofFrame
  short : ∀ message ∈ messages, message.toJson.compact.utf8ByteSize ≤ Line.maxSize
  speaks : before.stage.Speaks messages done.2.stage
  pending : done.2.pending = before.pending
  silent : done.1.filterMap FrameNotice.packet? = []
  closed : done.1.any FrameNotice.isClosed = true → messages = [.farewell]

/-- Something is done at a frame's end, and no packet is sent. -/
def Murmurs (before : FrameEnd) (done : List FrameNotice × FrameEnd) : Prop :=
  ∃ messages, messages.filterMap FrameMessage.sent? = [] ∧ before.Utters done messages

variable {frameEnd : FrameEnd} {link : SocketLink}

theorem Utters.nothing
    (frameEnd : FrameEnd) {after : FrameEnd} (stage : after.stage = frameEnd.stage)
    (pending : after.pending = frameEnd.pending) : frameEnd.Utters ([], after) [] where
  lines := rfl
  short := nofun
  speaks := stage ▸ .silent _
  pending := pending
  silent := rfl
  closed := nofun

theorem stage_of_link? (known : frameEnd.link? = some link) : frameEnd.stage = .attached link := by
  unfold link? at known
  split at known
  · rename_i stage
    cases known
    exact stage
  · cases known

theorem stage_of_heldLink? (held : frameEnd.heldLink? = some link) :
    frameEnd.stage = .attached link := by
  unfold heldLink? at held
  split at held
  · cases held
  · exact stage_of_link? held

/-- A link that gives out a line writes. -/
theorem writing_of_lineFor {request : Request} {line : String}
    (written : link.lineFor request = .ok line) : link.writing = true := by
  simp only [SocketLink.lineFor] at written
  split at written
  · cases written
  · split at written
    · assumption
    · cases written

theorem Murmurs.nothing
    (frameEnd : FrameEnd) {after : FrameEnd} (stage : after.stage = frameEnd.stage)
    (pending : after.pending = frameEnd.pending) : frameEnd.Murmurs ([], after) :=
  ⟨[], rfl, .nothing frameEnd stage pending⟩

theorem Utters.ofRequest
    (stage : frameEnd.stage = .attached link) {request : Request} (other : request ≠ .disconnect)
    {source after : SocketLink} {line : String} (written : source.lineFor request = .ok line)
    (frame : after.frame = link.frame) (reading : after.reading = link.reading)
    (writing : source.writing = link.writing ∧ after.writing = link.writing) :
    frameEnd.Utters ([.sent line], frameEnd.withLink after) [.ofRequest request] := by
  rcases SocketLink.line_of_lineFor written with ⟨rfl, short⟩
  have writes : link.writing = true := writing.1 ▸ writing_of_lineFor written
  constructor
  · rfl
  · simpa using short
  · rw [stage]
    exact .request frame reading writes (writing.2.trans writes) other
  · rfl
  · rfl
  · nofun

/-- A call fails at once, or its line is sent. -/
theorem start_outcome (link : SocketLink) (what : Call) :
    let numbered := { link with nextRequest := link.nextRequest + 1 }
    (∃ error, link.start what = (link.nextRequest, .error error, numbered)) ∨
      ∃ line waiting, numbered.lineFor (what.request link.nextRequest) = .ok line ∧
        link.start what = (link.nextRequest, .ok line, { numbered with waiting }) := by
  intro numbered
  simp only [SocketLink.start]
  split
  · cases written : numbered.lineFor (what.request link.nextRequest) with
    | error error =>
        exact .inl ⟨error, rfl⟩
    | ok line =>
        exact .inr ⟨line, _, rfl, rfl⟩
  · exact .inl ⟨_, rfl⟩

theorem murmurs_call (frameEnd : FrameEnd) (what : Call) :
    frameEnd.Murmurs (frameEnd.call what).2 := by
  unfold FrameEnd.call
  cases held : frameEnd.heldLink? with
  | none =>
      exact .nothing frameEnd rfl rfl
  | some link =>
      have stage := stage_of_heldLink? held
      rcases start_outcome link what with ⟨error, started⟩ | ⟨line, waiting, written, started⟩
      · refine ⟨[], rfl, ?_⟩
        simp only [started]
        refine ⟨rfl, nofun, ?_, rfl, rfl, nofun⟩
        rw [stage]
        exact .quiet rfl rfl rfl
      · have other : what.request link.nextRequest ≠ .disconnect := by
          cases what <;> nofun
        refine ⟨[.ofRequest (what.request link.nextRequest)], by cases what <;> rfl, ?_⟩
        simp only [started]
        exact .ofRequest stage other written rfl rfl ⟨rfl, rfl⟩

/-- A call does not make a link say farewell. -/
theorem isOpen_call (isOpen : frameEnd.stage.IsOpen) (what : Call) :
    (frameEnd.call what).2.2.stage.IsOpen ∧
      (frameEnd.call what).2.2.released = frameEnd.released := by
  unfold FrameEnd.call
  cases held : frameEnd.heldLink? with
  | none =>
      exact ⟨isOpen, rfl⟩
  | some link =>
      have writes := isOpen link (stage_of_heldLink? held)
      rcases start_outcome link what with ⟨error, started⟩ | ⟨line, waiting, _, started⟩
      all_goals
        simp only [started]
        refine ⟨?_, rfl⟩
        rintro other ⟨⟩
        exact writes

theorem withLink_of_stage (stage : frameEnd.stage = .attached link) :
    frameEnd.withLink link = frameEnd := by
  rcases frameEnd with ⟨path, other, pending, released⟩
  cases stage
  rfl

/-- A packet is dropped, or its line is sent. -/
theorem utters_send (frameEnd : FrameEnd) (route : Route) (packet : Packet) :
    frameEnd.send route packet = [] ∨
      frameEnd.Utters (frameEnd.send route packet, frameEnd) [.ofRequest (.send route packet)] := by
  unfold FrameEnd.send
  cases held : frameEnd.heldLink? with
  | none =>
      exact .inl rfl
  | some link =>
      have stage := stage_of_heldLink? held
      simp only [Option.bind_some, SocketLink.lineOfPacket?]
      cases written : link.lineFor (.send route packet) with
      | error error =>
          exact .inl rfl
      | ok line =>
          have other : Request.send route packet ≠ .disconnect := nofun
          have sent : frameEnd.Utters ([.sent line], frameEnd.withLink link)
              [.ofRequest (.send route packet)] :=
            .ofRequest stage other written rfl rfl ⟨rfl, rfl⟩
          rw [withLink_of_stage stage] at sent
          exact .inr sent

theorem murmurs_detach (frameEnd : FrameEnd) : frameEnd.Murmurs frameEnd.detach := by
  unfold FrameEnd.detach
  cases known : frameEnd.link? with
  | none =>
      exact .nothing frameEnd rfl rfl
  | some link =>
      have stage := stage_of_link? known
      by_cases writes : link.writing = true
      · have short : FrameMessage.farewell.toJson.compact.utf8ByteSize ≤ Line.maxSize := by
          decide +kernel
        have fits :
            ¬ Line.maxSize < (FrameMessage.ofRequest .disconnect).toJson.compact.utf8ByteSize :=
          Nat.not_lt.mpr short
        refine ⟨[.farewell], rfl, ?_⟩
        simp only [writes, if_true, SocketLink.detach, SocketLink.lineFor, if_neg fits]
        constructor
        · rfl
        · simpa using short
        · rw [stage]
          exact .farewell rfl rfl writes rfl
        · rfl
        · rfl
        · exact fun _ => rfl
      · simp only [writes]
        exact .nothing frameEnd rfl rfl

theorem murmurs_letGo (frameEnd : FrameEnd) : frameEnd.Murmurs frameEnd.letGo := by
  unfold FrameEnd.letGo
  split
  · exact .nothing frameEnd rfl rfl
  · split
    · exact frameEnd.murmurs_detach
    · exact .nothing frameEnd rfl rfl

theorem murmurs_release (frameEnd : FrameEnd) : frameEnd.Murmurs frameEnd.release := by
  rcases murmurs_letGo { frameEnd with released := true } with ⟨messages, plain, uttered⟩
  exact ⟨messages, plain, uttered.lines, uttered.short, uttered.speaks, uttered.pending,
    uttered.silent, uttered.closed⟩

/-- A link that is held is not let go. -/
theorem letGo_of_held (held : frameEnd.released = false) : frameEnd.letGo = ([], frameEnd) := by
  unfold letGo
  split
  · rfl
  · rw [held, Bool.false_and, if_neg Bool.false_ne_true]

/-! ## Hearing -/

/-- Hears the line of a message. -/
def hear (frameEnd : FrameEnd) (message : HubMessage) : List FrameNotice × FrameEnd :=
  frameEnd.takeLine message.bytes

def hearAll (frameEnd : FrameEnd) : List HubMessage → List FrameNotice × FrameEnd
  | [] => ([], frameEnd)
  | message :: rest =>
      let first := frameEnd.hear message
      let later := first.2.hearAll rest
      (first.1 ++ later.1, later.2)

/-- What is heard does not depend on the bytes of an unfinished line. -/
theorem takeLine_withPending (frameEnd : FrameEnd) (pending bytes : List UInt8) :
    { frameEnd with pending }.takeLine bytes =
      ((frameEnd.takeLine bytes).1, { (frameEnd.takeLine bytes).2 with pending }) := by
  rcases frameEnd with ⟨path, stage, other, released⟩
  unfold takeLine
  cases String.fromUTF8? bytes.toByteArray with
  | none =>
      cases stage <;> rfl
  | some line =>
      cases stage with
      | greeting =>
          simp only [settle]
          cases SocketLink.greet (some line) <;> rfl
      | attached link =>
          rfl
      | refused =>
          rfl

theorem hearAll_withPending (frameEnd : FrameEnd) (pending : List UInt8)
    (messages : List HubMessage) :
    { frameEnd with pending }.hearAll messages =
      ((frameEnd.hearAll messages).1, { (frameEnd.hearAll messages).2 with pending }) := by
  induction messages generalizing frameEnd with
  | nil =>
      rfl
  | cons message rest ih =>
      simp only [hearAll, hear, takeLine_withPending, ih]

/-- The first line feed tells where the first line ends. -/
theorem eq_of_split
    {front other back behind : List UInt8} (clean : LineReader.lineFeed ∉ front)
    (also : LineReader.lineFeed ∉ other)
    (same : front ++ LineReader.lineFeed :: back = other ++ LineReader.lineFeed :: behind) :
    front = other ∧ back = behind := by
  induction front generalizing other with
  | nil =>
      cases other with
      | nil =>
          exact ⟨rfl, (List.cons.inj same).2⟩
      | cons byte other =>
          exact absurd (List.cons.inj same).1 (fun here => also (here ▸ List.mem_cons_self))
  | cons byte front ih =>
      rw [List.mem_cons, not_or] at clean
      cases other with
      | nil =>
          exact absurd (List.cons.inj same).1.symm clean.1
      | cons first other =>
          rw [List.mem_cons, not_or] at also
          rcases List.cons.inj same with ⟨rfl, behindFirst⟩
          rcases ih clean.2 also.2 behindFirst with ⟨rfl, rest⟩
          exact ⟨rfl, rest⟩

/-- The reader of a frame hears the lines that end in the bytes that it takes, and keeps the
beginning of the next one. -/
theorem takeBytes_stream
    (frameEnd : FrameEnd) {told : List HubMessage} {bytes rest : List UInt8}
    (clean : LineReader.lineFeed ∉ frameEnd.pending)
    (stream : frameEnd.pending.reverse ++ (bytes ++ rest) = told.flatMap HubMessage.bytes)
    (notices : List FrameNotice) :
    ∃ heard later pending, told = heard ++ later ∧ LineReader.lineFeed ∉ pending ∧
      pending.reverse ++ rest = later.flatMap HubMessage.bytes ∧
      frameEnd.takeBytes notices bytes =
        (notices.reverse ++ (frameEnd.hearAll heard).1,
          { (frameEnd.hearAll heard).2 with pending }) := by
  induction bytes generalizing frameEnd told notices with
  | nil =>
      refine ⟨[], told, frameEnd.pending, rfl, clean, stream, ?_⟩
      rw [takeBytes, hearAll, List.append_nil]
  | cons byte bytes ih =>
      by_cases ends : byte = LineReader.lineFeed
      · subst ends
        cases told with
        | nil =>
            simp at stream
        | cons message told =>
            rcases Line.endsOnce_ofJson message.toJson with ⟨body, line, plain⟩
            have own : message.bytes = body ++ [LineReader.lineFeed] := line
            rw [List.flatMap_cons, own, List.append_assoc] at stream
            have unread : LineReader.lineFeed ∉ frameEnd.pending.reverse :=
              fun inside => clean (List.mem_reverse.mp inside)
            rcases eq_of_split unread plain stream with ⟨whole, behind⟩
            have bytesOf : (LineReader.lineFeed :: frameEnd.pending).reverse = message.bytes := by
              rw [List.reverse_cons, whole, own]
            -- The line is heard, and the next one starts with nothing.
            let next : FrameEnd := { (frameEnd.hear message).2 with pending := [] }
            have nextStream : next.pending.reverse ++ (bytes ++ rest) =
                told.flatMap HubMessage.bytes := behind
            rcases ih next List.not_mem_nil nextStream
              ((frameEnd.hear message).1.reverse ++ notices) with
              ⟨heard, later, pending, rfl, cleanAfter, streamAfter, taken⟩
            refine ⟨message :: heard, later, pending, rfl, cleanAfter, streamAfter, ?_⟩
            have first : ({ frameEnd with pending := [] } : FrameEnd).takeLine
                (LineReader.lineFeed :: frameEnd.pending).reverse =
                  ((frameEnd.hear message).1, next) := by
              rw [bytesOf, takeLine_withPending]
              rfl
            simp only [takeBytes, if_true, first, taken, next, hearAll_withPending, hearAll,
              List.reverse_append, List.reverse_reverse, List.append_assoc]
      · have unread : LineReader.lineFeed ∉ byte :: frameEnd.pending := by
          rw [List.mem_cons, not_or]
          exact ⟨Ne.symm ends, clean⟩
        let next : FrameEnd := { frameEnd with pending := byte :: frameEnd.pending }
        have nextStream : next.pending.reverse ++ (bytes ++ rest) =
            told.flatMap HubMessage.bytes := by
          simpa [next] using stream
        rcases ih next unread nextStream notices with
          ⟨heard, later, pending, rfl, cleanAfter, streamAfter, taken⟩
        refine ⟨heard, later, pending, rfl, cleanAfter, streamAfter, ?_⟩
        simp only [next] at taken
        simp only [takeBytes, if_neg ends, taken, hearAll_withPending]

end FrameEnd

end SessionBus
