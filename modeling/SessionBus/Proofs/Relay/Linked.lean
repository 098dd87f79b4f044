import SessionBus.Proofs.Relay.Course

/-!
# The connection of a link

A connection whose frame is a link keeps its course, whatever the two ends do with it: what is on
its way to the hub is what the link has said and the hub has not heard, and what is on its way back
is what the hub has written and the link has not heard.
-/

namespace SessionBus.Strand

/-- What the hub will have found when it has read all that is on its way, and how its reader stands
then. -/
def coming (strand : Strand) : List Incoming × LineReader :=
  let read := strand.reader.feed
    (strand.up ++ strand.outgoing.flatMap fun line => line.toUTF8.toList)
  (strand.found ++ read.1, read.2)

/-- The connection of a link, with the messages on their way to the hub and on their way back. -/
structure Linked (strand : Strand) (max : Nat) (ahead : List FrameMessage)
    (told : List HubMessage) : Prop where
  coming :
    strand.coming = (ahead.map fun message => LineReader.seen max message.toJson, .start max)
  going : strand.frameEnd.pending.reverse ++ strand.down = told.flatMap HubMessage.bytes
  clean : LineReader.lineFeed ∉ strand.frameEnd.pending
  parts : strand.parting = true → strand.frameEnd.stage.IsParted
  ends : strand.upEnded = true → strand.parting = true ∧ strand.outgoing = []
  progress :
    Progress strand.identity strand.frameEnd.stage strand.stage strand.task ahead told

variable {strand : Strand} {max : Nat} {ahead : List FrameMessage} {told : List HubMessage}

/-! ## Bytes on their way to the hub -/

/-- A reader finds the messages of a link one by one. -/
theorem feed_messages (max : Nat) (messages : List FrameMessage) :
    (LineReader.start max).feed
        ((messages.map Line.ofFrame).flatMap fun line => line.toUTF8.toList) =
      (messages.map fun message => LineReader.seen max message.toJson, .start max) := by
  induction messages with
  | nil =>
      rfl
  | cons message rest ih =>
      have first : (LineReader.start max).feed (Line.ofFrame message).toUTF8.toList =
          ([LineReader.seen max message.toJson], .start max) :=
        LineReader.feed_line _ max
      rw [List.map_cons, List.flatMap_cons, LineReader.feed_append, first, ih]
      rfl

/-- Lines that are queued come last. -/
theorem coming_queue
    (coming : strand.coming.2 = .start max) (messages : List FrameMessage) :
    { strand with outgoing := strand.outgoing ++ messages.map Line.ofFrame }.coming =
      (strand.coming.1 ++ messages.map fun message => LineReader.seen max message.toJson,
        .start max) := by
  simp only [Strand.coming] at coming ⊢
  rw [List.flatMap_append, ← List.append_assoc, LineReader.feed_append, coming, feed_messages,
    List.append_assoc]

theorem coming_write (strand : Strand) : strand.write.coming = strand.coming := by
  unfold write
  cases outgoing : strand.outgoing with
  | nil =>
      simp only [Strand.coming, outgoing]
  | cons line rest =>
      simp only [Strand.coming, outgoing, List.flatMap_cons, List.append_assoc]

theorem coming_read (strand : Strand) (count : Nat) :
    (strand.read count).coming = strand.coming := by
  have pieces : strand.up ++ strand.outgoing.flatMap (fun line => line.toUTF8.toList) =
      strand.up.take count ++
        (strand.up.drop count ++ strand.outgoing.flatMap fun line => line.toUTF8.toList) := by
    rw [← List.append_assoc, List.take_append_drop]
  simp only [Strand.coming, read, pieces, LineReader.feed_append strand.reader, List.append_assoc]

theorem follow_append
    (strand : Strand) (first later : List FrameNotice) (between after : FrameEnd) :
    strand.follow (first ++ later, after) =
      (strand.follow (first, between)).follow (later, after) := by
  simp only [follow, List.filterMap_append, List.append_assoc, List.any_append, Bool.or_assoc]

/-! ## The frame's side -/

namespace Linked

variable (linked : strand.Linked max ahead told)

include linked

theorem write : strand.write.Linked max ahead told := by
  have coming := (coming_write strand).trans linked.coming
  unfold Strand.write at coming ⊢
  cases outgoing : strand.outgoing with
  | nil =>
      rw [outgoing] at coming
      refine ⟨coming, linked.going, linked.clean, linked.parts, ?_, linked.progress⟩
      intro ended
      rw [Bool.or_eq_true] at ended
      exact ⟨ended.elim (fun before => (linked.ends before).1) id, rfl⟩
  | cons line rest =>
      rw [outgoing] at coming
      refine ⟨coming, linked.going, linked.clean, linked.parts, ?_, linked.progress⟩
      intro ended
      rw [(linked.ends ended).2] at outgoing
      cases outgoing

theorem read (count : Nat) : (strand.read count).Linked max ahead told :=
  ⟨(coming_read strand count).trans linked.coming, linked.going, linked.clean, linked.parts,
    linked.ends, linked.progress⟩

/-- What is done at the frame's end sends its messages after all others. -/
theorem utter
    {done : List FrameNotice × FrameEnd} {messages : List FrameMessage}
    (uttered : strand.frameEnd.Utters done messages) :
    (strand.follow done).Linked max (ahead ++ messages) told where
  coming := by
    have queued := coming_queue (congrArg Prod.snd linked.coming) messages
    rw [congrArg Prod.fst linked.coming, ← List.map_append, ← uttered.lines] at queued
    exact queued
  going := by
    rw [follow, uttered.pending]
    exact linked.going
  clean := by
    rw [follow, uttered.pending]
    exact linked.clean
  parts := by
    intro parting
    rcases (Bool.or_eq_true _ _).mp parting with before | closed
    · exact ((linked.parts before).silent uttered.speaks).2
    · have speaks := uttered.speaks
      rw [uttered.closed closed] at speaks
      exact speaks.isParted
  ends := by
    intro ended
    rcases linked.ends ended with ⟨parting, empty⟩
    have silent := ((linked.parts parting).silent uttered.speaks).1
    refine ⟨?_, ?_⟩
    · rw [follow, parting, Bool.true_or]
    · rw [follow, empty, uttered.lines, silent]
      rfl
  progress := linked.progress.speak uttered.speaks

/-- What the frame hears brings the connection on, and keeps the beginning of the next line. -/
theorem listen
    {later : List HubMessage} {notices : List FrameNotice} {after : FrameEnd}
    {packets : List Packet} (heard : strand.frameEnd.Heard (notices, after) packets)
    (progress : Progress strand.identity after.stage strand.stage strand.task ahead later)
    {rest : List UInt8} (clean : LineReader.lineFeed ∉ after.pending)
    (going : after.pending.reverse ++ rest = later.flatMap HubMessage.bytes) :
    ({ strand with down := rest }.follow (notices, after)).Linked max ahead later := by
  refine ⟨?_, going, clean, ?_, ?_, progress⟩
  · have same := linked.coming
    simp only [Strand.coming, follow, heard.lines, List.append_nil] at same ⊢
    exact same
  · intro parting
    rcases (Bool.or_eq_true _ _).mp parting with old | closed
    · exact heard.parted (linked.parts old)
    · exact heard.closed closed
  · intro ended
    rcases linked.ends ended with ⟨parting, empty⟩
    simp only [follow, heard.lines, List.append_nil, parting, Bool.true_or]
    exact ⟨trivial, empty⟩

/-- What the frame hears, and the farewell of a link that is let go then. -/
theorem listen_letGo
    {later : List HubMessage} {notices : List FrameNotice} {after : FrameEnd}
    {packets : List Packet} (heard : strand.frameEnd.Heard (notices, after) packets)
    (progress : Progress strand.identity after.stage strand.stage strand.task ahead later)
    {rest : List UInt8} (clean : LineReader.lineFeed ∉ after.pending)
    (going : after.pending.reverse ++ rest = later.flatMap HubMessage.bytes) :
    let next := { strand with down := rest }.follow (notices ++ after.letGo.1, after.letGo.2)
    ∃ messages, next.Linked max (ahead ++ messages) later ∧
      messages.filterMap FrameMessage.sent? = [] ∧
      (strand.frameEnd.stage.IsOpen → next.handed = strand.handed ++ packets ∧
        (strand.frameEnd.released = false →
          next.frameEnd.stage.IsOpen ∧ next.frameEnd.released = false)) := by
  intro next
  rcases after.murmurs_letGo with ⟨messages, plain, uttered⟩
  have listened := linked.listen heard progress clean going
  refine ⟨messages, ?_, plain, ?_⟩
  · have both := listened.utter uttered
    rw [← follow_append] at both
    exact both
  · intro isOpen
    rcases heard.isOpen isOpen with ⟨stays, some⟩
    constructor
    · simp only [next, follow, List.filterMap_append, uttered.silent, List.append_nil]
      rw [← some]
    · intro held
      have released : after.released = false := heard.released.trans held
      simp only [next, follow, FrameEnd.letGo_of_held released]
      exact ⟨stays, released⟩

/-- The frame's reader takes some bytes: some messages are heard, and the link may say farewell. -/
theorem take (count : Nat) :
    ∃ heard later messages, told = heard ++ later ∧
      (strand.take count).Linked max (ahead ++ messages) later ∧
      messages.filterMap FrameMessage.sent? = [] ∧
      (strand.frameEnd.stage.IsOpen →
        (strand.take count).handed = strand.handed ++ heard.filterMap HubMessage.relayed? ∧
          (strand.frameEnd.released = false →
            (strand.take count).frameEnd.stage.IsOpen ∧
              (strand.take count).frameEnd.released = false)) := by
  -- The bytes may be cut anywhere, so the beginning of a line may be pending already.
  have stream : strand.frameEnd.pending.reverse ++
      (strand.down.take count ++ strand.down.drop count) = told.flatMap HubMessage.bytes := by
    rw [List.take_append_drop]
    exact linked.going
  rcases strand.frameEnd.takeBytes_stream linked.clean stream [] with
    ⟨heard, later, pending, split, clean, going, taken⟩
  have before := linked.progress
  rw [split] at before
  rcases before.hearAll with ⟨progress, hears⟩
  have kept : strand.frameEnd.Heard ((strand.frameEnd.hearAll heard).1,
      { (strand.frameEnd.hearAll heard).2 with pending }) (heard.filterMap HubMessage.relayed?) :=
    ⟨hears.lines, hears.closed, hears.parted, hears.isOpen, hears.released⟩
  rcases linked.listen_letGo kept progress clean going with ⟨messages, next, plain, some⟩
  refine ⟨heard, later, messages, split, ?_, plain, ?_⟩
  · rw [Strand.take, FrameEnd.feed, taken]
    exact next
  · rw [Strand.take, FrameEnd.feed, taken]
    exact some

/-- When there are no more bytes, the frame has heard all that it was told. -/
theorem read_all (empty : strand.down = []) : strand.frameEnd.pending = [] ∧ told = [] := by
  have going := linked.going
  rw [empty, List.append_nil] at going
  cases told with
  | nil =>
      exact ⟨List.reverse_eq_nil_iff.mp going, rfl⟩
  | cons message rest =>
      rcases Line.endsOnce_ofJson message.toJson with ⟨body, line, _⟩
      have ends : LineReader.lineFeed ∈ strand.frameEnd.pending.reverse := by
        rw [going, List.flatMap_cons, HubMessage.bytes, Line.ofHub, line]
        simp
      exact absurd (List.mem_reverse.mp ends) linked.clean

/-- The frame's reader takes the end of the stream. -/
theorem close :
    ∃ messages, strand.close.Linked max (ahead ++ messages) told ∧
      messages.filterMap FrameMessage.sent? = [] ∧
      (strand.frameEnd.stage.IsOpen → strand.close.handed = strand.handed ∧
        (strand.frameEnd.released = false →
          strand.close.frameEnd.stage.IsOpen ∧ strand.close.frameEnd.released = false)) := by
  unfold Strand.close
  split
  · rename_i closed
    rcases linked.read_all closed.2 with ⟨nothing, silent⟩
    have before := linked.progress
    rw [closed.1] at before
    rcases before.endOfStream with ⟨progress, hears⟩
    rw [← closed.1] at progress
    -- Every line has been taken whole, so nothing but the end of the stream is left to hear.
    have finished : strand.frameEnd.finish =
        (strand.frameEnd.endOfStream.1 ++ strand.frameEnd.endOfStream.2.letGo.1,
          strand.frameEnd.endOfStream.2.letGo.2) := by
      simp only [FrameEnd.finish, nothing, List.isEmpty_nil, if_true, List.nil_append]
    have pending : strand.frameEnd.endOfStream.2.pending = [] := by
      rw [← nothing]
      unfold FrameEnd.endOfStream
      cases strand.frameEnd.stage <;> rfl
    have same : { strand with down := [] } = strand := by
      rw [← closed.2]
    rw [finished]
    revert progress hears pending
    generalize strand.frameEnd.endOfStream = ended
    rcases ended with ⟨notices, after⟩
    intro progress hears pending
    have clean : LineReader.lineFeed ∉ after.pending := by
      rw [pending]
      exact List.not_mem_nil
    have going : after.pending.reverse ++ [] = told.flatMap HubMessage.bytes := by
      rw [pending, silent]
      rfl
    have stopped := linked.listen_letGo hears progress clean going
    rw [same, List.append_nil] at stopped
    exact stopped
  · refine ⟨[], ?_, rfl, fun isOpen => ⟨rfl, fun held => ⟨isOpen, held⟩⟩⟩
    rw [List.append_nil]
    exact linked

/-! ## The hub's side -/

theorem going_tell (messages : List HubMessage) :
    strand.frameEnd.pending.reverse ++ (strand.down ++ messages.flatMap HubMessage.bytes) =
      (told ++ messages).flatMap HubMessage.bytes := by
  rw [← List.append_assoc, linked.going, List.flatMap_append]

theorem tell {frame : FrameId} (serving : strand.stage = .serving frame)
    (messages : List HubMessage) : (strand.tell messages).Linked max ahead (told ++ messages) :=
  ⟨linked.coming, linked.going_tell messages, linked.clean, linked.parts, linked.ends,
    linked.progress.tell serving messages⟩

/-- The task that has waited writes its answer. -/
theorem resume {messages : List HubMessage} {stage : Stage}
    (answered : strand.task = .answered messages stage) :
    ({ strand.tell messages with task := .free, stage } : Strand).Linked max ahead
      (told ++ messages) := by
  have progress := linked.progress
  rw [answered] at progress
  exact ⟨linked.coming, linked.going_tell messages, linked.clean, linked.parts, linked.ends,
    progress.resume⟩

/-- The task that waits gets its answer. -/
theorem await {commission : Commission} (waits : strand.task = .waiting)
    (same : strand.stage = commission.stage) (awaited : commission.isAwaited max = true)
    (exchange : Exchange) (now : Instant) :
    (strand.await (commission.answer exchange max now)).Linked max ahead told := by
  have progress := linked.progress
  rw [waits] at progress
  exact ⟨linked.coming, linked.going, linked.clean, linked.parts, linked.ends,
    progress.await same.symm awaited exchange now⟩

/-- What the hub has found first is what the link has said first. -/
theorem next {incoming : Incoming} {rest : List Incoming}
    (found : strand.found = incoming :: rest) :
    ∃ message later, ahead = message :: later ∧
      incoming = LineReader.seen max message.toJson ∧
        ({ strand with found := rest } : Strand).coming =
          (later.map fun message => LineReader.seen max message.toJson, .start max) := by
  have coming := linked.coming
  simp only [Strand.coming, found, List.cons_append, Prod.mk.injEq] at coming ⊢
  rcases coming with ⟨same, reader⟩
  cases ahead with
  | nil =>
      cases same
  | cons message later =>
      rcases List.cons.inj same with ⟨here, others⟩
      exact ⟨message, later, rfl, here, others, reader⟩

/-- The hub hears what the link has said first. -/
theorem hear
    (large : Line.maxSize ≤ max) (free : strand.task = .free) {incoming : Incoming}
    {rest : List Incoming} (found : strand.found = incoming :: rest) (number : Nat)
    (exchange : Exchange) (now : Instant) :
    let commission : Commission := ⟨number, strand.stage, some incoming⟩
    let answer := commission.answer exchange max now
    ∃ message later, ahead = message :: later ∧
      incoming = LineReader.seen max message.toJson ∧
        (strand.hear rest (commission.isAwaited max) answer).Linked max later
          (told ++ if commission.isAwaited max then [] else answer.messages) := by
  intro commission answer
  rcases linked.next found with ⟨message, later, rfl, rfl, coming⟩
  have progress := linked.progress
  rw [free] at progress
  rcases progress.heard large number exchange now with ⟨waits, goes⟩
  refine ⟨message, later, rfl, rfl, ?_⟩
  cases awaited : commission.isAwaited max with
  | true =>
      rw [if_pos rfl, List.append_nil]
      exact ⟨coming, linked.going, linked.clean, linked.parts, linked.ends, waits awaited⟩
  | false =>
      have next := goes awaited
      rw [← free] at next
      exact ⟨coming, linked.going_tell answer.messages, linked.clean, linked.parts, linked.ends,
        next⟩

/-- When nothing is left on the way to the hub, it has heard all that the link has said. -/
theorem said_all
    (found : strand.found = []) (up : strand.up = []) (outgoing : strand.outgoing = []) :
    ahead = [] ∧ strand.reader = .start max := by
  have coming := linked.coming
  simp only [Strand.coming, found, up, outgoing, List.flatMap_nil, List.append_nil,
    List.nil_append, Prod.mk.injEq] at coming
  exact ⟨List.map_eq_nil_iff.mp coming.1.symm, coming.2⟩

/-- When the hub has read the end of the stream, the connection has ended with the farewell. -/
theorem finish
    (free : strand.task = .free) (found : strand.found = []) (up : strand.up = [])
    (ended : strand.upEnded = true) : strand.reader.finish = none ∧ strand.stage = .ended := by
  rcases linked.ends ended with ⟨parting, outgoing⟩
  rcases linked.said_all found up outgoing with ⟨silent, stands⟩
  have progress := linked.progress
  rw [free, silent] at progress
  refine ⟨?_, progress.ended_of_parted (linked.parts parting)⟩
  rw [stands]
  rfl

/-- The identity of an attached link is the one that was given out on its connection. -/
theorem identity_of_frame? {frame : FrameId} (own : strand.frame? = some frame) :
    strand.identity = some frame := by
  rcases Option.map_eq_some_iff.mp own with ⟨link, known, same⟩
  have progress := linked.progress
  rw [FrameEnd.stage_of_link? known] at progress
  exact progress.of_attached.1.trans (congrArg some same)

end Linked

/-- A connection that is opened. -/
theorem linked_start (max : Nat) (path : String) (displayName : Option String) :
    (start max path displayName).Linked max [.ofRequest (.connect displayName)] [] where
  coming := feed_messages max [.ofRequest (.connect displayName)]
  going := rfl
  clean := List.not_mem_nil
  parts := nofun
  ends := nofun
  progress := .opening Hub.handshakeTimeout displayName rfl rfl rfl rfl rfl rfl

/-! ## What is done at the frame's end -/

/-- The link that the user holds has not said farewell. -/
def IsHeld (strand : Strand) : Prop :=
  strand.frameEnd.stage.IsOpen ∧ strand.frameEnd.released = false

/-- What is done at the frame's end brings a connection on: the link has said some messages more,
and has heard some of those that were on their way. -/
structure Goes (strand after : Strand) (max : Nat) (ahead said : List FrameMessage)
    (heard later : List HubMessage) : Prop where
  linked : after.Linked max (ahead ++ said) later
  identity : after.identity = strand.identity
  accepted : after.accepted = strand.accepted ++ said.filterMap FrameMessage.sent?
  handed :
    strand.frameEnd.stage.IsOpen →
      after.handed = strand.handed ++ heard.filterMap HubMessage.relayed?

/-- The connection goes on, and no packet is sent. -/
def GoesOn (strand after : Strand) (max : Nat) (ahead : List FrameMessage)
    (told : List HubMessage) : Prop :=
  ∃ said heard later, told = heard ++ later ∧ said.filterMap FrameMessage.sent? = [] ∧
    strand.Goes after max ahead said heard later

namespace Linked

variable (linked : strand.Linked max ahead told)

include linked

theorem goesOn_follow
    {done : List FrameNotice × FrameEnd} (murmured : strand.frameEnd.Murmurs done) :
    strand.GoesOn (strand.follow done) max ahead told := by
  rcases murmured with ⟨said, plain, uttered⟩
  refine ⟨said, [], told, rfl, plain, linked.utter uttered, rfl, ?_, ?_⟩
  · rw [plain, List.append_nil]
    rfl
  · intro _
    simp only [follow, uttered.silent, List.filterMap_nil]

theorem goesOn_call (what : Call) : strand.GoesOn (strand.call what) max ahead told :=
  linked.goesOn_follow (strand.frameEnd.murmurs_call what)

theorem goesOn_detach : strand.GoesOn strand.detach max ahead told :=
  linked.goesOn_follow strand.frameEnd.murmurs_detach

theorem goesOn_release : strand.GoesOn strand.release max ahead told :=
  linked.goesOn_follow strand.frameEnd.murmurs_release

theorem goesOn_write : strand.GoesOn strand.write max ahead told := by
  refine ⟨[], [], told, rfl, rfl, ?_, ?_, ?_, fun _ => ?_⟩
  · rw [List.append_nil]
    exact linked.write
  all_goals
    unfold Strand.write
    split <;> simp

theorem goesOn_read (count : Nat) : strand.GoesOn (strand.read count) max ahead told := by
  refine ⟨[], [], told, rfl, rfl, ?_, rfl, (List.append_nil _).symm, fun _ =>
    (List.append_nil _).symm⟩
  rw [List.append_nil]
  exact linked.read count

theorem goesOn_take (count : Nat) :
    strand.GoesOn (strand.take count) max ahead told ∧
      (strand.IsHeld → (strand.take count).IsHeld) := by
  rcases linked.take count with ⟨heard, later, said, split, next, plain, some⟩
  refine ⟨⟨said, heard, later, split, plain, next, rfl, ?_, fun isOpen => (some isOpen).1⟩, ?_⟩
  · rw [plain, List.append_nil]
    rfl
  · exact fun held => (some held.1).2 held.2

theorem goesOn_close :
    strand.GoesOn strand.close max ahead told ∧ (strand.IsHeld → strand.close.IsHeld) := by
  rcases linked.close with ⟨said, next, plain, some⟩
  refine ⟨⟨said, [], told, rfl, plain, next, ?_, ?_, fun isOpen => ?_⟩, ?_⟩
  · unfold Strand.close
    split <;> rfl
  · rw [plain, List.append_nil]
    unfold Strand.close
    split <;> rfl
  · rw [(some isOpen).1]
    exact (List.append_nil _).symm
  · exact fun held => (some held.1).2 held.2

/-- A packet that is sent is dropped, or it is said after all else. -/
theorem goes_send (route : Route) (packet : Packet) :
    strand.GoesOn (strand.send route packet) max ahead told ∧
        (strand.send route packet).accepted = strand.accepted ∨
      strand.Goes (strand.send route packet) max ahead [.ofRequest (.send route packet)] [] told ∧
        (FrameMessage.ofRequest (.send route packet)).toJson.compact.utf8ByteSize ≤
          Line.maxSize := by
  rcases strand.frameEnd.utters_send route packet with dropped | uttered
  · left
    have same : strand.send route packet = strand.follow ([], strand.frameEnd) := by
      simp only [Strand.send, dropped, follow, List.isEmpty_nil, if_true, List.append_nil]
    rw [same]
    exact ⟨linked.goesOn_follow (.nothing strand.frameEnd rfl rfl), rfl⟩
  · right
    have nonempty : (strand.frameEnd.send route packet).isEmpty = false := by
      have lines := uttered.lines
      cases notices : strand.frameEnd.send route packet with
      | nil =>
          rw [notices] at lines
          cases lines
      | cons =>
          rfl
    refine ⟨⟨?_, rfl, ?_, fun _ => ?_⟩, uttered.short _ List.mem_cons_self⟩
    · have next := linked.utter uttered
      exact ⟨next.coming, next.going, next.clean, next.parts, next.ends, next.progress⟩
    · simp only [Strand.send, nonempty, Bool.false_eq_true, if_false]
      rfl
    · simp only [Strand.send, follow, uttered.silent, List.filterMap_nil]

end Linked

/-! ### Links that are held -/

theorem IsHeld.call (held : strand.IsHeld) (what : Call) : (strand.call what).IsHeld := by
  rcases FrameEnd.isOpen_call held.1 what with ⟨isOpen, released⟩
  exact ⟨isOpen, released.trans held.2⟩

theorem IsHeld.send (held : strand.IsHeld) (route : Route) (packet : Packet) :
    (strand.send route packet).IsHeld :=
  held

end SessionBus.Strand
