import SessionBus.Proofs.Message.Size
import SessionBus.Proofs.Transport.Link

/-!
# Sizes of packets on their way

The size of a packet is looked at three times: its sender leaves the line feed out, the hub looks at
what stands in front of the line feed, and the receiver takes the line feed in, after the hub has
put the packet into another envelope and the identity of the connection into its place as the
sender.  The envelope in which a packet is sent is so much larger than the one in which it is handed
over that the identity and the line feed have room there.

So a packet that its sender lets go is taken by the hub and read by its receivers, and a packet that
its sender holds back would have been refused.
-/

namespace SessionBus

namespace Line

open Json

/-- Digits are single bytes. -/
theorem byteSize_toDigits (n : Nat) :
    byteSize (Nat.toDigits 10 n) = (Nat.toDigits 10 n).length := by
  have single : ∀ chars : List Char, (∀ c ∈ chars, c.isDigit = true) →
      byteSize chars = chars.length := by
    intro chars digits
    induction chars with
    | nil =>
        rfl
    | cons c rest ih =>
        rw [List.forall_mem_cons] at digits
        have digit := digits.1
        simp only [Char.isDigit, Bool.and_eq_true, decide_eq_true_eq] at digit
        have one : c.utf8Size = 1 :=
          Char.utf8Size_eq_one_iff.mpr (UInt32.le_trans digit.2 (by decide))
        rw [byteSize_cons, one, ih digits.2, List.length_cons, Nat.add_comm]
  exact single _ fun c inside => Nat.isDigit_of_mem_toDigits (by decide) (by decide) inside

/-- An identity takes twenty bytes at most. -/
theorem byteSize_frame_le (frame : FrameId) : byteSize frame.toJson.written ≤ 20 := by
  have digits : frame.toJson.written = Nat.toDigits 10 frame.value.toNat := rfl
  rw [digits, byteSize_toDigits]
  exact length_toDigits_le frame.value.toNat_lt

/-- Another sender changes nothing but its own place in a packet. -/
theorem byteSize_withSender (packet : Packet) (frame : FrameId) :
    byteSize ({ packet with sender := frame } : Packet).toJson.written +
        byteSize packet.sender.toJson.written =
      byteSize packet.toJson.written + byteSize frame.toJson.written := by
  simp only [Packet.toJson, List.cons_append, List.nil_append, written, writtenMembers,
    byteSize_append, byteSize_cons]
  omega

/-- Under any identity the line that hands a packet over is no longer than the document in which it
was sent. -/
theorem short_deliver_from
    {route : Route} {packet : Packet}
    (short : (FrameMessage.ofRequest (.send route packet)).toJson.compact.utf8ByteSize ≤ maxSize)
    (frame : FrameId) :
    (ofHub (.deliver { packet with sender := frame })).utf8ByteSize ≤ maxSize := by
  have sender := byteSize_withSender packet frame
  have identity := byteSize_frame_le frame
  exact short_deliver_of_le (by omega) short

end Line

/-! ## The three checks -/

namespace FrameMessage

/-- A hub for lines of the greatest size reads the message from the bytes of its line. -/
def IsHeard (message : FrameMessage) : Prop :=
  ∃ text,
    ((LineReader.start Line.maxSize).feed (Line.ofFrame message).toUTF8.toList).1 =
        [.line text] ∧
      Line.parseFrame text Line.maxSize = .ok message

theorem isPortable_send
    {packet : Packet} (portable : packet.data.document.IsPortable dataLevels) (route : Route) :
    (ofRequest (.send route packet)).IsPortable := by
  rintro other ⟨⟩
  exact portable

theorem feed_ofFrame (message : FrameMessage) (max : Nat) :
    ((LineReader.start max).feed (Line.ofFrame message).toUTF8.toList).1 =
      [LineReader.seen max message.toJson] := by
  rw [Line.ofFrame, toJson, LineReader.feed_line]

/-- The hub hears a message unless its document is too large. -/
theorem isHeard_iff {message : FrameMessage} (portable : message.IsPortable) :
    message.IsHeard ↔ message.toJson.compact.utf8ByteSize ≤ Line.maxSize := by
  unfold IsHeard
  rw [feed_ofFrame, LineReader.seen]
  constructor
  · rintro ⟨text, found, _⟩
    split at found
    · assumption
    · cases found
  · intro short
    rw [if_pos short]
    exact ⟨_, rfl, Connection.parseFrame_compact portable short⟩

/-- A message that the hub does not hear is reported as too long. -/
theorem feed_of_not_isHeard
    {message : FrameMessage} (portable : message.IsPortable) (unheard : ¬ message.IsHeard) :
    ((LineReader.start Line.maxSize).feed (Line.ofFrame message).toUTF8.toList).1 =
      [.tooLong] := by
  rw [isHeard_iff portable] at unheard
  rw [feed_ofFrame, LineReader.seen, if_neg unheard]

end FrameMessage

namespace SocketLink

/-- A link that refuses a request for its size. -/
def FindsTooLarge (link : SocketLink) (request : Request) : Prop :=
  ∃ size, link.lineFor request = .error (.protocol (.tooLarge size))

theorem findsTooLarge_iff (link : SocketLink) (request : Request) :
    link.FindsTooLarge request ↔
      Line.maxSize < (FrameMessage.ofRequest request).toJson.compact.utf8ByteSize := by
  unfold FindsTooLarge lineFor
  simp only
  split
  · rename_i long
    exact ⟨fun _ => long, fun _ => ⟨_, rfl⟩⟩
  · rename_i fits
    refine ⟨fun ⟨size, refused⟩ => ?_, fun long => absurd long fits⟩
    split at refused <;> cases refused

/-- A link that writes sends the packets whose documents are not too large. -/
theorem lineOfPacket?_eq
    {link : SocketLink} (writing : link.writing = true) (route : Route) (packet : Packet) :
    link.lineOfPacket? route packet =
      if (FrameMessage.ofRequest (.send route packet)).toJson.compact.utf8ByteSize ≤ Line.maxSize
      then some (Line.ofFrame (.ofRequest (.send route packet)))
      else none := by
  unfold lineOfPacket? lineFor
  simp only [writing, if_true]
  split
  · rename_i long
    rw [if_neg (Nat.not_le_of_lt long)]
    rfl
  · rename_i fits
    rw [if_pos (Nat.not_lt.mp fits)]
    rfl

/--
The checks of the size of a packet agree, for packets with integers only, in at most 125 arrays and
objects.  A link finds the line of a packet too large just if a hub for lines of the greatest size
would not hear it, and then the hub would report a line that is too long.  What a writing link sends
is heard by the hub, which hands the packet to the switchboard under the identity of the connection;
and whatever that identity is, the line in which the packet is handed over is short enough and is
read as that packet.
-/
theorem size_checks_agree
    {packet : Packet} (portable : packet.data.document.IsPortable dataLevels) (route : Route)
    (link : SocketLink) (frame : FrameId) :
    let message := FrameMessage.ofRequest (.send route packet)
    let delivered : Packet := { packet with sender := frame }
    (¬ link.FindsTooLarge (.send route packet) ↔ message.IsHeard) ∧
      (link.writing = true →
        (link.lineOfPacket? route packet = some (Line.ofFrame message) ↔ message.IsHeard) ∧
        (link.lineOfPacket? route packet = none ↔ ¬ message.IsHeard)) ∧
      (¬ message.IsHeard →
        ((LineReader.start Line.maxSize).feed (Line.ofFrame message).toUTF8.toList).1 =
          [.tooLong]) ∧
      (message.IsHeard →
        (∀ exchange now, ∀ incoming ∈
            ((LineReader.start Line.maxSize).feed (Line.ofFrame message).toUTF8.toList).1,
          Connection.handle exchange Line.maxSize now (.serving frame) incoming =
            Connection.goOn (exchange.deliver route delivered) frame []) ∧
        (Line.ofHub (.deliver delivered)).utf8ByteSize ≤ Line.maxSize ∧
        Line.parseHub (Line.ofHub (.deliver delivered)) = .ok (.deliver delivered)) := by
  intro message delivered
  have carried : message.IsPortable := FrameMessage.isPortable_send portable route
  have heard := FrameMessage.isHeard_iff carried
  have unlimited : ¬ link.FindsTooLarge (.send route packet) ↔ message.IsHeard := by
    rw [link.findsTooLarge_iff, heard, Nat.not_lt]
  refine ⟨unlimited, fun writing => ?_, FrameMessage.feed_of_not_isHeard carried, fun hears => ?_⟩
  · rw [lineOfPacket?_eq writing, heard]
    by_cases short : message.toJson.compact.utf8ByteSize ≤ Line.maxSize <;> simp [message, short]
  · have short := heard.mp hears
    have fits := Line.short_deliver_from short frame
    refine ⟨fun exchange now incoming found => ?_, fits, ?_⟩
    · rw [FrameMessage.feed_ofFrame, LineReader.seen, if_pos short, List.mem_singleton] at found
      rw [found, Connection.handle_serving carried short]
      rfl
    · apply parseHub_ofHub _ fits
      rintro other ⟨⟩
      exact portable

/-- A packet without data, with a long topic. -/
def wordy (length : Nat) : Packet where
  topic := String.ofList (List.replicate length 'x')
  data := Json.toValue .null
  sender := ⟨0⟩
  session := none
  destination := none

theorem isPortable_wordy (length : Nat) :
    (wordy length).data.document.IsPortable dataLevels := by
  have nothing : (wordy length).data.document = .null := rfl
  rw [nothing]
  exact ⟨by decide, by decide⟩

theorem size_wordy (length : Nat) :
    (FrameMessage.ofRequest (.send .broadcast (wordy length))).toJson.compact.utf8ByteSize =
      length + 139 := by
  have plain : Line.byteSize ((List.replicate length 'x').flatMap Json.escapedChar) = length := by
    induction length with
    | zero =>
        rfl
    | succ length ih =>
        rw [List.replicate_succ, List.flatMap_cons, Line.byteSize_append, ih]
        exact Nat.add_comm 1 length
  have marks : '\x7b'.utf8Size = 1 ∧ '\x7d'.utf8Size = 1 ∧ '"'.utf8Size = 1 ∧ ':'.utf8Size = 1 ∧
      ','.utf8Size = 1 ∧ Line.byteSize [] = 0 ∧ Line.byteSize ['"'] = 1 := by decide
  have topic : Line.byteSize (Json.quotedText (String.ofList (List.replicate length 'x'))) =
      length + 2 := by
    rw [Json.quotedText, String.toList_ofList, Line.byteSize_cons, Line.byteSize_append, plain]
    omega
  have names : Line.byteSize (Json.quotedText FrameMessage.versionName) +
      Line.byteSize (Json.quotedText "type") + Line.byteSize (Json.quotedText "send") +
      Line.byteSize (Json.quotedText "route") + Line.byteSize (Json.quotedText "kind") +
      Line.byteSize (Json.quotedText "broadcast") + Line.byteSize (Json.quotedText "packet") +
      Line.byteSize (Json.quotedText "topic") + Line.byteSize (Json.quotedText "data") +
      Line.byteSize (Json.quotedText "sender_frame_id") = 92 := by decide
  have values : Line.byteSize Version.current.toJson.written +
      Line.byteSize Json.null.toValue.document.written +
      Line.byteSize (FrameId.mk 0).toJson.written = 26 := by decide
  rw [Line.utf8ByteSize_compact]
  simp only [FrameMessage.ofRequest, FrameMessage.toJson, Request.members, Packet.toJson,
    Route.toJson, optionalMember, wordy, Json.written, Json.writtenMembers,
    Line.byteSize_append, Line.byteSize_cons, List.append_nil, if_true, Bool.false_eq_true,
    if_false, topic, marks]
  omega

/-- The largest packet that is sent arrives under the largest identity. -/
theorem largest_arrives :
    (wordy (Line.maxSize - 139)).data.document.IsPortable dataLevels ∧
      (attached ⟨0⟩).lineOfPacket? .broadcast (wordy (Line.maxSize - 139)) =
        some (Line.ofFrame (.ofRequest (.send .broadcast (wordy (Line.maxSize - 139))))) ∧
      Line.parseHub (Line.ofHub
          (.deliver { wordy (Line.maxSize - 139) with sender := ⟨18446744073709551615⟩ })) =
        .ok (.deliver { wordy (Line.maxSize - 139) with sender := ⟨18446744073709551615⟩ }) := by
  generalize largest : Line.maxSize - 139 = length
  have portable := isPortable_wordy length
  rcases size_checks_agree portable .broadcast (attached ⟨0⟩) ⟨18446744073709551615⟩ with
    ⟨_, sends, _, arrives⟩
  have carried := FrameMessage.isPortable_send portable .broadcast
  have size := size_wordy length
  have heard := (FrameMessage.isHeard_iff carried).mpr (by unfold Line.maxSize at *; omega)
  exact ⟨portable, (sends rfl).1.mpr heard, (arrives heard).2.2⟩

end SocketLink

end SessionBus
