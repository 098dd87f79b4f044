import SessionBus.Proofs.Hub.Fate
import SessionBus.Proofs.Message.Delivered
import SessionBus.Proofs.Message.Size
import SessionBus.Proofs.Relay.FrameEnd

/-!
# What a frame makes of the messages of its hub

The first message settles whether a frame is taken in.  After that a packet is handed on from every
delivery that can be read, under the sender that was written, and from nothing else.
-/

namespace SessionBus

/-! ## Deliveries -/

/-- The packet that the line of a message hands over to a frame. -/
def HubMessage.relayed? (message : HubMessage) : Option Packet :=
  match Line.parseHub (Line.ofHub message) with
  | .ok (.deliver packet) => some packet
  | _ => none

/-- A packet that its frame can always read. -/
structure Packet.IsReadable (packet : Packet) : Prop where
  portable : packet.data.document.IsPortable dataLevels
  short : (Line.ofHub (.deliver packet)).utf8ByteSize ≤ Line.maxSize

namespace HubMessage

theorem relayed?_of_plain {message : HubMessage} (plain : message.isDelivery = false) :
    message.relayed? = none := by
  have portable : message.IsPortable := by
    intro packet carried
    cases message <;> cases carried
    cases plain
  rcases Nat.lt_or_ge Line.maxSize (Line.ofHub message).utf8ByteSize with long | short
  · rw [relayed?, Line.parseHub_of_long long]
  · rw [relayed?, SocketLink.parseHub_ofHub portable short]
    cases message with
    | deliver packet =>
        cases plain
    | _ =>
        rfl

/-- A packet is handed over under the sender that was written. -/
theorem sender_of_relayed? {packet other : Packet}
    (relayed : (deliver packet).relayed? = some other) : other.sender = packet.sender := by
  unfold relayed? at relayed
  split at relayed
  · rename_i found read
    rcases Line.deliver_of_parseHub read with ⟨data, same⟩
    cases same
    cases relayed
    rfl
  · cases relayed

theorem relayed?_deliver {packet : Packet} (readable : packet.IsReadable) :
    (deliver packet).relayed? = some packet := by
  have portable : (deliver packet).IsPortable := by
    rintro other ⟨⟩
    exact readable.portable
  rw [relayed?, SocketLink.parseHub_ofHub portable readable.short]
  rfl

end HubMessage

/-! ## Greetings and messages -/

namespace FrameEnd

variable {frameEnd : FrameEnd} {link : SocketLink}

theorem fromUTF8?_message (message : HubMessage) :
    String.fromUTF8? message.bytes.toByteArray = some (Line.ofHub message) :=
  Text.fromUTF8?_bytes _

theorem hear_accept (greeting : frameEnd.stage = .greeting) (frame : FrameId) :
    frameEnd.hear (.accept frame) =
      ([.greeted (.ok frame)], frameEnd.withLink (.attached frame)) := by
  simp only [hear, takeLine, greeting, fromUTF8?_message,
    SocketLink.greet_accept frame (Line.short_accept frame), settle]

/-- A frame that is refused ends the stream. -/
theorem hear_reject (greeting : frameEnd.stage = .greeting) (reason : String) :
    ∃ error, frameEnd.hear (.reject reason) =
      ([.greeted (.error error), .closed], { frameEnd with stage := .refused }) := by
  rcases SocketLink.eq_error_of_greet_reject reason with ⟨error, refused⟩
  refine ⟨error, ?_⟩
  simp only [hear, takeLine, greeting, fromUTF8?_message, refused, settle]

theorem hear_refused (refused : frameEnd.stage = .refused) (message : HubMessage) :
    frameEnd.hear message = ([], frameEnd) := by
  simp only [hear, takeLine, refused]

/-- A message changes no more than which calls a link waits for. -/
theorem take_cases (link : SocketLink) (message : HubMessage) :
    (∃ packet, message = .deliver packet ∧ link.take message = (.packet packet, link)) ∨
      message.isDelivery = false ∧ ∃ output waiting,
        link.take message = (output, { link with waiting }) ∧
          ∀ packet, output ≠ .packet packet := by
  cases message with
  | deliver packet =>
      exact .inl ⟨packet, rfl, rfl⟩
  | _ =>
      refine .inr ⟨rfl, ?_⟩
      simp only [SocketLink.take]
      split
      · exact ⟨.nothing, link.waiting, rfl, by simp⟩
      · exact ⟨_, _, rfl, by simp⟩

/-- A link that reads hands on the packet that the line of a message hands over. -/
theorem takeLine_cases (link : SocketLink) (message : HubMessage) :
    ∃ output waiting, link.takeLine (Line.ofHub message) = (output, { link with waiting }) ∧
      ((∃ packet, output = .packet packet ∧ message.relayed? = some packet) ∨
        (∀ packet, output ≠ .packet packet) ∧ (link.reading = true → message.relayed? = none)) := by
  unfold SocketLink.takeLine HubMessage.relayed?
  by_cases reading : link.reading = true
  · rw [if_pos reading]
    cases Line.parseHub (Line.ofHub message) with
    | error error =>
        exact ⟨.nothing, link.waiting, rfl, .inr ⟨nofun, fun _ => rfl⟩⟩
    | ok found =>
        rcases take_cases link found with
          ⟨packet, rfl, taken⟩ | ⟨plain, output, waiting, taken, silent⟩
        · exact ⟨.packet packet, link.waiting, taken, .inl ⟨packet, rfl, rfl⟩⟩
        · refine ⟨output, waiting, taken, .inr ⟨silent, fun _ => ?_⟩⟩
          cases found with
          | deliver packet =>
              cases plain
          | _ =>
              rfl
  · rw [if_neg reading]
    exact ⟨.nothing, link.waiting, rfl, .inr ⟨nofun, fun reads => absurd reads reading⟩⟩

/-- What a link hears leaves its identity as it is, and whether it reads and writes. -/
theorem hear_attached (attached : frameEnd.stage = .attached link) (message : HubMessage) :
    ∃ notices waiting,
      frameEnd.hear message = (notices, frameEnd.withLink { link with waiting }) ∧
      notices.filterMap FrameNotice.line? = [] ∧ notices.any FrameNotice.isClosed = false ∧
      (link.reading = true → notices.filterMap FrameNotice.packet? = message.relayed?.toList) := by
  rcases takeLine_cases link message with ⟨output, waiting, taken, outcome⟩
  refine ⟨(FrameNotice.ofOutput? output).toList, waiting, ?_, ?_⟩
  · simp only [hear, takeLine, attached, fromUTF8?_message, taken]
  · rcases outcome with ⟨packet, rfl, relayed⟩ | ⟨silent, unread⟩
    · exact ⟨rfl, rfl, fun _ => by rw [relayed]; rfl⟩
    · cases output with
      | packet packet =>
          exact absurd rfl (silent packet)
      | completed | nothing =>
          exact ⟨rfl, rfl, fun reading => by rw [unread reading]; rfl⟩

end FrameEnd

end SessionBus
