import SessionBus.Proofs.Json.Retold
import SessionBus.Proofs.Message.Line

/-!
# Reading packets with any data

The data of a packet are whatever an application gave it, and a packet with numbers of any kind need
not be read as it was written.  But nothing in the data can pass for another part of a line: what is
read from the line of a delivery is a delivery with the topic, the sender, the session and the
destination that were written, and what is read from the line in which a frame sends a packet is the
same packet on the same route, but for its data.
-/

namespace SessionBus

open Json (Fields MembersRetold Retold)
open Fallible

theorem FrameId.eq_of_retold
    (frame : FrameId) (other : Json) (alike : Retold frame.toJson other) : other = frame.toJson :=
  alike.eq_of_onlyIntegers (frame.isPortable_toJson 0).integers

theorem SessionId.eq_of_retold
    (session : SessionId) (other : Json) (alike : Retold session.toJson other) :
    other = session.toJson :=
  alike.eq_of_onlyIntegers rfl

theorem Json.MembersRetold.split
    {first second others : List (String × Json)} (alike : MembersRetold (first ++ second) others) :
    ∃ front back, others = front ++ back ∧ MembersRetold first front ∧
      MembersRetold second back := by
  induction first generalizing others with
  | nil =>
      exact ⟨[], others, rfl, .nil, alike⟩
  | cons member first ih =>
      cases alike with
      | cons name value rest =>
          rcases ih rest with ⟨front, back, rfl, same, behind⟩
          exact ⟨_ :: front, back, rfl, .cons name value same, behind⟩

/-- A member that is written only when it is there is told again as it is, if its values are. -/
theorem eq_optionalMember_of_retold
    {α : Type} {toJson : α → Json} (same : ∀ value other, Retold (toJson value) other →
      other = toJson value)
    {name : String} {value : Option α} {others : List (String × Json)}
    (alike : MembersRetold (optionalMember name toJson value) others) :
    others = optionalMember name toJson value := by
  cases value with
  | none =>
      cases alike
      rfl
  | some value =>
      cases alike with
      | cons name first rest =>
          cases rest
          rw [same value _ first]
          rfl

namespace Packet

/-- A packet that is told again has other data at most. -/
theorem documentWith_of_retold
    {packet : Packet} {other : Json} (alike : Retold packet.toJson other) :
    ∃ data, other = packet.documentWith data := by
  cases alike with
  | object members =>
      rcases members.split with ⟨front, destinations, rfl, frontAlike, destination⟩
      rcases frontAlike.split with ⟨plain, sessions, rfl, plainAlike, session⟩
      rcases eq_optionalMember_of_retold SessionId.eq_of_retold session with rfl
      rcases eq_optionalMember_of_retold FrameId.eq_of_retold destination with rfl
      cases plainAlike with
      | cons topicName topic behindTopic =>
          cases behindTopic with
          | cons dataName data behindData =>
              cases behindData with
              | cons senderName sender none =>
                  cases none
                  rw [topic.eq_of_onlyIntegers rfl, packet.sender.eq_of_retold _ sender]
                  exact ⟨_, rfl⟩

end Packet

namespace HubMessage

/-- A delivery that is read from its written form is one of the same packet with other data. -/
theorem deliver_of_read
    {packet : Packet} {levels : Nat} {rest left : List Char} {message : HubMessage}
    (read : decoder.text (levels + 1) ((deliver packet).toJson.written ++ rest) =
      .ok (message, left)) :
    left = rest ∧ ∃ data, message = .deliver { packet with data := data } := by
  have known : variants.find? (·.name == "deliver") = some (.record "deliver" "HubMessage::Deliver"
      ((Json.Fields.one "packet" Packet.decoder).map .deliver)) := rfl
  have others : ∀ member ∈ [("packet", packet.toJson)], member.1 ≠ "type" := by
    simp
  rcases Json.union_retold known others read with ⟨rfl, retold, alike, made⟩
  cases alike with
  | cons name first rest =>
      cases rest
      rcases Packet.documentWith_of_retold first with ⟨data, rfl⟩
      have restored := (Json.Fields.Restores.one (packet.decoder_restores_documentWith data)
        "packet" .refused .buffered).map deliver
      have same : (Json.Fields.map deliver (.one "packet" Packet.decoder)).ofMembers .buffered
          [("packet", packet.documentWith data)] = .ok message := made
      rw [restored.ofMembers] at same
      cases same
      exact ⟨rfl, data.toValue, rfl⟩

end HubMessage

namespace FrameMessage

theorem takesUp_readMember
    {levels : Nat} {name : String} (other : name ≠ versionName) (value : Json) :
    Json.TakesUp levels (readMember levels) (fun found member => (found.1, member :: found.2)) name
      value := by
  intro found rest ends next left read
  simp only [readMember, other, if_false, Json.readColon_cons, ok_bind] at read
  rcases Fallible.ok_of_bind read with ⟨⟨retold, between⟩, valueRead, same⟩
  cases same
  rcases Json.readJson_retold value levels rest ends retold _ valueRead with ⟨rfl, shallow, alike⟩
  exact ⟨rfl, shallow, retold, rfl, alike⟩

/-- A message that is read from its written form has a request that is made from the members of the
one that was written, told again, and these are not too deep. -/
theorem ofMembers_of_read
    {message found : FrameMessage} {left : List Char}
    (read : read Json.maxLevels message.toJson.written = .ok (found, left)) :
    Json.depthOfMembers message.request.members ≤ dataLevels + 1 ∧
      ∃ members, MembersRetold message.request.members members ∧
        Request.ofMembers members = .ok found.request := by
  have visible := Json.skipSpace_cons (show Json.isSpace '\x7b' = false by decide)
  have levels : Json.maxLevels = dataLevels + 1 + 1 := rfl
  simp only [FrameMessage.read, Json.Decoder.openingThen, toJson, Json.written, visible, levels]
    at read
  rcases Json.ok_of_enclosed read with ⟨inner, inside, closed⟩
  rcases Fallible.ok_of_bind inside with ⟨⟨⟨version, others⟩, final⟩, along, finished⟩
  -- The version comes first; the members of the request behind it are set aside.
  rcases Json.readMembers_first along with ⟨clock, next, after, here, later⟩
  have first := message.version.decoder_reads dataLevels _
    (Json.endsNumber_writtenMembers message.request.members [])
  simp only [readMember, if_true, Json.readColon_cons, ok_bind, first] at here
  cases here
  rcases Json.readMembers_retold
    (fun entry inside => takesUp_readMember (message.request.name_ne_versionName entry inside)
      entry.2) later with
    ⟨rfl, shallow, retold, collected, alike⟩
  rw [Json.foldl_setAside, List.append_nil] at collected
  cases collected
  refine ⟨shallow, retold, alike, ?_⟩
  simp only [List.reverse_reverse] at finished
  rcases Fallible.ok_of_bind finished with ⟨⟨request, between⟩, made, same⟩
  cases same
  cases whole : Request.ofMembers retold with
  | error cause =>
      rw [whole] at made
      cases made
  | ok result =>
      rw [whole] at made
      cases made
      rfl

/-- What is read from the message in which a frame sends a packet sends that packet the same way,
but for its data, and these are not too deep. -/
theorem send_of_read
    {message found : FrameMessage} {route : Route} {packet : Packet}
    (sends : message.request = .send route packet) {left : List Char}
    (read : read Json.maxLevels message.toJson.written = .ok (found, left)) :
    packet.data.document.depth ≤ dataLevels ∧
      ∃ data, found.request = .send route { packet with data := data } := by
  rcases ofMembers_of_read read with ⟨shallow, members, alike, made⟩
  rw [sends] at alike shallow
  have inside : packet.toJson.depth ≤ dataLevels + 1 := by
    simp only [Request.members, Json.depthOfMembers, Nat.max_le] at shallow
    exact shallow.2.2.1
  refine ⟨?_, ?_⟩
  · simp only [Packet.toJson, List.cons_append, Json.depth, Json.depthOfMembers,
      Nat.add_le_add_iff_right, Nat.max_le] at inside
    exact inside.2.1
  · cases alike with
    | cons _ tag rest =>
        cases rest with
        | cons _ target rest =>
            cases rest with
            | cons _ content none =>
                cases none
                rcases Packet.documentWith_of_retold content with ⟨data, rfl⟩
                have fields := (Fields.Restores.both
                  (.one route.decoder_restores "route" .refused .buffered)
                  (.one (packet.decoder_restores_documentWith data) "packet" .refused .buffered)
                  (by decide)).map fun parts => Request.send parts.1 parts.2
                rw [tag.eq_of_onlyIntegers rfl,
                  target.eq_of_onlyIntegers (route.isPortable_toJson 0).integers] at made
                have restored : Request.ofMembers [("type", .string "send"),
                    ("route", route.toJson), ("packet", packet.documentWith data)] =
                      .ok (.send route { packet with data := data.toValue }) :=
                  Request.ofMembers_record rfl (by decide) fields
                exact ⟨data.toValue, Except.ok.inj (made.symm.trans restored)⟩

end FrameMessage

namespace Line

/-- A text that is read has a body that the reader takes up to its end. -/
theorem ok_of_parseWith
    {α : Type} {reader : Json.Reader α} {line : String} {max : Nat} {value : α}
    (read : parseWith reader line max = .ok value) :
    ∃ text left, body line max = .ok text ∧ reader text = .ok (value, left) := by
  rcases Fallible.ok_of_bind read with ⟨text, inner, whole⟩
  refine ⟨text, ?_⟩
  rw [Json.readWhole] at whole
  cases reading : reader text with
  | error fault =>
      rw [reading] at whole
      cases whole
  | ok result =>
      rw [reading] at whole
      refine ⟨result.2, inner, ?_⟩
      rcases result with ⟨found, left⟩
      cases blanks : Json.skipSpace left with
      | nil =>
          simp only [blanks] at whole
          cases whole
          rfl
      | cons c more =>
          simp only [blanks] at whole
          cases whole

/-- Whatever is read from the text of a delivery, with blanks behind it or without them, is a delivery
of that packet, but for the data of the packet. -/
theorem deliver_of_parseHub_written
    {packet : Packet} {line : String} {blanks : List Char}
    (blank : ∀ c ∈ blanks, Text.isBlank c = true)
    (document : line.toList = (HubMessage.deliver packet).toJson.written ++ blanks)
    {message : HubMessage} (read : parseHub line = .ok message) :
    ∃ data, message = .deliver { packet with data := data } := by
  rcases ok_of_parseWith read with ⟨text, left, inner, reading⟩
  have trimmed : body line maxSize = .ok text := inner
  rw [body, document, HubMessage.toJson, trim_object _ blank] at trimmed
  split at trimmed
  · cases trimmed
  · rw [Json.written] at trimmed
    cases trimmed
    have plain : HubMessage.decoder.text (Json.maxLevels - 1 + 1)
        ((HubMessage.deliver packet).toJson.written ++ []) = .ok (message, left) := by
      rw [List.append_nil]
      exact reading
    exact (HubMessage.deliver_of_read plain).2

/-- Whatever a frame reads from the line of a delivery is a delivery of that packet, but for the
data of the packet. -/
theorem deliver_of_parseHub
    {packet : Packet} {message : HubMessage}
    (read : parseHub (ofHub (.deliver packet)) = .ok message) :
    ∃ data, message = .deliver { packet with data := data } := by
  apply deliver_of_parseHub_written isBlank_lineFeed _ read
  simp [ofHub, ofJson]

/-- A line that is read is no longer than the reader takes. -/
theorem short_of_parseFrame
    {line : String} {found : FrameMessage} {max : Nat} (read : parseFrame line max = .ok found) :
    line.utf8ByteSize ≤ max := by
  rcases ok_of_parseWith read with ⟨text, _, inner, _⟩
  unfold body at inner
  split at inner
  · cases inner
  · rename_i fits
    exact Nat.not_lt.mp fits

/-- Whatever is read from the line in which a frame sends a packet sends that packet the same way,
but for its data, and these are not too deep. -/
theorem send_of_parseFrame
    {message found : FrameMessage} {max : Nat} {route : Route} {packet : Packet}
    (sends : message.request = .send route packet)
    (read : parseFrame message.toJson.compact max = .ok found) :
    packet.data.document.depth ≤ dataLevels ∧
      ∃ data, found.request = .send route { packet with data := data } := by
  have short := short_of_parseFrame read
  rcases ok_of_parseWith read with ⟨text, left, inner, reading⟩
  have blank : ∀ c ∈ ([] : List Char), Text.isBlank c = true := nofun
  have document : message.toJson.compact.toList = message.toJson.written ++ [] := by
    rw [Json.toList_compact, List.append_nil]
  have whole : body message.toJson.compact max = .ok message.toJson.written := by
    rw [body, if_neg (Nat.not_lt.mpr short), document, FrameMessage.toJson, trim_object _ blank]
    rfl
  rw [whole] at inner
  cases inner
  exact FrameMessage.send_of_read sends reading

/-- A line in which a frame does not part from the hub is not read as a farewell. -/
theorem request_ne_disconnect
    {message found : FrameMessage} {max : Nat}
    (read : parseFrame message.toJson.compact max = .ok found)
    (other : message.request ≠ .disconnect) : found.request ≠ .disconnect := by
  have blank : ∀ c ∈ ([] : List Char), Text.isBlank c = true := nofun
  have document : message.toJson.compact.toList = message.toJson.written ++ [] := by
    rw [Json.toList_compact, List.append_nil]
  have short := short_of_parseFrame read
  rcases message with ⟨version, request⟩
  cases request with
  | send route packet =>
      rcases send_of_parseFrame rfl read with ⟨_, data, sends⟩
      rw [sends]
      nofun
  | connect | claimSession | joinSession | describeSession | ping =>
      rw [parseFrame_written (FrameMessage.isPortable_of_plain rfl) blank document short] at read
      cases read
      exact other
  | disconnect =>
      exact absurd rfl other

end Line

end SessionBus
