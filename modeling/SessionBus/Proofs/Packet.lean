import SessionBus.Packet
import SessionBus.Proofs.Frame.Set
import SessionBus.Proofs.Session

/-!
# Reading packets and routes that were written

The data of a packet have a canonical form, so they come back from the document that was written for
them; the frames of a route are a set, which is determined by its elements.  A packet is portable
when its data are, with one level to spare for the packet itself.
-/

namespace SessionBus

open Json (Decoder Fields)

namespace Packet

/-- The document of a packet with other data. -/
def documentWith (packet : Packet) (data : Json) : Json :=
  .object ([("topic", .string packet.topic), ("data", data),
      ("sender_frame_id", packet.sender.toJson)] ++
    optionalMember "session_id" SessionId.toJson packet.session ++
    optionalMember "destination_frame_id" FrameId.toJson packet.destination)

/-- Whatever the data are, the rest of a packet comes back. -/
theorem decoder_restores_documentWith (packet : Packet) (data : Json) :
    decoder.Restores (packet.documentWith data) { packet with data := data.toValue } := by
  apply Json.Decoder.record_restores
  intro origin
  have session := optionalField_restores packet.session
    (fun session _ => session.decoder_restores) (fun session => Json.string_ne_null session.key)
    "session_id" origin
  have destination := optionalField_restores packet.destination
    (fun frame _ => frame.decoder_restores) (fun frame => Json.nat_ne_null frame.value.toNat)
    "destination_frame_id" origin
  have content : Json.Decoder.value.Restores data data.toValue := fun _ => rfl
  have fields :=
    Fields.Restores.both
      (.one (Json.Decoder.string_restores packet.topic) "topic" .refused origin)
      (.both (.one content "data" .refused origin)
        (.both (.one packet.sender.decoder_restores "sender_frame_id" .refused origin)
          (.both session destination (by decide))
          (by decide))
        (by decide))
      (by decide)
  have whole := fields.map fun parts =>
    (⟨parts.1, parts.2.1, parts.2.2.1, parts.2.2.2.1, parts.2.2.2.2⟩ : Packet)
  simpa using whole

theorem decoder_restores (packet : Packet) : decoder.Restores packet.toJson packet := by
  have restores := packet.decoder_restores_documentWith packet.data.document
  rw [Json.toValue_document] at restores
  exact restores

/-- A packet whose data are portable with one level to spare. -/
theorem isPortable_toJson
    {packet : Packet} {levels : Nat} (data : packet.data.document.IsPortable levels) :
    packet.toJson.IsPortable (levels + 1) := by
  apply Json.isPortable_object
  have session := isPortable_optionalMember
    (fun session => SessionId.isPortable_toJson session levels) "session_id" packet.session
  have destination := isPortable_optionalMember
    (fun frame => FrameId.isPortable_toJson frame levels) "destination_frame_id"
    packet.destination
  simp only [List.forall_mem_append, List.forall_mem_cons, List.not_mem_nil, false_implies,
    implies_true, and_true]
  exact ⟨⟨⟨Json.isPortable_string levels packet.topic, data,
    packet.sender.isPortable_toJson levels⟩, session⟩, destination⟩

end Packet

namespace Route

theorem decoder_restores (route : Route) : decoder.Restores route.toJson route := by
  intro origin
  cases route with
  | broadcast =>
      rfl
  | frames set =>
      have frames : (Decoder.list FrameId.decoder).Restores
          (.array (set.toList.map FrameId.toJson)) (set.toList.map id) :=
        Json.Decoder.list_restores fun frame _ => frame.decoder_restores
      have fields := (Fields.Restores.one frames "frames" .refused .buffered).map ofList
      have same : ofList (set.toList.map id) = .frames set := by
        simp [ofList]
      rw [same] at fields
      exact Json.Union.ofTree_record rfl (by decide) fields "Route" origin

/-- A route is portable. -/
theorem isPortable_toJson (route : Route) (levels : Nat) :
    route.toJson.IsPortable (levels + 2) := by
  cases route with
  | broadcast =>
      apply Json.isPortable_object
      simp
  | frames set =>
      have frames : (Json.array (set.toList.map FrameId.toJson)).IsPortable (levels + 1) := by
        apply Json.isPortable_array
        simp
      apply Json.isPortable_object
      simpa using frames

end Route

end SessionBus
