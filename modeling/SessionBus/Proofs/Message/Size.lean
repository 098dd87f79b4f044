import SessionBus.Proofs.Json.Written
import SessionBus.Proofs.Message.Line
import SessionBus.Registry.Table

/-!
# Sizes of answers

The answers to claims and to wishes to join have a text of bounded length, whatever the numbers in
them, so their lines are always short enough to be read.  A described session has no such bound: its
line grows with its members and their names.
-/

namespace SessionBus

namespace Json

/-- A character takes four bytes at most. -/
theorem utf8ByteSize_le (text : String) : text.utf8ByteSize ≤ 4 * text.toList.length := by
  rw [← Text.length_bytes, Text.bytes_eq]
  induction text.toList with
  | nil =>
      exact Nat.le_refl 0
  | cons c rest ih =>
      have one := c.utf8Size_le_four
      simp only [List.flatMap_cons, List.length_append, List.length_cons,
        String.length_utf8EncodeChar]
      omega

theorem length_escapedChar_le (c : Char) : (escapedChar c).length ≤ 6 := by
  unfold escapedChar
  repeat' split
  all_goals simp

theorem length_quotedText_le (text : String) :
    (quotedText text).length ≤ 6 * text.toList.length + 2 := by
  have inner : ∀ chars : List Char, (chars.flatMap escapedChar).length ≤ 6 * chars.length := by
    intro chars
    induction chars with
    | nil =>
        exact Nat.le_refl 0
    | cons c rest ih =>
        have one := length_escapedChar_le c
        simp only [List.flatMap_cons, List.length_append, List.length_cons]
        omega
  have chars := inner text.toList
  simp only [quotedText, List.length_cons, List.length_append, List.length_nil]
  omega

/-- A number of 64 bits has at most twenty digits. -/
theorem length_toDigits_le {n : Nat} (small : n < UInt64.size) :
    (Nat.toDigits 10 n).length ≤ 20 := by
  apply (Nat.length_toDigits_le_iff (by decide) (by decide)).mpr
  exact Nat.lt_trans small (by decide)

end Json

theorem toList_decimal (n : Nat) : (decimal n).toList = Nat.toDigits 10 n :=
  String.toList_ofList

namespace SwitchboardError

/-- The limit that an error names is a number of 64 bits. -/
def IsSmall : SwitchboardError → Prop
  | .tooManyFrames max => max < UInt64.size
  | .tooManySessions max => max < UInt64.size
  | .closed => True

/-- A short text that ends with a number in brackets. -/
theorem length_limit_le
    {words : String} (short : words.toList.length ≤ 24) {max : Nat} (small : max < UInt64.size) :
    (words ++ decimal max ++ ")").toList.length ≤ 50 := by
  have digits := Json.length_toDigits_le small
  have bracket : ")".toList.length = 1 := rfl
  rw [String.toList_append, String.toList_append, toList_decimal, List.length_append,
    List.length_append]
  omega

theorem length_message_le {error : SwitchboardError} (small : error.IsSmall) :
    error.message.toList.length ≤ 50 := by
  cases error with
  | tooManyFrames max =>
      have short : "too many frames (max: ".toList.length ≤ 24 := by decide
      exact length_limit_le short small
  | tooManySessions max =>
      have short : "too many sessions (max: ".toList.length ≤ 24 := by decide
      exact length_limit_le short small
  | closed =>
      decide

end SwitchboardError

namespace Line

open Json

theorem utf8ByteSize_ofHub_le
    {message : HubMessage} (length : message.toJson.written.length ≤ 262143) :
    (ofHub message).utf8ByteSize ≤ maxSize := by
  have bytes := utf8ByteSize_le message.toJson.compact
  rw [toList_compact] at bytes
  rw [ofHub, utf8ByteSize_ofJson]
  unfold maxSize
  omega

theorem length_number_le (n : UInt64) : (HubMessage.number n).written.length ≤ 20 :=
  length_toDigits_le n.toNat_lt

/-- The line that takes a frame in can always be read. -/
theorem short_accept (frame : FrameId) : (ofHub (.accept frame)).utf8ByteSize ≤ maxSize := by
  apply utf8ByteSize_ofHub_le
  have digits : frame.toJson.written.length ≤ 20 := length_toDigits_le frame.value.toNat_lt
  have version : Version.current.toJson.written.length ≤ 30 := by decide
  have names : (quotedText "type").length + (quotedText "connected").length +
      (quotedText "protocol_version").length + (quotedText "frame_id").length = 45 := by decide
  simp only [HubMessage.accept, HubMessage.toJson, HubMessage.members, written, writtenMembers,
    List.length_append, List.length_cons, List.length_nil, if_true, Bool.false_eq_true, if_false]
  omega

/-- The written form of an answer that says yes or no. -/
theorem length_decision_le (kind flag : String) (id : UInt64) (decision : Bool) :
    (Json.object [("type", .string kind), ("request_id", HubMessage.number id),
        (flag, .bool decision)]).written.length ≤
      (quotedText kind).length + (quotedText flag).length + 60 := by
  have digits := length_number_le id
  have names : (quotedText "type").length + (quotedText "request_id").length = 18 := by decide
  cases decision <;>
    simp only [written, writtenMembers, List.length_append, List.length_cons, List.length_nil,
      if_true, Bool.false_eq_true, if_false] <;>
    omega

/-- The line of the answer to a claim can always be read. -/
theorem short_sessionClaimed (id : UInt64) (claimed : Bool) :
    (ofHub (.sessionClaimed id claimed)).utf8ByteSize ≤ maxSize := by
  apply utf8ByteSize_ofHub_le
  apply Nat.le_trans (length_decision_le "session_claimed" "claimed" id claimed)
  decide

/-- The line of the answer to a wish to join can always be read. -/
theorem short_sessionJoined (id : UInt64) (joined : Bool) :
    (ofHub (.sessionJoined id joined)).utf8ByteSize ≤ maxSize := by
  apply utf8ByteSize_ofHub_le
  apply Nat.le_trans (length_decision_le "session_joined" "joined" id joined)
  decide

/-- The line of a refusal can always be read. -/
theorem short_requestError
    (id : UInt64) {error : SwitchboardError} (small : error.IsSmall) :
    (ofHub (.requestError id error.message error.code)).utf8ByteSize ≤ maxSize := by
  apply utf8ByteSize_ofHub_le
  have digits := length_number_le id
  have message := length_quotedText_le error.message
  have text := SwitchboardError.length_message_le small
  have code : (quotedText error.code).length ≤ 20 := by
    cases error <;> simp only [SwitchboardError.code] <;> decide
  have names : (quotedText "type").length + (quotedText "error").length +
      (quotedText "message").length + (quotedText "request_id").length +
      (quotedText "code").length = 40 := by decide
  simp only [HubMessage.requestError, HubMessage.toJson, HubMessage.members, optionalMember,
    written, writtenMembers, List.cons_append, List.nil_append, List.length_append,
    List.length_cons, List.length_nil, if_true, Bool.false_eq_true, if_false]
  omega

/-! ## Packets -/

/-- The bytes of a written form. -/
def byteSize (chars : List Char) : Nat :=
  (chars.flatMap String.utf8EncodeChar).length

theorem byteSize_append (first second : List Char) :
    byteSize (first ++ second) = byteSize first + byteSize second := by
  rw [byteSize, List.flatMap_append, List.length_append]
  rfl

theorem byteSize_cons (c : Char) (rest : List Char) :
    byteSize (c :: rest) = c.utf8Size + byteSize rest := by
  rw [byteSize, List.flatMap_cons, List.length_append, String.length_utf8EncodeChar]
  rfl

theorem utf8ByteSize_compact (document : Json) :
    document.compact.utf8ByteSize = byteSize document.written := by
  rw [← Text.length_bytes, Text.bytes_eq, toList_compact, byteSize]

/-- The line that hands a packet over is no longer than the document that sends it, even if the
packet has grown by the digits of an identity meanwhile. -/
theorem short_deliver_of_le
    {route : Route} {packet handed : Packet}
    (grown : byteSize handed.toJson.written ≤ byteSize packet.toJson.written + 20)
    (short : (FrameMessage.ofRequest (.send route packet)).toJson.compact.utf8ByteSize ≤ maxSize) :
    (ofHub (.deliver handed)).utf8ByteSize ≤ maxSize := by
  -- The version alone takes more room than the identity, the line feed and the longer tag.
  have version : 39 ≤ byteSize (quotedText FrameMessage.versionName) +
      byteSize Version.current.toJson.written := by decide
  have names : byteSize (quotedText "deliver") ≤ byteSize (quotedText "send") + 3 := by decide
  rw [ofHub, utf8ByteSize_ofJson]
  rw [utf8ByteSize_compact] at short ⊢
  simp only [FrameMessage.ofRequest, FrameMessage.toJson, Request.members, HubMessage.toJson,
    HubMessage.members, written, writtenMembers, byteSize_append, byteSize_cons,
    if_true, Bool.false_eq_true, if_false] at short ⊢
  omega

theorem short_deliver
    {route : Route} {packet : Packet}
    (short : (FrameMessage.ofRequest (.send route packet)).toJson.compact.utf8ByteSize ≤ maxSize) :
    (ofHub (.deliver packet)).utf8ByteSize ≤ maxSize :=
  short_deliver_of_le (Nat.le_add_right _ _) short

end Line

end SessionBus
