import SessionBus.Hub.LineReader
import SessionBus.Message.Line
import SessionBus.Proofs.Message.Hub
import SessionBus.Proofs.Text.Bytes

/-!
# Reading lines that were written

The line of a message is the written form of an object and a line feed.  Neither is touched when the
blanks around the text are dropped, so a line within the size limit is read as the message that it
was written for, with its line feed or without it.  No other line feed occurs in a line: the byte
that ends it is the only one of its kind.
-/

namespace SessionBus.Line

open Fallible

/-! ## The end of a line -/

/-- A line has one line feed, which is its last byte. -/
def EndsOnce (line : String) : Prop :=
  ∃ body, line.toUTF8.toList = body ++ [LineReader.lineFeed] ∧ LineReader.lineFeed ∉ body

/-- The bytes of a line are those of its document and a line feed. -/
theorem bytes_ofJson (document : Json) :
    (ofJson document).toUTF8.toList = document.compact.toUTF8.toList ++ [LineReader.lineFeed] := by
  rw [ofJson, Text.bytes_eq, Text.bytes_eq, String.toList_push, List.flatMap_append]
  rfl

theorem utf8ByteSize_ofJson (document : Json) :
    (ofJson document).utf8ByteSize = document.compact.utf8ByteSize + 1 := by
  rw [← Text.length_bytes, ← Text.length_bytes, bytes_ofJson, List.length_append]
  rfl

/-- No byte of a document is a line feed. -/
theorem lineFeed_notMem_compact (document : Json) :
    LineReader.lineFeed ∉ document.compact.toUTF8.toList := by
  apply Text.lineFeed_notMem_bytes
  rw [Json.toList_compact]
  exact document.lineFeed_notMem_written

/-- The line of a document ends with its only line feed. -/
theorem endsOnce_ofJson (document : Json) : EndsOnce (ofJson document) :=
  ⟨_, bytes_ofJson document, lineFeed_notMem_compact document⟩

/-! ## Reading -/

/-- Blanks after an object are dropped, and nothing else. -/
theorem trim_object
    (members : List (String × Json)) {blanks : List Char}
    (blank : ∀ c ∈ blanks, Text.isBlank c = true) :
    Text.trim ((Json.object members).written ++ blanks) = (Json.object members).written := by
  have opening : Text.isBlank '\x7b' = false := by decide
  have closing : Text.isBlank '\x7d' = false := by decide
  have dropped : (blanks.reverse ++ '\x7d' :: ((Json.writtenMembers true members).reverse ++
      ['\x7b'])).dropWhile Text.isBlank =
        '\x7d' :: ((Json.writtenMembers true members).reverse ++ ['\x7b']) := by
    rw [List.dropWhile_append_of_pos (fun c inside => blank c (List.mem_reverse.mp inside))]
    simp [closing]
  simp [Text.trim, Text.trimStart, Text.trimEnd, Json.written, opening, dropped]

theorem isBlank_lineFeed : ∀ c ∈ ['\n'], Text.isBlank c = true := by
  intro c inside
  rw [List.mem_singleton.mp inside]
  rfl

/-- A text that is an object and blanks is read as what the reader makes of the object. -/
theorem parseWith_written
    {α : Type} {reader : Json.Reader α} {members : List (String × Json)} {value : α}
    (reads : reader (Json.object members).written = .ok (value, []))
    {line : String} {blanks : List Char} (blank : ∀ c ∈ blanks, Text.isBlank c = true)
    (text : line.toList = (Json.object members).written ++ blanks)
    {max : Nat} (short : line.utf8ByteSize ≤ max) :
    parseWith reader line max = .ok value := by
  have fits : ¬ max < line.utf8ByteSize := Nat.not_lt.mpr short
  have inner : body line max = .ok (Json.object members).written := by
    rw [body, if_neg fits, text, trim_object members blank]
    rfl
  simp [parseWith, inner, Json.readWhole, reads, Json.skipSpace]

/-- The message of a frame is read from its line, with or without the line feed. -/
theorem parseFrame_written
    {message : FrameMessage} (portable : message.IsPortable)
    {line : String} {blanks : List Char} (blank : ∀ c ∈ blanks, Text.isBlank c = true)
    (text : line.toList = message.toJson.written ++ blanks)
    {max : Nat} (short : line.utf8ByteSize ≤ max) :
    parseFrame line max = .ok message := by
  have reads := FrameMessage.read_written portable []
  rw [List.append_nil] at reads
  exact parseWith_written reads blank text short

/-- The message of the hub is read from its line with the instants that were written. -/
theorem parseHub_written
    {message : HubMessage} (portable : message.IsPortable)
    {line : String} {blanks : List Char} (blank : ∀ c ∈ blanks, Text.isBlank c = true)
    (text : line.toList = message.toJson.written ++ blanks)
    (short : line.utf8ByteSize ≤ maxSize) :
    parseHub line = .ok message.reread := by
  have reads := HubMessage.decoder_reads portable [] .nil
  rw [List.append_nil] at reads
  exact parseWith_written reads blank text short

/--
Reading a line undoes writing it, for every message of a frame and of the hub whose packet has data
with integers of 64 bits in at most 125 arrays and objects, and whose instants are not in a leap
second, as long as the line is not too long.  A line has one line feed, which is its last byte.
-/
theorem parse_undoes_writing :
    (∀ (message : FrameMessage) (max : Nat), message.IsPortable →
      (ofFrame message).utf8ByteSize ≤ max →
        parseFrame (ofFrame message) max = .ok message) ∧
    (∀ message : HubMessage, message.IsPortable →
      (∀ t ∈ message.instants, t.nano < 1000000000) →
        (ofHub message).utf8ByteSize ≤ maxSize →
          parseHub (ofHub message) = .ok message) ∧
    (∀ message : FrameMessage, EndsOnce (ofFrame message)) ∧
    ∀ message : HubMessage, EndsOnce (ofHub message) := by
  have text (document : Json) : (ofJson document).toList = document.written ++ ['\n'] := by
    simp [ofJson]
  refine ⟨?_, ?_, fun message => endsOnce_ofJson message.toJson,
    fun message => endsOnce_ofJson message.toJson⟩
  · intro message max portable short
    exact parseFrame_written portable isBlank_lineFeed (text message.toJson) short
  · intro message portable noLeap short
    exact (parseHub_written portable isBlank_lineFeed (text message.toJson) short).trans
      (congrArg Except.ok (message.reread_of_noLeap noLeap))

/-- A packet whose topic needs escapes and whose data are at the bounds of their integers. -/
def boundaryPacket : Packet where
  topic := "\x00\"\\\n é 𝄞"
  data := ⟨.object [("a", .array [.integer (-9223372036854775808), .integer 18446744073709551615])],
    by simp [Json.IsCanonical, Json.MembersCanonical, Json.ItemsCanonical, Json.integer]⟩
  sender := ⟨18446744073709551615⟩
  session := some ⟨""⟩
  destination := none

/-- A session with an instant of the year 9999 that has a fraction. -/
def boundarySession : Session where
  id := ⟨"\t"⟩
  owner := ⟨0⟩
  createdAt := ⟨9999, 12, 31, 23, 59, 59, 999999999, by decide⟩
  members := [⟨⟨0⟩, none, .owner, ⟨0, 2, 29, 0, 0, 0, 1000, by decide⟩⟩]

theorem parse_undoes_writing_boundary :
    parseFrame (ofFrame ⟨⟨65535, 0⟩, .send (.frames ⟨[⟨0⟩, ⟨7⟩], by decide⟩) boundaryPacket⟩) 1024 =
        .ok ⟨⟨65535, 0⟩, .send (.frames ⟨[⟨0⟩, ⟨7⟩], by decide⟩) boundaryPacket⟩ ∧
      parseHub (ofHub (.sessionDescribed 3 (some boundarySession))) =
        .ok (.sessionDescribed 3 (some boundarySession)) := by
  constructor
  · apply parse_undoes_writing.1
    · rintro packet ⟨⟩
      exact ⟨by decide, by decide⟩
    · decide +kernel
  · apply parse_undoes_writing.2.1
    · rintro packet ⟨⟩
    · decide
    · decide +kernel

end SessionBus.Line
