import SessionBus.Proofs.Message.Line

/-!
# Reading lines from a stream

Bytes may come in pieces of any size.  A reader at the start of a line finds the text of the line
without a carriage return at its end, or that it is too long, and stands at the start of the next
line afterwards; so it finds the lines of a stream one by one.
-/

namespace SessionBus.LineReader

variable {max : Nat}

/-! ## Pieces of a stream -/

theorem pushAll_eq_feed (reader : LineReader) (found : List Incoming) (bytes : List UInt8) :
    reader.pushAll found bytes =
      (found.reverse ++ (reader.feed bytes).1, (reader.feed bytes).2) := by
  unfold feed
  induction bytes generalizing reader found with
  | nil =>
      simp [pushAll]
  | cons byte rest ih =>
      simp only [pushAll]
      rcases reader.push byte with ⟨next | next, after⟩
      · exact ih after found
      · simp only [ih after (next :: found), ih after [next], List.reverse_cons, List.reverse_nil,
          List.nil_append, List.append_assoc]

theorem feed_cons (reader : LineReader) (byte : UInt8) (rest : List UInt8) :
    reader.feed (byte :: rest) =
      ((reader.push byte).1.toList ++ ((reader.push byte).2.feed rest).1,
        ((reader.push byte).2.feed rest).2) := by
  rw [feed, pushAll]
  rcases reader.push byte with ⟨next | next, after⟩ <;> simp only [pushAll_eq_feed] <;> simp

/-- A stream may be read in two pieces. -/
theorem feed_append (reader : LineReader) (first second : List UInt8) :
    reader.feed (first ++ second) =
      ((reader.feed first).1 ++ ((reader.feed first).2.feed second).1,
        ((reader.feed first).2.feed second).2) := by
  induction first generalizing reader with
  | nil =>
      simp [feed, pushAll]
  | cons byte rest ih =>
      simp only [List.cons_append, feed_cons, ih, List.append_assoc]

/-- A reader keeps to its greatest size. -/
theorem feed_max (reader : LineReader) (bytes : List UInt8) :
    (reader.feed bytes).2.max = reader.max := by
  induction bytes generalizing reader with
  | nil =>
      rfl
  | cons byte rest ih =>
      have pushed : (reader.push byte).2.max = reader.max := by
        unfold push
        split
        · split <;> rfl
        · split
          · rfl
          · split <;> rfl
      rw [feed_cons]
      exact (ih _).trans pushed

/-! ## One line -/

/-- Bytes without a line feed are kept as long as there is room for them. -/
theorem feed_kept
    {count : Nat} {bytes : List UInt8} (noLineFeed : lineFeed ∉ bytes)
    (room : count + bytes.length ≤ max) (pending : List UInt8) :
    feed ⟨max, pending, count, false⟩ bytes =
      ([], ⟨max, bytes.reverse ++ pending, count + bytes.length, false⟩) := by
  induction bytes generalizing pending count with
  | nil =>
      rfl
  | cons byte bytes ih =>
      rw [List.mem_cons, not_or] at noLineFeed
      rw [List.length_cons] at room
      have first : byte ≠ lineFeed := Ne.symm noLineFeed.1
      have fits : ¬ max ≤ count := by omega
      have taken : push ⟨max, pending, count, false⟩ byte =
          (none, ⟨max, byte :: pending, count + 1, false⟩) := by
        simp [push, first, fits]
      have later := ih noLineFeed.2 (by omega : count + 1 + bytes.length ≤ max) (byte :: pending)
      rw [feed_cons, taken, later]
      simp only [Option.toList_none, List.nil_append, List.reverse_cons, List.append_assoc,
        List.singleton_append, List.length_cons]
      congr 2
      omega

/-- The rest of a line that is too long is skipped. -/
theorem feed_skipping
    {count : Nat} {bytes : List UInt8} (noLineFeed : lineFeed ∉ bytes) (pending : List UInt8) :
    feed ⟨max, pending, count, true⟩ bytes = ([], ⟨max, pending, count, true⟩) := by
  induction bytes with
  | nil =>
      rfl
  | cons byte bytes ih =>
      rw [List.mem_cons, not_or] at noLineFeed
      have first : byte ≠ lineFeed := Ne.symm noLineFeed.1
      have skipped : push ⟨max, pending, count, true⟩ byte =
          (none, ⟨max, pending, count, true⟩) := by
        simp [push, first]
      rw [feed_cons, skipped, ih noLineFeed.2]
      rfl

/-- A text without a carriage return at its end. -/
def withoutReturn (text : String) : String :=
  if text.toList.getLast? = some '\r' then String.ofList text.toList.dropLast else text

theorem lineOf_text (text : String) :
    lineOf text.toUTF8.toList.reverse = .line (withoutReturn text) := by
  have whole := Text.fromUTF8?_bytes text
  rcases List.eq_nil_or_concat text.toList with nothing | ⟨front, c, split⟩
  · have none : text.toUTF8.toList = [] := by
      rw [Text.bytes_eq, nothing]
      rfl
    rw [none] at whole ⊢
    simp only [lineOf, List.reverse_nil, whole, withoutReturn, nothing, List.getLast?_nil]
    rfl
  · rw [List.concat_eq_append] at split
    have bytes : text.toUTF8.toList =
        (String.ofList front).toUTF8.toList ++ String.utf8EncodeChar c := by
      rw [Text.bytes_eq, Text.bytes_eq, split, String.toList_ofList, List.flatMap_append,
        List.flatMap_singleton]
    by_cases returns : c = '\r'
    · subst returns
      have reversed : text.toUTF8.toList.reverse =
          carriageReturn :: (String.ofList front).toUTF8.toList.reverse := by
        rw [bytes, List.reverse_append]
        rfl
      simp only [lineOf, reversed, if_true, List.reverse_reverse, Text.fromUTF8?_bytes,
        withoutReturn, split, List.getLast?_concat, List.dropLast_concat]
    · have clean : carriageReturn ∉ String.utf8EncodeChar c :=
        Text.ascii_notMem_utf8EncodeChar (by decide) (Text.toNat_ne returns)
      rcases List.eq_nil_or_concat (String.utf8EncodeChar c) with empty | ⟨head, last, encoded⟩
      · exact absurd empty (by simp [← List.length_eq_zero_iff, String.length_utf8EncodeChar,
          Nat.ne_of_gt c.utf8Size_pos])
      · rw [List.concat_eq_append] at encoded
        have other : last ≠ carriageReturn := by
          rintro rfl
          exact clean (encoded ▸ List.mem_append_right _ (List.mem_singleton_self _))
        have reversed : text.toUTF8.toList.reverse =
            last :: ((String.ofList front).toUTF8.toList ++ head).reverse := by
          rw [bytes, encoded, ← List.append_assoc, List.reverse_append]
          rfl
        have same : (last :: ((String.ofList front).toUTF8.toList ++ head).reverse).reverse =
            text.toUTF8.toList := by
          rw [← reversed, List.reverse_reverse]
        simp only [lineOf, reversed, if_neg other, same, whole, withoutReturn, split]
        simp [returns]

/-- What a reader finds in a line. -/
def readAs (max : Nat) (text : String) : Incoming :=
  if text.utf8ByteSize ≤ max then .line (withoutReturn text) else .tooLong

/-- A reader at the start of a line reads it, and stands at the start of the next one. -/
theorem feed_text {text : String} (oneLine : '\n' ∉ text.toList) (max : Nat) :
    (start max).feed (text.toUTF8.toList ++ [lineFeed]) = ([readAs max text], start max) := by
  have clean : lineFeed ∉ text.toUTF8.toList := Text.lineFeed_notMem_bytes oneLine
  unfold readAs
  split
  · rename_i short
    have room : 0 + text.toUTF8.toList.length ≤ max := by
      rw [Nat.zero_add, Text.length_bytes]
      exact short
    have kept := feed_kept clean room []
    rw [feed_append, start, kept, feed_cons]
    simp only [List.append_nil, push, Bool.false_eq_true, if_false, if_true, lineOf_text]
    rfl
  · rename_i long
    have length : max < text.toUTF8.toList.length := by
      rw [Text.length_bytes]
      exact Nat.lt_of_not_le long
    -- The byte after the first `max` ones shows that the line is too long.
    generalize text.toUTF8.toList = bytes at clean length
    have split : bytes = bytes.take max ++ bytes[max] :: bytes.drop (max + 1) := by
      rw [← List.drop_eq_getElem_cons length, List.take_append_drop]
    have count : 0 + (bytes.take max).length = max := by
      rw [Nat.zero_add, List.length_take]
      exact Nat.min_eq_left (Nat.le_of_lt length)
    have first : bytes[max] ≠ lineFeed := fun same => clean (same ▸ List.getElem_mem length)
    have kept := feed_kept (fun inside => clean (List.mem_of_mem_take inside))
      (Nat.le_of_eq count) []
    have excess : push ⟨max, (bytes.take max).reverse ++ [], max, false⟩ bytes[max] =
        (some .tooLong, ⟨max, [], 0, true⟩) := by
      simp [push, first, restart, start]
    have skipped : feed ⟨max, [], 0, true⟩ (bytes.drop (max + 1)) = ([], ⟨max, [], 0, true⟩) :=
      feed_skipping (fun inside => clean (List.mem_of_mem_drop inside)) []
    rw [split, List.append_assoc, feed_append, start, kept, count, List.cons_append, feed_cons,
      excess, feed_append, skipped]
    rfl

/-- A reader finds the lines of a stream one by one. -/
theorem feed_texts
    {texts : List String} (oneLine : ∀ text ∈ texts, '\n' ∉ text.toList) (max : Nat) :
    (start max).feed (texts.flatMap fun text => text.toUTF8.toList ++ [lineFeed]) =
      (texts.map (readAs max), start max) := by
  induction texts with
  | nil =>
      rfl
  | cons text rest ih =>
      rw [List.forall_mem_cons] at oneLine
      rw [List.flatMap_cons, feed_append, feed_text oneLine.1, ih oneLine.2]
      rfl

/-! ## The line of a document -/

/-- What a reader finds in the line of a document. -/
def seen (max : Nat) (document : Json) : Incoming :=
  if document.compact.utf8ByteSize ≤ max then .line document.compact else .tooLong

/-- An object ends with its closing brace, so no carriage return is taken away from it. -/
theorem feed_line (members : List (String × Json)) (max : Nat) :
    (start max).feed (Line.ofJson (.object members)).toUTF8.toList =
      ([seen max (.object members)], start max) := by
  have brace : (Json.object members).compact.toList.getLast? = some '\x7d' := by
    rw [Json.toList_compact, Json.written, ← List.cons_append, List.getLast?_concat]
  have plain : withoutReturn (Json.object members).compact = (Json.object members).compact := by
    rw [withoutReturn, brace]
    rfl
  have oneLine : '\n' ∉ (Json.object members).compact.toList := by
    rw [Json.toList_compact]
    exact (Json.object members).lineFeed_notMem_written
  rw [Line.bytes_ofJson, feed_text oneLine, readAs, plain]
  rfl

end SessionBus.LineReader
