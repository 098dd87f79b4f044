import SessionBus.Proofs.Hub.LineReader

/-!
# Lines from a buffer

A hub does not look at the bytes of a stream one by one.  It reads a piece into a buffer and
searches the buffer for a line feed, as far as the longest line can reach.  When there is none it
remembers how far it has searched and reads another piece; when the line is too long it says so and
throws away what it reads until the line feed has come.

However the stream is cut into pieces, the buffer yields what the line reader finds in the stream,
one finding at a call: each line that is short enough, once that a line is too long, and in the end
the line that the stream leaves unfinished.
-/

namespace SessionBus

namespace LineReader

variable {max : Nat}

/-! ## Whole streams -/

/-- What a reader finds in a stream up to its end. -/
def readAll (reader : LineReader) (bytes : List UInt8) : List Incoming :=
  (reader.feed bytes).1 ++ (reader.feed bytes).2.finish.toList

/-- What a reader finds in a stream that comes in pieces. -/
def readPieces (reader : LineReader) : List (List UInt8) → List Incoming
  | [] => reader.finish.toList
  | piece :: rest => (reader.feed piece).1 ++ (reader.feed piece).2.readPieces rest

theorem readAll_append (reader : LineReader) (first second : List UInt8) :
    reader.readAll (first ++ second) =
      (reader.feed first).1 ++ (reader.feed first).2.readAll second := by
  simp only [readAll, feed_append, List.append_assoc]

/-- The pieces of a stream do not matter. -/
theorem readPieces_eq (reader : LineReader) (pieces : List (List UInt8)) :
    reader.readPieces pieces = reader.readAll pieces.flatten := by
  induction pieces generalizing reader with
  | nil =>
      rfl
  | cons piece rest ih =>
      rw [readPieces, ih, List.flatten_cons, readAll_append]

theorem readAll_cons (reader : LineReader) (byte : UInt8) (rest : List UInt8) :
    reader.readAll (byte :: rest) =
      (reader.push byte).1.toList ++ (reader.push byte).2.readAll rest := by
  simp only [readAll, feed_cons, List.append_assoc]

/-- A line that is short enough is found, whatever follows it. -/
theorem readAll_line
    {body : List UInt8} (clean : lineFeed ∉ body) (short : body.length ≤ max)
    (rest : List UInt8) :
    (start max).readAll (body ++ lineFeed :: rest) =
      lineOf body.reverse :: (start max).readAll rest := by
  have room : 0 + body.length ≤ max := by
    rwa [Nat.zero_add]
  have kept := feed_kept clean room []
  have ended : push ⟨max, body.reverse ++ [], 0 + body.length, false⟩ lineFeed =
      (some (lineOf body.reverse), start max) := by
    simp [push, restart, start]
  rw [readAll_append, start, kept, readAll_cons, ended]
  rfl

/-- The end of a line that is skipped. -/
theorem readAll_skipped
    {body : List UInt8} (clean : lineFeed ∉ body) (rest : List UInt8) :
    readAll ⟨max, [], 0, true⟩ (body ++ lineFeed :: rest) = (start max).readAll rest := by
  have ended : push ⟨max, [], 0, true⟩ lineFeed = (none, start max) := rfl
  rw [readAll_append, feed_skipping clean, readAll_cons, ended]
  rfl

/-- A line is too long as soon as it has more bytes than it may have. -/
theorem readAll_tooLong
    {body : List UInt8} (clean : lineFeed ∉ body) (long : max < body.length)
    (rest : List UInt8) :
    (start max).readAll (body ++ rest) =
      .tooLong :: readAll ⟨max, [], 0, true⟩ (body ++ rest) := by
  have split : body = body.take max ++ body[max] :: body.drop (max + 1) := by
    rw [← List.drop_eq_getElem_cons long, List.take_append_drop]
  have cleanFront : lineFeed ∉ body.take max := fun inside => clean (List.mem_of_mem_take inside)
  have other : body[max] ≠ lineFeed := fun same => clean (same ▸ List.getElem_mem long)
  have count : 0 + (body.take max).length = max := by
    rw [Nat.zero_add, List.length_take]
    exact Nat.min_eq_left (Nat.le_of_lt long)
  have kept := feed_kept cleanFront (Nat.le_of_eq count) []
  have passed : feed ⟨max, [], 0, true⟩ (body.take max) = ([], ⟨max, [], 0, true⟩) :=
    feed_skipping cleanFront []
  have excess : push ⟨max, (body.take max).reverse ++ [], max, false⟩ body[max] =
      (some .tooLong, ⟨max, [], 0, true⟩) := by
    simp [push, other, restart, start]
  have skipped : push ⟨max, [], 0, true⟩ body[max] = (none, ⟨max, [], 0, true⟩) := by
    simp [push, other]
  rw [split, List.append_assoc, List.cons_append]
  calc (start max).readAll (body.take max ++ body[max] :: (body.drop (max + 1) ++ rest))
      = .tooLong :: readAll ⟨max, [], 0, true⟩ (body.drop (max + 1) ++ rest) := by
        rw [readAll_append, start, kept, count, readAll_cons, excess]
        rfl
    _ = .tooLong :: readAll ⟨max, [], 0, true⟩
          (body.take max ++ body[max] :: (body.drop (max + 1) ++ rest)) := by
        rw [readAll_append _ (body.take max), passed, readAll_cons, skipped]
        rfl

/-- Bytes that are skipped. -/
theorem readAll_skipping
    {body : List UInt8} (clean : lineFeed ∉ body) (rest : List UInt8) :
    readAll ⟨max, [], 0, true⟩ (body ++ rest) = readAll ⟨max, [], 0, true⟩ rest := by
  rw [readAll_append, feed_skipping clean]
  rfl

/-- The end of a stream in the middle of a line. -/
theorem readAll_unfinished
    {body : List UInt8} (clean : lineFeed ∉ body) (short : body.length ≤ max) :
    (start max).readAll body =
      if body = [] ∨ body = [carriageReturn] then [] else [lineOf body.reverse] := by
  have room : 0 + body.length ≤ max := by
    rwa [Nat.zero_add]
  have kept := feed_kept clean room []
  rw [List.append_nil] at kept
  have lone : body.reverse = [carriageReturn] ↔ body = [carriageReturn] := by
    rw [List.reverse_eq_iff, List.reverse_singleton]
  rw [readAll, start, kept]
  by_cases nothing : body = [] ∨ body = [carriageReturn]
  · simp [finish, nothing, lone]
  · simp [finish, nothing, lone]

end LineReader

open LineReader (lineFeed carriageReturn lineOf)

/-- The greatest size of a line, how many bytes have been searched for a line feed in vain, whether
the rest of a line is skipped, and the bytes that were read and are not used yet. -/
structure LineBuffer where
  max : Nat
  searched : Nat
  skipping : Bool
  bytes : List UInt8
deriving DecidableEq, Repr

namespace LineBuffer

def empty (max : Nat) : LineBuffer :=
  ⟨max, 0, false, []⟩

/-- The number of bytes among which the line feed of a line must be found. -/
def reach (buffer : LineBuffer) : Nat :=
  min (buffer.max + 1) buffer.bytes.length

/-- The place of the next line feed within reach. -/
def lineFeed? (buffer : LineBuffer) : Option Nat :=
  (((buffer.bytes.take buffer.reach).drop buffer.searched).idxOf? lineFeed).map
    (buffer.searched + ·)

/-- Gives up the first bytes. -/
def advance (buffer : LineBuffer) (count : Nat) : LineBuffer :=
  { buffer with searched := 0, bytes := buffer.bytes.drop count }

theorem lt_reach_of_lineFeed?
    {buffer : LineBuffer} {place : Nat} (found : buffer.lineFeed? = some place) :
    place < buffer.reach := by
  rcases Option.map_eq_some_iff.mp found with ⟨offset, known, rfl⟩
  rcases List.idxOf?_eq_some_iff.mp known with ⟨inside, _⟩
  rw [List.length_drop, List.length_take] at inside
  omega

theorem reach_le (buffer : LineBuffer) : buffer.reach ≤ buffer.bytes.length :=
  Nat.min_le_right _ _

/-- What the bytes of the buffer hold: the next line, that a line is too long, or nothing yet. -/
def decode (buffer : LineBuffer) : Option Incoming × LineBuffer :=
  match buffer.skipping, found : buffer.lineFeed? with
  | true, some place => decode { buffer.advance (place + 1) with skipping := false }
  | true, none =>
      if buffer.bytes.length ≤ buffer.reach then (none, buffer.advance buffer.reach)
      else decode (buffer.advance buffer.reach)
  | false, some place =>
      (some (lineOf (buffer.bytes.take place).reverse), buffer.advance (place + 1))
  | false, none =>
      if buffer.max < buffer.bytes.length then (some .tooLong, { buffer with skipping := true })
      else (none, { buffer with searched := buffer.reach })
termination_by buffer.bytes.length
decreasing_by
  · have inside := lt_reach_of_lineFeed? found
    have within := buffer.reach_le
    simp only [advance, List.length_drop]
    omega
  · rename_i more
    have some : 0 < buffer.reach := by
      unfold reach at more ⊢
      omega
    simp only [advance, List.length_drop]
    omega

/-- What the bytes of the buffer hold when the stream has ended.  A lone carriage return is no
line. -/
def decodeEnd (buffer : LineBuffer) : Option Incoming × LineBuffer :=
  match buffer.decode with
  | (some incoming, buffer) => (some incoming, buffer)
  | (none, buffer) =>
      if buffer.bytes = [] ∨ buffer.bytes = [carriageReturn] then
        (none, { buffer with searched := 0 })
      else (some (lineOf buffer.bytes.reverse), { buffer with searched := 0, bytes := [] })

def fill (buffer : LineBuffer) (piece : List UInt8) : LineBuffer :=
  { buffer with bytes := buffer.bytes ++ piece }

/-- The next finding in a stream of which some pieces have not been read yet, `none` at its end. -/
def nextLine (buffer : LineBuffer) (pieces : List (List UInt8)) :
    Option Incoming × LineBuffer × List (List UInt8) :=
  match buffer.decode with
  | (some incoming, buffer) => (some incoming, buffer, pieces)
  | (none, buffer) =>
      match pieces with
      | [] => (buffer.decodeEnd.1, buffer.decodeEnd.2, [])
      | piece :: rest => (buffer.fill piece).nextLine rest

/-- What some calls for the next line give, one after the other. -/
def nextLines (buffer : LineBuffer) (pieces : List (List UInt8)) : Nat → List (Option Incoming)
  | 0 => []
  | calls + 1 =>
      let next := buffer.nextLine pieces
      next.1 :: next.2.1.nextLines next.2.2 calls

/-! ## What a buffer yields -/

/-- The line reader that stands in front of the bytes of a buffer. -/
def reader (buffer : LineBuffer) : LineReader :=
  ⟨buffer.max, [], 0, buffer.skipping⟩

/-- What a buffer is to yield if the stream goes on with some bytes and ends. -/
def ahead (buffer : LineBuffer) (rest : List UInt8) : List Incoming :=
  buffer.reader.readAll (buffer.bytes ++ rest)

/-- The search has not gone beyond its reach, and it has missed nothing. -/
structure Searched (buffer : LineBuffer) : Prop where
  within : buffer.searched ≤ buffer.reach
  clean : lineFeed ∉ buffer.bytes.take buffer.searched

/-- A buffer that holds nothing to yield before it is filled. -/
def Waits (buffer : LineBuffer) : Prop :=
  lineFeed ∉ buffer.bytes ∧ buffer.bytes.length ≤ buffer.max ∧
    (buffer.skipping = true → buffer.bytes = [])

theorem searched_of_zero {buffer : LineBuffer} (unsearched : buffer.searched = 0) :
    buffer.Searched where
  within := unsearched ▸ Nat.zero_le _
  clean := by
    rw [unsearched]
    exact List.not_mem_nil

theorem searched_empty (max : Nat) : (empty max).Searched :=
  searched_of_zero rfl

theorem Searched.fill {buffer : LineBuffer} (searched : buffer.Searched) (piece : List UInt8) :
    (buffer.fill piece).Searched := by
  have within := searched.within
  unfold reach at within
  constructor
  · simp only [LineBuffer.fill, reach, List.length_append]
    omega
  · simp only [LineBuffer.fill]
    rw [List.take_append_of_le_length (by omega)]
    exact searched.clean

/-- The line feed that is found is the first one. -/
theorem Searched.split
    {buffer : LineBuffer} (searched : buffer.Searched) {place : Nat}
    (found : buffer.lineFeed? = some place) :
    lineFeed ∉ buffer.bytes.take place ∧
      buffer.bytes =
        buffer.bytes.take place ++ lineFeed :: buffer.bytes.drop (place + 1) := by
  rcases Option.map_eq_some_iff.mp found with ⟨offset, known, rfl⟩
  rcases List.idxOf?_eq_some_iff.mp known with ⟨inside, here, before⟩
  rw [List.length_drop, List.length_take] at inside
  simp only [List.getElem_drop, List.getElem_take] at here before
  have place : buffer.searched + offset < buffer.bytes.length := by omega
  constructor
  · rw [List.mem_take_iff_getElem]
    rintro ⟨i, bound, same⟩
    rcases Nat.lt_or_ge i buffer.searched with early | late
    · exact searched.clean (List.mem_take_iff_getElem.mpr ⟨i, by omega, same⟩)
    · apply before (i - buffer.searched) (by omega)
      simpa only [Nat.add_sub_cancel' late] using same
  · rw [← here, ← List.drop_eq_getElem_cons place, List.take_append_drop]

theorem Searched.notMem_reach
    {buffer : LineBuffer} (searched : buffer.Searched) (missed : buffer.lineFeed? = none) :
    lineFeed ∉ buffer.bytes.take buffer.reach := by
  have later := List.idxOf?_eq_none_iff.mp (Option.map_eq_none_iff.mp missed)
  have first : (buffer.bytes.take buffer.reach).take buffer.searched =
      buffer.bytes.take buffer.searched := by
    rw [List.take_take, Nat.min_eq_left searched.within]
  rw [← List.take_append_drop buffer.searched (buffer.bytes.take buffer.reach), first,
    List.mem_append]
  exact not_or.mpr ⟨searched.clean, later⟩

/-- What a buffer is to yield is what it yields now and what it is to yield afterwards. -/
structure Yields (buffer : LineBuffer) (result : Option Incoming × LineBuffer) : Prop where
  searched : result.2.Searched
  ahead : ∀ rest, buffer.ahead rest = result.1.toList ++ result.2.ahead rest
  waits : result.1 = none → result.2.Waits

/-- A buffer may give up bytes that yield nothing before it is looked at. -/
theorem Yields.of_ahead
    {buffer before : LineBuffer} {result : Option Incoming × LineBuffer}
    (yields : before.Yields result) (same : ∀ rest, buffer.ahead rest = before.ahead rest) :
    buffer.Yields result :=
  ⟨yields.searched, fun rest => (same rest).trans (yields.ahead rest), yields.waits⟩

theorem ahead_of_skipping
    (buffer : LineBuffer) (skipping : buffer.skipping = true) (rest : List UInt8) :
    buffer.ahead rest = LineReader.readAll ⟨buffer.max, [], 0, true⟩ (buffer.bytes ++ rest) := by
  rw [ahead, reader, skipping]

theorem ahead_of_reading
    (buffer : LineBuffer) (reading : buffer.skipping = false) (rest : List UInt8) :
    buffer.ahead rest = (LineReader.start buffer.max).readAll (buffer.bytes ++ rest) := by
  rw [ahead, reader, reading]
  rfl

/-- Decoding yields what the line reader finds next. -/
theorem Searched.decode {buffer : LineBuffer} (searched : buffer.Searched) :
    buffer.Yields buffer.decode := by
  fun_induction LineBuffer.decode buffer with
  | case1 buffer place found skipping ih =>
      -- The line feed ends the line that is skipped.
      rcases searched.split found with ⟨clean, split⟩
      refine (ih (searched_of_zero rfl)).of_ahead fun rest => ?_
      rw [ahead_of_skipping buffer skipping, split, List.append_assoc, List.cons_append,
        LineReader.readAll_skipped clean]
      rfl
  | case2 buffer missed skipping short =>
      have clean := searched.notMem_reach missed
      have none : (buffer.advance buffer.reach).bytes = [] := List.drop_eq_nil_of_le short
      rw [List.take_of_length_le short] at clean
      refine ⟨searched_of_zero rfl, fun rest => ?_, fun _ => ⟨?_, ?_, fun _ => none⟩⟩
      · rw [ahead_of_skipping buffer skipping, LineReader.readAll_skipping clean,
          ahead_of_skipping (buffer.advance buffer.reach) skipping, none]
        rfl
      · rw [none]
        exact List.not_mem_nil
      · rw [none]
        exact Nat.zero_le _
  | case3 buffer missed skipping long ih =>
      have clean := searched.notMem_reach missed
      refine (ih (searched_of_zero rfl)).of_ahead fun rest => ?_
      rw [ahead_of_skipping buffer skipping, ← List.take_append_drop buffer.reach buffer.bytes,
        List.append_assoc, LineReader.readAll_skipping clean,
        ahead_of_skipping (buffer.advance buffer.reach) skipping]
      rfl
  | case4 buffer place found reading =>
      rcases searched.split found with ⟨clean, split⟩
      have short : (buffer.bytes.take place).length ≤ buffer.max := by
        have within := lt_reach_of_lineFeed? found
        rw [List.length_take]
        unfold reach at within
        omega
      refine ⟨searched_of_zero rfl, fun rest => ?_, nofun⟩
      have line := LineReader.readAll_line clean short (buffer.bytes.drop (place + 1) ++ rest)
      rw [← List.cons_append, ← List.append_assoc, ← split] at line
      rw [ahead_of_reading buffer reading, line,
        ahead_of_reading (buffer.advance (place + 1)) reading]
      rfl
  | case5 buffer missed reading long =>
      have clean := searched.notMem_reach missed
      have excess : buffer.max < (buffer.bytes.take buffer.reach).length := by
        rw [List.length_take]
        unfold reach
        omega
      refine ⟨⟨searched.within, searched.clean⟩, fun rest => ?_, nofun⟩
      rw [ahead_of_reading buffer reading, ahead_of_skipping _ rfl]
      have tooLong := LineReader.readAll_tooLong clean excess
        (buffer.bytes.drop buffer.reach ++ rest)
      rwa [← List.append_assoc, List.take_append_drop] at tooLong
  | case6 buffer missed reading short =>
      have whole : buffer.reach = buffer.bytes.length := by
        unfold reach
        omega
      have clean := searched.notMem_reach missed
      rw [whole, List.take_length] at clean
      refine ⟨⟨Nat.le_refl _, ?_⟩, fun rest => rfl, fun _ => ⟨clean, by simpa using short, ?_⟩⟩
      · rw [whole, List.take_length]
        exact clean
      · simp [reading]

/-- At the end of the stream the unfinished line is left. -/
theorem Waits.ahead_nil {buffer : LineBuffer} (waits : buffer.Waits) :
    buffer.ahead [] =
      if buffer.bytes = [] ∨ buffer.bytes = [carriageReturn] then []
      else [lineOf buffer.bytes.reverse] := by
  rcases waits with ⟨clean, short, nothing⟩
  cases skipping : buffer.skipping with
  | true =>
      rw [ahead_of_skipping buffer skipping, nothing skipping]
      rfl
  | false =>
      rw [ahead_of_reading buffer skipping, List.append_nil,
        LineReader.readAll_unfinished clean short]

theorem ahead_empty (buffer : LineBuffer) :
    ahead { buffer with searched := 0, bytes := [] } [] = [] := by
  simp [ahead, reader, LineReader.readAll, LineReader.feed, LineReader.pushAll,
    LineReader.finish]

theorem Searched.decodeEnd {buffer : LineBuffer} (searched : buffer.Searched) :
    buffer.decodeEnd.2.Searched ∧ buffer.decodeEnd.1 = (buffer.ahead []).head? ∧
      buffer.decodeEnd.2.ahead [] = (buffer.ahead []).tail := by
  have yields := searched.decode
  unfold LineBuffer.decodeEnd
  generalize buffer.decode = decoded at yields ⊢
  have found := yields.ahead []
  rcases decoded with ⟨incoming | incoming, after⟩
  · have left := (yields.waits rfl).ahead_nil
    rw [found, left]
    simp only
    split
    · rename_i nothing
      rw [if_pos nothing] at left
      exact ⟨searched_of_zero rfl, rfl, left⟩
    · exact ⟨searched_of_zero rfl, rfl, ahead_empty after⟩
  · rw [found]
    exact ⟨yields.searched, rfl, rfl⟩

/-- A call for the next line gives the next finding. -/
theorem Searched.nextLine
    {buffer : LineBuffer} (searched : buffer.Searched) (pieces : List (List UInt8)) :
    let next := buffer.nextLine pieces
    let found := buffer.ahead pieces.flatten
    next.2.1.Searched ∧ next.1 = found.head? ∧ next.2.1.ahead next.2.2.flatten = found.tail := by
  induction pieces generalizing buffer with
  | nil =>
      have yields := searched.decode
      unfold LineBuffer.nextLine
      generalize buffer.decode = decoded at yields ⊢
      have found := yields.ahead []
      rcases decoded with ⟨incoming | incoming, after⟩
      · simp only [List.flatten_nil, found, Option.toList_none, List.nil_append]
        exact yields.searched.decodeEnd
      · simp only [List.flatten_nil, found]
        exact ⟨yields.searched, rfl, rfl⟩
  | cons piece rest ih =>
      have yields := searched.decode
      unfold LineBuffer.nextLine
      generalize buffer.decode = decoded at yields ⊢
      have found := yields.ahead (piece :: rest).flatten
      rcases decoded with ⟨incoming | incoming, after⟩
      · have filled : after.ahead (piece :: rest).flatten =
            (after.fill piece).ahead rest.flatten := by
          rw [ahead, List.flatten_cons, ← List.append_assoc]
          rfl
        simp only [found, filled, Option.toList_none, List.nil_append]
        exact ih (yields.searched.fill piece)
      · simp only [found]
        exact ⟨yields.searched, rfl, rfl⟩

/-- Calls give the findings one by one, and nothing when there are no more. -/
theorem Searched.nextLines
    {buffer : LineBuffer} (searched : buffer.Searched) (pieces : List (List UInt8))
    (calls : Nat) :
    buffer.nextLines pieces calls =
      (List.range calls).map fun call => (buffer.ahead pieces.flatten)[call]? := by
  induction calls generalizing buffer pieces with
  | zero =>
      rfl
  | succ calls ih =>
      rcases searched.nextLine pieces with ⟨after, first, rest⟩
      rw [LineBuffer.nextLines, ih after, first, rest, List.range_succ_eq_map, List.map_cons,
        List.map_map, List.head?_eq_getElem?]
      congr 1
      apply List.map_congr_left
      intro call _
      exact List.getElem?_tail

end LineBuffer

/-! ## Streams of text -/

namespace LineReader

/-- A stream consists of some lines with their line feeds, and of a line that it leaves
unfinished. -/
structure Spells (bytes : List UInt8) (lines : List String) (last : String) : Prop where
  bytes :
    bytes = (lines.flatMap fun line => line.toUTF8.toList ++ [lineFeed]) ++ last.toUTF8.toList
  oneLine : ∀ line ∈ lines, '\n' ∉ line.toList
  unfinished : '\n' ∉ last.toList

/-- What a reader finds in the line that a stream leaves unfinished. -/
def readLast (max : Nat) (last : String) : Option Incoming :=
  if last.utf8ByteSize ≤ max then
    if last = "" ∨ last = "\r" then none else some (.line (withoutReturn last))
  else some .tooLong

theorem bytes_eq_nil_or_return (text : String) :
    (text.toUTF8.toList = [] ∨ text.toUTF8.toList = [carriageReturn]) ↔
      text = "" ∨ text = "\r" := by
  have injective : ∀ other : String, text.toUTF8.toList = other.toUTF8.toList ↔ text = other := by
    intro other
    refine ⟨fun same => ?_, fun same => same ▸ rfl⟩
    have read := Text.fromUTF8?_bytes text
    rw [same, Text.fromUTF8?_bytes] at read
    exact (Option.some.inj read).symm
  have nothing : "".toUTF8.toList = [] := by
    rw [Text.bytes_eq]
    rfl
  have lone : "\r".toUTF8.toList = [carriageReturn] := by
    rw [Text.bytes_eq]
    rfl
  rw [← lone, ← nothing, injective, injective]

theorem readAll_last
    {last : String} (unfinished : '\n' ∉ last.toList) (max : Nat) :
    (start max).readAll last.toUTF8.toList = (readLast max last).toList := by
  have clean : lineFeed ∉ last.toUTF8.toList := Text.lineFeed_notMem_bytes unfinished
  have size := Text.length_bytes last
  unfold readLast
  by_cases short : last.utf8ByteSize ≤ max
  · rw [if_pos short, readAll_unfinished clean (size ▸ short), lineOf_text]
    simp only [bytes_eq_nil_or_return]
    split <;> rfl
  · have long : max < last.toUTF8.toList.length := by omega
    have tooLong := readAll_tooLong clean long []
    rw [readAll_skipping clean, List.append_nil] at tooLong
    rw [if_neg short, tooLong]
    rfl

/-- A stream is read line by line. -/
theorem Spells.readAll
    {bytes : List UInt8} {lines : List String} {last : String} (spells : Spells bytes lines last)
    (max : Nat) :
    (start max).readAll bytes = lines.map (readAs max) ++ (readLast max last).toList := by
  rw [spells.bytes, readAll_append, feed_texts spells.oneLine, readAll_last spells.unfinished]

/--
However a stream of text is cut into pieces, a reader of lines of at most `max` bytes finds in it
each of its lines that is short enough, without a carriage return at its end, one report for each
line that is too long, and at the end the unfinished line in the same way, unless it is empty or a
lone carriage return.  A buffer yields the same findings one by one, and then nothing.
-/
theorem pieces_yield_lines
    {pieces : List (List UInt8)} {lines : List String} {last : String}
    (spells : Spells pieces.flatten lines last) (max : Nat) :
    let found := lines.map (readAs max) ++ (readLast max last).toList
    (start max).readPieces pieces = found ∧
      ∀ calls, (LineBuffer.empty max).nextLines pieces calls =
        (List.range calls).map fun call => found[call]? := by
  intro found
  have whole : (start max).readAll pieces.flatten = found := spells.readAll max
  refine ⟨(readPieces_eq _ pieces).trans whole, fun calls => ?_⟩
  have yields := (LineBuffer.searched_empty max).nextLines pieces calls
  rw [yields, ← whole]
  rfl

/-- Pieces that end between a carriage return and its line feed, within a line that is too long and
within characters. -/
theorem cut_pieces_yield_lines :
    let pieces : List (List UInt8) :=
      [[97, 98, 13], [10, 110, 97, 195], [175, 118, 101, 10, 195], [169, 13]]
    Spells pieces.flatten ["ab\r", "naïve"] "é\r" ∧
      (LineBuffer.empty 3).nextLines pieces 4 =
        [some (.line "ab"), some .tooLong, some (.line "é"), none] := by
  intro pieces
  have spells : Spells pieces.flatten ["ab\r", "naïve"] "é\r" :=
    ⟨by decide +kernel, by decide, by decide⟩
  exact ⟨spells, ((pieces_yield_lines spells 3).2 4).trans (by decide +kernel)⟩

end LineReader

end SessionBus
