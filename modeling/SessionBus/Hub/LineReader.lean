/-!
# Lines from a stream of bytes

A line reader takes bytes as they come and gives out lines.  It never keeps more than one line of
the greatest size: a longer line is reported once, as soon as it is known to be too long, and then
skipped to its line feed.  A carriage return in front of the line feed counts for the size but does
not belong to the line.
-/

namespace SessionBus

/-- What a line reader finds in a stream. -/
inductive Incoming where
  | line (text : String)
  | tooLong
  | notText
deriving DecidableEq, Repr

/-- The greatest size of a line, the bytes of the line so far in reverse with their number, and
whether the line is being skipped. -/
structure LineReader where
  max : Nat
  pending : List UInt8
  count : Nat
  skipping : Bool
deriving DecidableEq, Repr

namespace LineReader

def lineFeed : UInt8 := 10

/-- The byte that may stand in front of a line feed. -/
def carriageReturn : UInt8 := 13

def start (max : Nat) : LineReader :=
  ⟨max, [], 0, false⟩

def restart (reader : LineReader) : LineReader :=
  start reader.max

def lineOf (reversed : List UInt8) : Incoming :=
  let body :=
    match reversed with
    | last :: rest => if last = carriageReturn then rest else reversed
    | [] => []
  match String.fromUTF8? body.reverse.toByteArray with
  | some text => .line text
  | none => .notText

def push (reader : LineReader) (byte : UInt8) : Option Incoming × LineReader :=
  if reader.skipping then
    if byte = lineFeed then (none, reader.restart) else (none, reader)
  else if byte = lineFeed then (some (lineOf reader.pending), reader.restart)
  else if reader.max ≤ reader.count then
    (some .tooLong, { reader.restart with skipping := true })
  else
    (none, { reader with pending := byte :: reader.pending, count := reader.count + 1 })

/-- Takes bytes, with what was found before in reverse. -/
def pushAll (reader : LineReader) (found : List Incoming) :
    List UInt8 → List Incoming × LineReader
  | [] => (found.reverse, reader)
  | byte :: rest =>
    match reader.push byte with
    | (some next, reader) => pushAll reader (next :: found) rest
    | (none, reader) => pushAll reader found rest

/-- What a reader finds in some more bytes. -/
def feed (reader : LineReader) (bytes : List UInt8) : List Incoming × LineReader :=
  reader.pushAll [] bytes

/-- The line that the stream leaves unfinished at its end.  A lone carriage return is no line. -/
def finish (reader : LineReader) : Option Incoming :=
  if reader.skipping || reader.pending.isEmpty || reader.pending == [carriageReturn] then none
  else some (lineOf reader.pending)

end LineReader

end SessionBus
