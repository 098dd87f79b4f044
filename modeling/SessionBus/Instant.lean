import SessionBus.Json.Decoder
import SessionBus.Text.Blank
import SessionBus.Text.Numeral

/-!
# Instants

A point in time by its calendar fields in UTC, with nanoseconds.  The second of a leap second is
kept as a nanosecond count from one milliard upwards.

Instants are read from RFC 3339 text with some tolerance (fewer digits, blanks around the
separators, any offset) and written with the letter `Z` and as many groups of three fraction digits
as they need.
-/

namespace SessionBus

open Json (Decoder Cause)

/-- Whether a year has a 29th of February. -/
def isLeapYear (year : Int) : Bool :=
  year % 4 == 0 && (year % 100 != 0 || year % 400 == 0)

def daysInMonth (year : Int) (month : Nat) : Nat :=
  if month = 2 then (if isLeapYear year then 29 else 28)
  else if month = 4 ∨ month = 6 ∨ month = 9 ∨ month = 11 then 30
  else 31

/-- The fields name a day of the calendar and a time of that day. -/
def Instant.IsValid (year : Int) (month day hour minute second nano : Nat) : Prop :=
  -262143 ≤ year ∧ year ≤ 262142 ∧ 1 ≤ month ∧ month ≤ 12 ∧
    1 ≤ day ∧ day ≤ daysInMonth year month ∧
    hour < 24 ∧ minute < 60 ∧ second < 60 ∧ nano < 2000000000

instance (year : Int) (month day hour minute second nano : Nat) :
    Decidable (Instant.IsValid year month day hour minute second nano) := by
  unfold Instant.IsValid
  infer_instance

/-- A point in time, in UTC. -/
structure Instant where
  year : Int
  month : Nat
  day : Nat
  hour : Nat
  minute : Nat
  second : Nat
  nano : Nat
  valid : Instant.IsValid year month day hour minute second nano
deriving DecidableEq, Repr

/-- Why a text is no instant. -/
inductive InstantError where
  | outOfRange
  | impossible
  | invalid
  | tooShort
  | tooLong
deriving DecidableEq, Repr

def InstantError.message : InstantError → String
  | .outOfRange => "input is out of range"
  | .impossible => "no possible date and time matching input"
  | .invalid => "input contains invalid characters"
  | .tooShort => "premature end of input"
  | .tooLong => "trailing input"

namespace Instant

/-- The start of the year 1970. -/
def epoch : Instant where
  year := 1970
  month := 1
  day := 1
  hour := 0
  minute := 0
  second := 0
  nano := 0
  valid := by decide

instance : Inhabited Instant := ⟨epoch⟩

/-! ## Writing -/

/-- The last `width` digits of a number. -/
def padded (width n : Nat) : List Char :=
  let digits := Nat.toDigits 10 n
  List.replicate (width - digits.length) '0' ++ digits

/-- The year, with a sign when it has not four digits. -/
def yearText (year : Int) : List Char :=
  if 0 ≤ year ∧ year ≤ 9999 then padded 4 year.toNat
  else (if year < 0 then '-' else '+') :: padded 4 year.natAbs

/-- The fraction of a second in as many groups of three digits as it needs. -/
def fractionText (nano : Nat) : List Char :=
  if nano = 0 then []
  else if nano % 1000000 = 0 then '.' :: padded 3 (nano / 1000000)
  else if nano % 1000 = 0 then '.' :: padded 6 (nano / 1000)
  else '.' :: padded 9 nano

def text (t : Instant) : List Char :=
  let leap := 1000000000 ≤ t.nano
  yearText t.year ++ '-' :: padded 2 t.month ++ '-' :: padded 2 t.day ++
    'T' :: padded 2 t.hour ++ ':' :: padded 2 t.minute ++
    ':' :: padded 2 (if leap then t.second + 1 else t.second) ++
    fractionText (if leap then t.nano - 1000000000 else t.nano) ++ ['Z']

/-! ## Reading -/

abbrev Reader (α : Type) := List Char → Except InstantError (α × List Char)

def readDigits (most : Nat) : Reader Nat
  | [] => .error .tooShort
  | c :: rest =>
    let run := ((c :: rest).take most).takeWhile Json.isDigit
    if run.isEmpty then .error .invalid
    else
      let value := run.foldl (fun n c => n * 10 + Json.digitValue c) 0
      if value < Text.int64Bound then .ok (value, (c :: rest).drop run.length)
      else .error .outOfRange

/-- Reads a field of at most two digits whose value lies between two bounds. -/
def readField (least greatest : Nat) : Reader Nat := fun text => do
  let (value, rest) ← readDigits 2 (Text.trimStart text)
  if least ≤ value ∧ value ≤ greatest then return (value, rest) else .error .outOfRange

/-- Reads a year: four digits at most, or any number of them after a sign. -/
def readYear : Reader Int := fun text => do
  let text := Text.trimStart text
  let (value, rest) ← (match text with
    | '-' :: rest => do
      let (value, rest) ← readDigits rest.length rest
      return (-(value : Int), rest)
    | '+' :: rest => do
      let (value, rest) ← readDigits rest.length rest
      return ((value : Int), rest)
    | text => do
      let (value, rest) ← readDigits 4 text
      return ((value : Int), rest))
  if -Text.int32Bound ≤ value ∧ value < Text.int32Bound then return (value, rest)
  else .error .outOfRange

/-- Reads a separator, with blanks in front of it. -/
def readMark (mark : Char) : Reader Unit := fun text =>
  match Text.trimStart text with
  | [] => .error .tooShort
  | c :: rest => if c = mark then .ok ((), rest) else .error .invalid

/-- Reads the mark between the date and the time. -/
def readTimeMark : Reader Unit
  | [] => .error .tooShort
  | c :: rest => if c = 'T' ∨ c = 't' ∨ c = ' ' then .ok ((), rest) else .error .invalid

/-- Reads the fraction of a second if there is one; digits after the ninth do not count. -/
def readFraction : Reader Nat
  | '.' :: rest => do
    let (value, after) ← readDigits 9 rest
    return (value * Nat.pow 10 (9 - (rest.length - after.length)), after.dropWhile Json.isDigit)
  | text => .ok (0, text)

/-- Reads two digits of an offset. -/
def readOffsetPart : Reader (Nat × Nat)
  | a :: b :: rest =>
    if Json.isDigit a ∧ Json.isDigit b then .ok ((Json.digitValue a, Json.digitValue b), rest)
    else .error .invalid
  | [c] => .error (if 1 < c.utf8Size then .invalid else .tooShort)
  | [] => .error .tooShort

/-- Reads an offset after its sign: hours, separators, minutes. -/
def readOffsetAmount : Reader Nat := fun text => do
  let ((h, g), rest) ← readOffsetPart text
  let rest := rest.dropWhile fun c => c == ':' || Text.isBlank c
  let ((m, n), rest) ← readOffsetPart rest
  if 5 < m then .error .outOfRange
  else return ((10 * h + g) * 3600 + (10 * m + n) * 60, rest)

/-- Reads the offset of the local time from UTC in seconds. -/
def readOffset : Reader Int := fun text =>
  match text with
  | [] => .error .tooShort
  | c :: rest =>
    if ((c :: rest).take 3).map Char.toUpper = ['U', 'T', 'C'] then .ok (0, rest.drop 2)
    else if c = 'Z' ∨ c = 'z' then .ok (0, rest)
    else if c = '+' then do
      let (amount, rest) ← readOffsetAmount rest
      return ((amount : Int), rest)
    else if c = '-' ∨ c = '−' then do
      let (amount, rest) ← readOffsetAmount rest
      return (-(amount : Int), rest)
    else .error .invalid

/-- The instant with these fields, if there is one. -/
def ofFields? (year : Int) (month day hour minute second nano : Nat) : Option Instant :=
  if valid : IsValid year month day hour minute second nano then
    some ⟨year, month, day, hour, minute, second, nano, valid⟩
  else none

def dayBefore? (t : Instant) : Option Instant :=
  if 1 < t.day then ofFields? t.year t.month (t.day - 1) t.hour t.minute t.second t.nano
  else if 1 < t.month then
    ofFields? t.year (t.month - 1) (daysInMonth t.year (t.month - 1)) t.hour t.minute t.second
      t.nano
  else ofFields? (t.year - 1) 12 31 t.hour t.minute t.second t.nano

def dayAfter? (t : Instant) : Option Instant :=
  if t.day < daysInMonth t.year t.month then
    ofFields? t.year t.month (t.day + 1) t.hour t.minute t.second t.nano
  else if t.month < 12 then ofFields? t.year (t.month + 1) 1 t.hour t.minute t.second t.nano
  else ofFields? (t.year + 1) 1 1 t.hour t.minute t.second t.nano

/-- The instant of a local time that is `offset` seconds ahead of UTC. -/
def ofLocal? (t : Instant) (offset : Int) : Option Instant := do
  let seconds : Int := (t.hour * 3600 + t.minute * 60 + t.second : Nat) - offset
  let day ← (if seconds < 0 then t.dayBefore? else if 86400 ≤ seconds then t.dayAfter? else some t)
  let rest := (seconds % 86400).toNat
  ofFields? day.year day.month day.day (rest / 3600) (rest / 60 % 60) (rest % 60) t.nano

/-- Reads an instant and leaves the rest of the text. -/
def readFields : Reader (Instant × Int) := fun text => do
  let (year, text) ← readYear text
  let ((), text) ← readMark '-' text
  let (month, text) ← readField 1 12 text
  let ((), text) ← readMark '-' text
  let (day, text) ← readField 1 31 text
  let ((), text) ← readTimeMark text
  let (hour, text) ← readField 0 23 text
  let ((), text) ← readMark ':' text
  let (minute, text) ← readField 0 59 text
  let ((), text) ← readMark ':' text
  let (second, text) ← readField 0 60 text
  let (nano, text) ← readFraction text
  let (offset, text) ← readOffset (Text.trimStart text)
  if !(Text.trimStart text).isEmpty then .error .tooLong
  let (second, nano) := if second = 60 then (59, nano + 1000000000) else (second, nano)
  match ofFields? year month day hour minute second nano with
  | some t => return ((t, offset), text)
  | none => .error .outOfRange

def parse (text : List Char) : Except InstantError Instant := do
  let ((t, offset), _) ← readFields text
  if offset ≤ -86400 ∨ 86400 ≤ offset then .error .outOfRange
  match t.ofLocal? offset with
  | some t => return t
  | none => .error .impossible

def decoder : Decoder Instant :=
  .scalar fun document =>
    match document with
    | .string s => (parse s.toList).mapError fun e => .custom e.message
    | _ => Decoder.wrongType "an RFC 3339 formatted date and time string" document

def toJson (t : Instant) : Json :=
  .string (String.ofList t.text)

end Instant

end SessionBus
