import SessionBus.Json.Fault

/-!
# Reading JSON text

A reader takes what is left of a text and gives a result with what is left after it, or a fault.
`readJson` reads one document; the readers below it read names, numbers, strings and the separators
of arrays and objects, and are shared by the readers of typed records.

Loops are bounded by the text itself: they carry a list that has at least as many characters as
are left, and take one from it in every round.  Nesting is bounded by a number of levels.
-/

namespace SessionBus.Json

/-- A reader of a result at the start of a text. -/
abbrev Reader (α : Type) := List Char → Except Fault (α × List Char)

def isSpace (c : Char) : Bool :=
  c == ' ' || c == '\n' || c == '\t' || c == '\r'

def skipSpace (text : List Char) : List Char :=
  text.dropWhile isSpace

def isDigit (c : Char) : Bool :=
  '0' ≤ c && c ≤ '9'

def digitValue (c : Char) : Nat :=
  c.toNat - '0'.toNat

def skipDigits (text : List Char) : List Char :=
  text.dropWhile isDigit

/-- Reads the rest of a word whose first letter is already known. -/
def readIdent : (expected : List Char) → Reader Unit
  | [], text => .ok ((), text)
  | _ :: _, [] => .error (.here .endInValue [])
  | e :: expected, c :: rest =>
    if c = e then readIdent expected rest else .error (.next .expectedIdent (c :: rest))

/-! ## Numbers -/

/-- The first natural beyond the significands that are kept. -/
def significandBound : Nat := UInt64.size

/--
Appends digits to a significand while it stays below the bound; with it come the number of digits
taken and the rest of the text.
-/
def takeDigits (significand count : Nat) : List Char → Nat × Nat × List Char
  | [] => (significand, count, [])
  | c :: rest =>
    if isDigit c ∧ significand * 10 + digitValue c < significandBound then
      takeDigits (significand * 10 + digitValue c) (count + 1) rest
    else (significand, count, c :: rest)

/-- The number of a significand scaled by a power of ten, out of range at `rest`. -/
def finishFloat (negative : Bool) (significand : Nat) (exponent : Int) : Reader Number :=
  fun rest =>
    match (Binary64.ofQuotient? negative significand 1).bind (·.scaleByTen? exponent) with
    | some x => .ok (.float x, rest)
    | none => .error (.here .numberOutOfRange rest)

/-- The bound of written exponents; a longer one counts as infinite. -/
def exponentBound : Nat := Text.int32Bound

/-- Appends digits to an exponent; the third part tells whether it reached the bound. -/
def takeExponent (exponent : Nat) : List Char → Nat × Bool × List Char
  | [] => (exponent, false, [])
  | c :: rest =>
    if isDigit c then
      if exponent * 10 + digitValue c < exponentBound then
        takeExponent (exponent * 10 + digitValue c) rest
      else (exponent, true, rest)
    else (exponent, false, c :: rest)

def takeSign : List Char → Bool × List Char
  | '+' :: rest => (false, rest)
  | '-' :: rest => (true, rest)
  | text => (false, text)

/-- Reads what follows the letter of an exponent. -/
def readExponent (negative : Bool) (significand : Nat) (start : Int) : Reader Number :=
  fun text =>
    let (down, text) := takeSign text
    match text with
    | [] => .error (.here .endInValue [])
    | c :: rest =>
      if isDigit c then
        let (exponent, endless, rest) := takeExponent (digitValue c) rest
        if endless then
          if significand ≠ 0 ∧ !down then .error (.here .numberOutOfRange rest)
          else .ok (.float (.zero negative), skipDigits rest)
        else
          let exponent := if down then start - exponent else start + exponent
          finishFloat negative significand exponent rest
      else .error (.next .invalidNumber (c :: rest))

/-- Reads the exponent if there is one. -/
def readScale (negative : Bool) (significand : Nat) (exponent : Int) : Reader Number
  | 'e' :: rest => readExponent negative significand exponent rest
  | 'E' :: rest => readExponent negative significand exponent rest
  | text => finishFloat negative significand exponent text

/-- Reads what follows a decimal point; digits that do not fit the significand are ignored. -/
def readFraction (negative : Bool) (significand : Nat) (exponent : Int) : Reader Number :=
  fun text =>
    match text with
    | [] => .error (.next .endInValue [])
    | c :: _ =>
      if isDigit c then
        let (significand, count, rest) := takeDigits significand 0 text
        readScale negative significand (exponent - count) (skipDigits rest)
      else .error (.next .invalidNumber text)

/-- Reads what follows the integer part of a number. -/
def readTail (negative : Bool) (significand : Nat) : Reader Number
  | '.' :: rest => readFraction negative significand 0 rest
  | 'e' :: rest => readExponent negative significand 0 rest
  | 'E' :: rest => readExponent negative significand 0 rest
  | text =>
    if !negative then .ok (.integer significand, text)
    else if significand = 0 ∨ Text.int64Bound < significand then
      finishFloat true significand 0 text
    else .ok (.integer (-significand), text)

/-- Reads what follows an integer part that is too long for the significand. -/
def readLongTail (negative : Bool) (significand : Nat) (text : List Char) :
    Except Fault (Number × List Char) :=
  let rest := skipDigits text
  let exponent : Int := (text.length - rest.length : Nat)
  match rest with
  | '.' :: rest => readFraction negative significand exponent rest
  | rest => readScale negative significand exponent rest

/-- Reads a number without its minus sign. -/
def readUnsigned (negative : Bool) : Reader Number
  | [] => .error (.here .endInValue [])
  | c :: rest =>
    if c = '0' then
      match rest with
      | [] => readTail negative 0 []
      | d :: more =>
        if isDigit d then .error (.next .invalidNumber rest) else readTail negative 0 (d :: more)
    else if isDigit c then
      let (significand, _, rest) := takeDigits (digitValue c) 1 rest
      match rest with
      | [] => readTail negative significand []
      | d :: more =>
        if isDigit d then readLongTail negative significand (d :: more)
        else readTail negative significand (d :: more)
    else .error (.next .invalidNumber (c :: rest))

def readNumber : Reader Number
  | '-' :: rest => readUnsigned true rest
  | text => readUnsigned false text

/-! ## Strings -/

/-- The value of four hexadecimal digits. -/
def hexUnit? (a b c d : Char) : Option Nat := do
  let high := (← Text.hexDigit? a) * 16 + (← Text.hexDigit? b)
  return (high * 16 + (← Text.hexDigit? c)) * 16 + (← Text.hexDigit? d)

/--
Reads the four digits of an escape.  The digits are counted in bytes: a text that has fewer bytes
left ends inside the string, and otherwise four bytes are consumed even if they are no digits.
-/
def readHexUnit : Reader Nat := fun text =>
  if (text.take 4).foldl (fun size c => size + c.utf8Size) 0 < 4 then
    .error (.here .endInString [])
  else
    match text with
    | a :: b :: c :: d :: rest =>
      match hexUnit? a b c d with
      | some unit => .ok (unit, rest)
      | none => .error (.placed .invalidEscape ⟨text, 4⟩)
    | _ => .error (.placed .invalidEscape ⟨text, 4⟩)

/-- Reads one expected character of the second half of a surrogate pair. -/
def readPairMark (mark : Char) : Reader Unit
  | [] => .error (.here .endInString [])
  | c :: rest => if c = mark then .ok ((), rest) else .error (.next .endInHexEscape (c :: rest))

/-- Reads what follows the letter of a Unicode escape: one unit, or a pair of surrogates. -/
def readUnicodeEscape : Reader Char := fun text => do
  let (unit, text) ← readHexUnit text
  if 0xdc00 ≤ unit ∧ unit ≤ 0xdfff then
    .error (.here .loneSurrogate text)
  else if unit < 0xd800 ∨ 0xdbff < unit then
    return (Char.ofNat unit, text)
  else
    let ((), text) ← readPairMark '\\' text
    let ((), text) ← readPairMark 'u' text
    let (low, text) ← readHexUnit text
    if low < 0xdc00 ∨ 0xdfff < low then
      .error (.here .loneSurrogate text)
    else
      return (Char.ofNat ((unit - 0xd800) * 0x400 + (low - 0xdc00) + 0x10000), text)

/-- Reads what follows the backslash of an escape. -/
def readEscape : Reader Char
  | [] => .error (.here .endInString [])
  | '"' :: rest => .ok ('"', rest)
  | '\\' :: rest => .ok ('\\', rest)
  | '/' :: rest => .ok ('/', rest)
  | 'b' :: rest => .ok ('\x08', rest)
  | 'f' :: rest => .ok ('\x0c', rest)
  | 'n' :: rest => .ok ('\n', rest)
  | 'r' :: rest => .ok ('\r', rest)
  | 't' :: rest => .ok ('\t', rest)
  | 'u' :: rest => readUnicodeEscape rest
  | c :: rest => .error (.next .invalidEscape (c :: rest))

/-- Reads a string after its opening quote, appending to what has been read of it. -/
def readStringFrom (clock : List Char) (read : String) : Reader String := fun text =>
  match clock, text with
  | _, [] => .error (.here .endInString [])
  | [], _ => .error (.here .endInString [])
  | _ :: clock, c :: rest =>
    if c = '"' then .ok (read, rest)
    else if c = '\\' then
      match readEscape rest with
      | .ok (c, rest) => readStringFrom clock (read.push c) rest
      | .error fault => .error fault
    else if c.toNat < 0x20 then .error (.next .controlCharacter (c :: rest))
    else readStringFrom clock (read.push c) rest

/-- Reads a string after its opening quote. -/
def readString : Reader String := fun text =>
  readStringFrom text "" text

/-! ## Arrays and objects -/

/--
Looks for the next item of an array: `true` with the text of the item, or `false` at the closing
bracket, which stays.
-/
def nextItem (first : Bool) : Reader Bool := fun text =>
  match skipSpace text with
  | [] => .error (.next .endInList [])
  | c :: rest =>
    if c = ']' then .ok (false, c :: rest)
    else if first then .ok (true, c :: rest)
    else if c = ',' then
      match skipSpace rest with
      | [] => .error (.next .endInValue [])
      | d :: more =>
        if d = ']' then .error (.next .trailingComma (d :: more)) else .ok (true, d :: more)
    else .error (.next .expectedListCommaOrEnd (c :: rest))

/--
Looks for the next member of an object: its name with the text after the closing quote, or nothing
at the closing brace, which stays.
-/
def nextName (first : Bool) : Reader (Option String) := fun text =>
  match skipSpace text with
  | [] => .error (.next .endInObject [])
  | c :: rest =>
    if c = '\x7d' then .ok (none, c :: rest)
    else if first then quotedName (c :: rest)
    else if c = ',' then
      match skipSpace rest with
      | [] => .error (.next .endInValue [])
      | d :: more =>
        if d = '\x7d' then .error (.next .trailingComma (d :: more)) else quotedName (d :: more)
    else .error (.next .expectedObjectCommaOrEnd (c :: rest))
where
  quotedName : Reader (Option String)
    | '"' :: rest => do
      let (name, rest) ← readString rest
      return (some name, rest)
    | text => .error (.next .keyMustBeString text)

/-- Reads the colon between a name and its value. -/
def readColon : Reader Unit := fun text =>
  match skipSpace text with
  | [] => .error (.next .endInObject [])
  | ':' :: rest => .ok ((), rest)
  | text => .error (.next .expectedColon text)

/-- The end of an array: the text after the bracket, or a cause with the text where it arises. -/
def closeArray (text : List Char) : Option Cause × List Char :=
  match skipSpace text with
  | [] => (some .endInList, [])
  | ']' :: rest => (none, rest)
  | ',' :: rest =>
    let rest := skipSpace rest
    (some (if rest.head? = some ']' then .trailingComma else .trailingCharacters), rest)
  | text => (some .trailingCharacters, text)

/-- The end of an object: the text after the brace, or a cause with the text where it arises. -/
def closeObject (text : List Char) : Option Cause × List Char :=
  match skipSpace text with
  | [] => (some .endInObject, [])
  | '\x7d' :: rest => (none, rest)
  | ',' :: rest => (some .trailingComma, ',' :: rest)
  | text => (some .trailingCharacters, text)

/--
Reads what stands between two brackets, the text starting at the opening one.  A fault inside that
has no spot gets the place after the closing bracket, or where that bracket is missing.
-/
def enclosed {α : Type} (levels : Nat) (close : List Char → Option Cause × List Char)
    (body : Nat → Reader α) : Reader α := fun text =>
  match levels with
  | 0 => .error (.next .recursionLimit text)
  | levels + 1 =>
    match body levels (text.drop 1) with
    | .ok (result, rest) =>
      match close rest with
      | (none, rest) => .ok (result, rest)
      | (some cause, rest) => .error (.next cause rest)
    | .error (.unplaced cause rest) => .error (.here cause (close rest).2)
    | .error fault => .error fault

/--
Reads the items of an array one after the other, each by `item`, which also takes and returns what
has been made of the items before.
-/
def readItems {σ : Type} (item : σ → Reader σ) (clock : List Char) (first : Bool) (made : σ) :
    Reader σ := fun text =>
  match clock with
  | [] => .error (.next .endInList text)
  | _ :: clock =>
    match nextItem first text with
    | .error fault => .error fault
    | .ok (false, rest) => .ok (made, rest)
    | .ok (true, rest) =>
      match item made rest with
      | .error fault => .error fault
      | .ok (made, rest) => readItems item clock false made rest

/--
Reads the members of an object one after the other.  `member` takes the name of a member and what
has been made of the members before; the text it gets starts before the colon.
-/
def readMembers {σ : Type} (member : String → σ → Reader σ) (clock : List Char) (first : Bool)
    (made : σ) : Reader σ := fun text =>
  match clock with
  | [] => .error (.next .endInObject text)
  | _ :: clock =>
    match nextName first text with
    | .error fault => .error fault
    | .ok (none, rest) => .ok (made, rest)
    | .ok (some name, rest) =>
      match member name made rest with
      | .error fault => .error fault
      | .ok (made, rest) => readMembers member clock false made rest

/-- Reads a value that is neither array nor object; of those only the kind is seen. -/
def readHead : Reader Json := fun text =>
  match skipSpace text with
  | [] => .error (.next .endInValue [])
  | c :: rest =>
    if c = 'n' then do
      let ((), rest) ← readIdent ['u', 'l', 'l'] rest
      return (.null, rest)
    else if c = 't' then do
      let ((), rest) ← readIdent ['r', 'u', 'e'] rest
      return (.bool true, rest)
    else if c = 'f' then do
      let ((), rest) ← readIdent ['a', 'l', 's', 'e'] rest
      return (.bool false, rest)
    else if c = '"' then do
      let (value, rest) ← readString rest
      return (.string value, rest)
    else if c = '-' ∨ isDigit c then do
      let (value, rest) ← readNumber (c :: rest)
      return (.number value, rest)
    else if c = '[' then .ok (.array [], c :: rest)
    else if c = '\x7b' then .ok (.object [], c :: rest)
    else .error (.next .expectedValue (c :: rest))

/-- Reads one document in which at most `levels` arrays and objects stand around a value. -/
def readJson (levels : Nat) : Reader Json := fun text =>
  match readHead text with
  | .ok (.array _, rest) =>
    match levels with
    | 0 => .error (.next .recursionLimit rest)
    | levels + 1 => do
      let (items, rest) ← enclosed (levels + 1) closeArray (fun _ text =>
        readItems (fun items text => do
          let (item, rest) ← readJson levels text
          return (item :: items, rest)) text true [] text) rest
      return (.array items.reverse, rest)
  | .ok (.object _, rest) =>
    match levels with
    | 0 => .error (.next .recursionLimit rest)
    | levels + 1 => do
      let (members, rest) ← enclosed (levels + 1) closeObject (fun _ text =>
        readMembers (fun name members text => do
          let ((), rest) ← readColon text
          let (value, rest) ← readJson levels rest
          return ((name, value) :: members, rest)) text true [] text) rest
      return (.object members.reverse, rest)
  | result => result

/-- The number of arrays and objects that may stand around a value. -/
def maxLevels : Nat := 127

/-- Runs a reader on a whole text, after which only white space may be left. -/
def readWhole {α : Type} (reader : Reader α) (text : List Char) : Except Error α :=
  match reader text with
  | .error fault => .error (fault.toError text)
  | .ok (result, rest) =>
    match skipSpace rest with
    | [] => .ok result
    | rest => .error ((Fault.next .trailingCharacters rest).toError text)

def parse (text : String) : Except Error Json :=
  readWhole (readJson maxLevels) text.toList

end SessionBus.Json
