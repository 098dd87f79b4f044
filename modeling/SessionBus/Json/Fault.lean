import SessionBus.Json.Printer
import SessionBus.Text.Quoted

/-!
# What can be wrong with a JSON text

A `Cause` says what was found and what was wanted; its `message` is the wording.  A text that is no
JSON fails with one of the first causes, a document of the wrong shape with one of the last.

A reader that fails also says where: at a `Spot` of the text, which becomes a line and a column
when the whole text is at hand.  Causes that concern a finished part of the text have no spot of
their own until the reader around that part gives them one.
-/

namespace SessionBus.Json

/-- The kind of a value that was found where another was wanted. -/
inductive Found where
  | null
  | boolean (value : Bool)
  | integer (value : Int)
  | float (value : Binary64)
  | text (value : String)
  | sequence
  | map
deriving DecidableEq, Repr

def found : Json → Found
  | .null => .null
  | .bool b => .boolean b
  | .number (.integer n) => .integer n
  | .number (.float x) => .float x
  | .string s => .text s
  | .array _ => .sequence
  | .object _ => .map

/-- The name of a kind, with the value where it is short. -/
def Found.name : Found → String
  | .null => "null"
  | .boolean true => "boolean `true`"
  | .boolean false => "boolean `false`"
  | .integer n => "integer `" ++ String.ofList (Number.text (.integer n)) ++ "`"
  | .float x => "floating point `" ++ String.ofList x.text ++ "`"
  | .text s => "string " ++ Text.quoted s
  | .sequence => "sequence"
  | .map => "map"

/-- Why a text or a document is refused. -/
inductive Cause where
  | endInValue
  | endInObject
  | endInList
  | endInString
  | expectedColon
  | expectedListCommaOrEnd
  | expectedObjectCommaOrEnd
  | expectedIdent
  | expectedValue
  | invalidEscape
  | invalidNumber
  | numberOutOfRange
  | controlCharacter
  | keyMustBeString
  | loneSurrogate
  | endInHexEscape
  | trailingComma
  | trailingCharacters
  | recursionLimit
  | missingField (name : String)
  | duplicateField (name : String)
  | invalidType (found : Found) (expected : String)
  | invalidValue (found : Found) (expected : String)
  | invalidLength (length : Nat) (expected : String)
  | unknownVariant (name : String) (known : List String)
  | custom (text : String)
deriving DecidableEq, Repr

/-- A name between backquotes. -/
def backquoted (name : String) : String :=
  "`" ++ name ++ "`"

def offered : List String → String
  | [] => "there are no variants"
  | [a] => "expected " ++ backquoted a
  | [a, b] => "expected " ++ backquoted a ++ " or " ++ backquoted b
  | names => "expected one of " ++ String.intercalate ", " (names.map backquoted)

def Cause.message : Cause → String
  | .endInValue => "EOF while parsing a value"
  | .endInObject => "EOF while parsing an object"
  | .endInList => "EOF while parsing a list"
  | .endInString => "EOF while parsing a string"
  | .expectedColon => "expected `:`"
  | .expectedListCommaOrEnd => "expected `,` or `]`"
  | .expectedObjectCommaOrEnd => "expected `,` or `\x7d`"
  | .expectedIdent => "expected ident"
  | .expectedValue => "expected value"
  | .invalidEscape => "invalid escape"
  | .invalidNumber => "invalid number"
  | .numberOutOfRange => "number out of range"
  | .controlCharacter => "control character (\\u0000-\\u001F) found while parsing a string"
  | .keyMustBeString => "key must be a string"
  | .loneSurrogate => "lone leading surrogate in hex escape"
  | .endInHexEscape => "unexpected end of hex escape"
  | .trailingComma => "trailing comma"
  | .trailingCharacters => "trailing characters"
  | .recursionLimit => "recursion limit exceeded"
  | .missingField name => "missing field " ++ backquoted name
  | .duplicateField name => "duplicate field " ++ backquoted name
  | .invalidType found expected => "invalid type: " ++ found.name ++ ", expected " ++ expected
  | .invalidValue found expected => "invalid value: " ++ found.name ++ ", expected " ++ expected
  | .invalidLength length expected =>
    "invalid length " ++ String.ofList (Nat.toDigits 10 length) ++ ", expected " ++ expected
  | .unknownVariant name known => "unknown variant " ++ backquoted name ++ ", " ++ offered known
  | .custom text => text

/-- A place in a text: what is left of the text there, and how many bytes further the place is. -/
structure Spot where
  rest : List Char
  ahead : Nat
deriving DecidableEq, Repr

/-- A line, counted from one, and the number of bytes of that line before a place. -/
structure Position where
  line : Nat
  column : Nat
deriving DecidableEq, Repr

namespace Position

def start : Position := ⟨1, 0⟩

def after (place : Position) (c : Char) : Position :=
  if c = '\n' then ⟨place.line + 1, 0⟩ else ⟨place.line, place.column + c.utf8Size⟩

/-- The place a number of bytes further, which may be inside a character. -/
def advance (place : Position) (bytes : Nat) : List Char → Position
  | [] => place
  | c :: rest =>
    if bytes < c.utf8Size then ⟨place.line, place.column + bytes⟩
    else (place.after c).advance (bytes - c.utf8Size) rest

end Position

def Spot.position (text : List Char) (spot : Spot) : Position :=
  let consumed := text.take (text.length - spot.rest.length)
  (consumed.foldl Position.after Position.start).advance spot.ahead spot.rest

/-- The failure of a reader: with a spot, or with what was left of the text when it stopped. -/
inductive Fault where
  | placed (cause : Cause) (spot : Spot)
  | unplaced (cause : Cause) (rest : List Char)
deriving DecidableEq, Repr

namespace Fault

/-- A fault where the reader stands. -/
def here (cause : Cause) (rest : List Char) : Fault :=
  .placed cause ⟨rest, 0⟩

/-- A fault at the next byte, which the reader has looked at or just consumed. -/
def next (cause : Cause) (rest : List Char) : Fault :=
  .placed cause ⟨rest, 1⟩

/-- Gives a fault without a spot the place where its reader stopped. -/
def settle : Fault → Fault
  | .unplaced cause rest => here cause rest
  | fault => fault

end Fault

/-- A refused text or document: the cause and, where there is one, the position. -/
structure Error where
  cause : Cause
  position : Option Position
deriving DecidableEq, Repr

def Fault.toError (text : List Char) : Fault → Error
  | .placed cause spot => ⟨cause, some (spot.position text)⟩
  | .unplaced cause _ => ⟨cause, none⟩

def Error.message (error : Error) : String :=
  match error.position with
  | none => error.cause.message
  | some place =>
    error.cause.message ++ " at line " ++ String.ofList (Nat.toDigits 10 place.line) ++
      " column " ++ String.ofList (Nat.toDigits 10 place.column)

end SessionBus.Json
