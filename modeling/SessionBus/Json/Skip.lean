import SessionBus.Json.Reader

/-!
# Passing over a value

The value of a member that a record does not know is passed over without being kept.  Its brackets,
separators, words and numbers have to be well formed, but it may be nested to any depth, a number
in it may be out of range, and an escape in it may name half a surrogate pair.
-/

namespace SessionBus.Json

/-- An array or object whose end has not been seen yet. -/
inductive Bracket where
  | array
  | object
deriving DecidableEq, Repr

def Bracket.closer : Bracket → Char
  | .array => ']'
  | .object => '\x7d'

/-- The cause of a text that ends inside a bracket. -/
def Bracket.atEnd : Bracket → Cause
  | .array => .endInList
  | .object => .endInObject

/-- The cause of a text that goes on after a value with something else than a comma. -/
def Bracket.expectedComma : Bracket → Cause
  | .array => .expectedListCommaOrEnd
  | .object => .expectedObjectCommaOrEnd

/-- Passes over an escape after its backslash. -/
def skipEscape : Reader Unit
  | [] => .error (.here .endInString [])
  | c :: rest =>
    if c = 'u' then do
      let (_, rest) ← readHexUnit rest
      return ((), rest)
    else if c = '"' ∨ c = '\\' ∨ c = '/' ∨ c = 'b' ∨ c = 'f' ∨ c = 'n' ∨ c = 'r' ∨ c = 't' then
      .ok ((), rest)
    else .error (.next .invalidEscape (c :: rest))

/-- Passes over a string after its opening quote. -/
def skipString (clock : List Char) : Reader Unit := fun text =>
  match clock, text with
  | _, [] => .error (.here .endInString [])
  | [], _ => .error (.here .endInString [])
  | _ :: clock, c :: rest =>
    if c = '"' then .ok ((), rest)
    else if c = '\\' then
      match skipEscape rest with
      | .ok ((), rest) => skipString clock rest
      | .error fault => .error fault
    else if c.toNat < 0x20 then .error (.here .controlCharacter (c :: rest))
    else skipString clock rest

/-- Passes over the digits that have to follow the letter of an exponent. -/
def skipExponent (text : List Char) : Except Fault (Unit × List Char) :=
  let (_, text) := takeSign text
  match text with
  | [] => .error (.here .invalidNumber [])
  | c :: rest =>
    if isDigit c then .ok ((), skipDigits rest) else .error (.next .invalidNumber (c :: rest))

/-- Passes over an exponent if there is one. -/
def skipScale : Reader Unit
  | 'e' :: rest => skipExponent rest
  | 'E' :: rest => skipExponent rest
  | text => .ok ((), text)

/-- Passes over what follows the integer part of a number. -/
def skipTail : Reader Unit
  | '.' :: rest =>
    if (rest.head?.map isDigit).getD false then skipScale (skipDigits rest)
    else .error (.next .invalidNumber rest)
  | text => skipScale text

/-- Passes over a number without its minus sign. -/
def skipUnsigned : Reader Unit
  | [] => .error (.here .invalidNumber [])
  | c :: rest =>
    if c = '0' then
      if (rest.head?.map isDigit).getD false then .error (.next .invalidNumber rest)
      else skipTail rest
    else if isDigit c then skipTail (skipDigits rest)
    else .error (.next .invalidNumber (c :: rest))

/-- Passes over a value that is neither array nor object; of those the bracket is returned. -/
def skipHead : Reader (Option Bracket) := fun text =>
  match skipSpace text with
  | [] => .error (.next .endInValue [])
  | c :: rest =>
    let scalar (result : Except Fault (Unit × List Char)) :=
      result.map fun (_, rest) => ((none : Option Bracket), rest)
    if c = 'n' then scalar (readIdent ['u', 'l', 'l'] rest)
    else if c = 't' then scalar (readIdent ['r', 'u', 'e'] rest)
    else if c = 'f' then scalar (readIdent ['a', 'l', 's', 'e'] rest)
    else if c = '-' then scalar (skipUnsigned rest)
    else if isDigit c then scalar (skipUnsigned (c :: rest))
    else if c = '"' then scalar (skipString rest rest)
    else if c = '[' then .ok (some .array, rest)
    else if c = '\x7b' then .ok (some .object, rest)
    else .error (.next .expectedValue (c :: rest))

/-- Passes over the name and the colon in front of a value of an object. -/
def skipName : (bracket : Bracket) → Reader Unit
  | .array, text => .ok ((), text)
  | .object, text =>
    match skipSpace text with
    | [] => .error (.next .endInObject [])
    | '"' :: rest => do
      let ((), rest) ← skipString rest rest
      readColon rest
    | text => .error (.next .keyMustBeString text)

/--
Passes over the rest of a value: the next value inside `around` when one is wanted, and otherwise
what follows a value up to the next one or to the end of all brackets.
-/
def skipFrom (clock : List Char) (around : List Bracket) (wanted : Bool) : Reader Unit :=
  fun text =>
    match clock with
    | [] => .error (.next .endInValue text)
    | _ :: clock =>
      if wanted then
        match skipHead text with
        | .error fault => .error fault
        | .ok (none, rest) => skipFrom clock around false rest
        | .ok (some bracket, rest) =>
          match skipSpace rest with
          | [] => .error (.next bracket.atEnd [])
          | c :: rest =>
            if c = bracket.closer then skipFrom clock around false rest
            else
              match skipName bracket (c :: rest) with
              | .error fault => .error fault
              | .ok ((), rest) => skipFrom clock (bracket :: around) true rest
      else
        match around with
        | [] => .ok ((), text)
        | bracket :: outer =>
          match skipSpace text with
          | [] => .error (.next bracket.atEnd [])
          | c :: rest =>
            if c = ',' then
              match skipName bracket rest with
              | .error fault => .error fault
              | .ok ((), rest) => skipFrom clock around true rest
            else if c = bracket.closer then skipFrom clock outer false rest
            else .error (.next bracket.expectedComma (c :: rest))

/-- Passes over one value. -/
def skipValue : Reader Unit := fun text =>
  skipFrom (' ' :: ' ' :: text) [] true text

end SessionBus.Json
