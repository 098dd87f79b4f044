import SessionBus.Number.Binary64
import SessionBus.Toml.Basic
import SessionBus.Toml.Text

/-!
# Numbers, dates and truth values of TOML

Whole numbers have 64 bits with a sign and may be written to the bases 10, 16, 8 and 2; digits can
be grouped by single underscores.  A date, a time, or both with or without an offset is checked
against the calendar and the clock.
-/

namespace SessionBus.Toml

def digitOf? (base : Nat) (c : Char) : Option Nat :=
  (Text.hexDigit? c).bind fun d => if d < base then some d else none

/-- Whether a character is a digit to some base. -/
def isDigitOf (base : Nat) (c : Char) : Bool :=
  (digitOf? base c).isSome

/-- Reads digits to some base, single underscores between them, with those before in reverse. -/
def readMoreDigits (base : Nat) (done : List Char) : Reader (List Char)
  | [] => some (done.reverse, [])
  | '_' :: c :: rest => if isDigitOf base c then readMoreDigits base (c :: done) rest else none
  | c :: rest =>
    if isDigitOf base c then readMoreDigits base (c :: done) rest
    else some (done.reverse, c :: rest)

def readDigits (base : Nat) : Reader (List Char)
  | [] => none
  | c :: rest => if isDigitOf base c then readMoreDigits base [c] rest else none

/-- The number that digits to some base stand for. -/
def numberOf (base : Nat) (digits : List Char) : Nat :=
  digits.foldl (fun n c => base * n + (digitOf? base c).getD 0) 0

/-- The digits in front of a point or an exponent: a zero, or digits that start with another. -/
def readWhole : Reader (List Char)
  | '0' :: rest => some (['0'], rest)
  | text => readDigits 10 text

/-- A whole number, if it has at most 64 bits. -/
def integer? (negative : Bool) (n : Nat) : Option Node :=
  if negative then (if n ≤ Text.int64Bound then some (.integer (-n)) else none)
  else if n < Text.int64Bound then some (.integer n)
  else none

/-- Drops a sign and tells whether it is a minus. -/
def takeSign : List Char → Bool × List Char
  | '+' :: rest => (false, rest)
  | '-' :: rest => (true, rest)
  | text => (false, text)

/-- The greatest exponent that has to be computed with, whatever stands before it. -/
def exponentLimit (digits : Nat) : Nat :=
  digits + 400

/-- Whether a floating-point number is in range.  Only positive ones are refused. -/
def isInRange (negative : Bool) (digits : List Char) (exponent : Int) : Bool :=
  let significand := numberOf 10 digits
  if negative || significand == 0 || exponent < -(exponentLimit digits.length : Int) then true
  else if (exponentLimit digits.length : Int) < exponent then false
  else (Binary64.ofDecimal? false significand exponent).isSome

/-- Reads the exponent of a number, if there is one. -/
def readExponent : Reader Int
  | c :: rest =>
    if c = 'e' ∨ c = 'E' then do
      let (down, rest) := takeSign rest
      let (digits, rest) ← readDigits 10 rest
      let n := numberOf 10 digits
      return (if down then -n else n, rest)
    else some (0, c :: rest)
  | [] => some (0, [])

/-- Reads what follows the whole part of a number. -/
def readNumberTail (negative : Bool) (whole : List Char) : Reader Node
  | '.' :: rest => do
    let (part, rest) ← readDigits 10 rest
    let (exponent, rest) ← readExponent rest
    if isInRange negative (whole ++ part) (exponent - part.length) then some (.float, rest)
    else none
  | c :: rest =>
    if c = 'e' ∨ c = 'E' then do
      let (exponent, rest) ← readExponent (c :: rest)
      if isInRange negative whole exponent then some (.float, rest) else none
    else (integer? negative (numberOf 10 whole)).map fun node => (node, c :: rest)
  | [] => (integer? negative (numberOf 10 whole)).map fun node => (node, [])

/-- Reads a whole number to a base that is not ten. -/
def readBased (base : Nat) : Reader Node := fun text => do
  let (digits, rest) ← readDigits base text
  let node ← integer? false (numberOf base digits)
  return (node, rest)

def readNumber : Reader Node
  | '0' :: 'x' :: rest => readBased 16 rest
  | '0' :: 'o' :: rest => readBased 8 rest
  | '0' :: 'b' :: rest => readBased 2 rest
  | text =>
    match takeSign text with
    | (_, 'i' :: 'n' :: 'f' :: rest) => some (.float, rest)
    | (_, 'n' :: 'a' :: 'n' :: rest) => some (.float, rest)
    | (negative, text) => do
      let (whole, rest) ← readWhole text
      readNumberTail negative whole rest

/-! ## Dates and times -/

/-- Reads a number of two digits between two bounds. -/
def readPair (least greatest : Nat) : Reader Nat
  | a :: b :: rest => do
    let a ← digitOf? 10 a
    let b ← digitOf? 10 b
    let n := 10 * a + b
    if least ≤ n ∧ n ≤ greatest then some (n, rest) else none
  | _ => none

def readYear : Reader Nat
  | a :: b :: c :: d :: '-' :: rest =>
    if [a, b, c, d].all (isDigitOf 10) then some (numberOf 10 [a, b, c, d], rest) else none
  | _ => none

def isLeapYear (year : Nat) : Bool :=
  year % 4 == 0 && (year % 100 != 0 || year % 400 == 0)

def daysIn (year month : Nat) : Nat :=
  if month = 2 then (if isLeapYear year then 29 else 28)
  else if month = 4 ∨ month = 6 ∨ month = 9 ∨ month = 11 then 30
  else 31

def readChar (expected : Char) : Reader Unit
  | c :: rest => if c = expected then some ((), rest) else none
  | [] => none

/-- Reads the fraction of a second, if there is one. -/
def readFraction : List Char → List Char
  | '.' :: c :: rest =>
    if isDigitOf 10 c then rest.dropWhile (isDigitOf 10) else '.' :: c :: rest
  | text => text

def readTime : Reader Unit := fun text => do
  let (_, rest) ← readPair 0 23 text
  let (_, rest) ← readChar ':' rest
  let (_, rest) ← readPair 0 59 rest
  let (_, rest) ← readChar ':' rest
  let (_, rest) ← readPair 0 60 rest
  return ((), readFraction rest)

def readOffset : Reader Unit
  | c :: rest =>
    if c = 'Z' ∨ c = 'z' then some ((), rest)
    else if c = '+' ∨ c = '-' then do
      let (_, rest) ← readPair 0 23 rest
      let (_, rest) ← readChar ':' rest
      let (_, rest) ← readPair 0 59 rest
      return ((), rest)
    else some ((), c :: rest)
  | [] => some ((), [])

/-- Reads what may follow a date: a mark, a time and an offset. -/
def readTimeOfDate : Reader Unit
  | c :: rest =>
    if c = 'T' ∨ c = 't' ∨ c = ' ' then
      match readTime rest with
      | some (_, rest) => readOffset rest
      | none => some ((), c :: rest)
    else some ((), c :: rest)
  | [] => some ((), [])

def readDate : Reader Node := fun text => do
  let (year, rest) ← readYear text
  let (month, rest) ← readPair 1 12 rest
  let (_, rest) ← readChar '-' rest
  let (_, rest) ← readPair 1 (daysIn year month) rest
  let (_, rest) ← readTimeOfDate rest
  return (.date, rest)

def readNumeric : Reader Node := fun text =>
  match readDate text with
  | some result => some result
  | none =>
    match readTime text with
    | some (_, rest) => some (.date, rest)
    | none => readNumber text

def readWord : Reader Node
  | 't' :: 'r' :: 'u' :: 'e' :: rest => some (.bool true, rest)
  | 'f' :: 'a' :: 'l' :: 's' :: 'e' :: rest => some (.bool false, rest)
  | _ => none

end SessionBus.Toml
