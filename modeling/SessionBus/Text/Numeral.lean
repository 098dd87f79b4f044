/-!
# Decimal numerals

A numeral is one or more ASCII digits, with at most one plus sign in front.  Leading zeros do not
change its value and its length is not limited, but its value has to stay below a bound that the
reader of the numeral states.
-/

namespace SessionBus.Text

/-- The least number that a signed word of 64 bits has no room for. -/
def int64Bound : Nat := 9223372036854775808

/-- The least number that a signed word of 32 bits has no room for. -/
def int32Bound : Nat := 2147483648

def digit? (c : Char) : Option Nat :=
  if '0' ≤ c ∧ c ≤ '9' then some (c.toNat - '0'.toNat) else none

def hexDigit? (c : Char) : Option Nat :=
  if '0' ≤ c ∧ c ≤ '9' then some (c.toNat - '0'.toNat)
  else if 'a' ≤ c ∧ c ≤ 'f' then some (c.toNat - 'a'.toNat + 10)
  else if 'A' ≤ c ∧ c ≤ 'F' then some (c.toNat - 'A'.toNat + 10)
  else none

/--
Appends the digits of a text to a number already read.  The result is `none` at a character that
is no digit, and as soon as the number reaches the bound, since further digits never lower it.
-/
def appendDigits? (bound value : Nat) : List Char → Option Nat
  | [] => some value
  | c :: rest =>
    match digit? c with
    | some d =>
      if value * 10 + d < bound then appendDigits? bound (value * 10 + d) rest else none
    | none => none

/-- The value of a non-empty run of digits, provided that it is below `bound`. -/
def digits? (bound : Nat) : List Char → Option Nat
  | [] => none
  | c :: rest => appendDigits? bound 0 (c :: rest)

def dropPlus : List Char → List Char
  | '+' :: rest => rest
  | text => text

/-- The value of a numeral, provided that it is below `bound`. -/
def numeral? (bound : Nat) (text : List Char) : Option Nat :=
  digits? bound (dropPlus text)

/-- The value of a numeral that may have a minus sign in front, provided that its absolute value is
below `bound`. -/
def integer? (bound : Nat) : List Char → Option Int
  | '-' :: rest => (digits? bound rest).map fun n => -(n : Int)
  | text => (numeral? bound text).map Int.ofNat

end SessionBus.Text
