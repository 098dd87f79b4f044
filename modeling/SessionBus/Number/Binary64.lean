import SessionBus.Text.Numeral

/-!
# Binary64 numbers

The finite numbers of the 64-bit binary floating-point format, kept as an exact product
`(-1)^negative * significand * 2^exponent`, and the rounding of an exact quotient to the nearest of
them, ties going to the even significand.

The representation is unique up to the sign of zero: a significand has 53 bits unless the exponent
is already the least one.
-/

namespace SessionBus

def Binary64.hiddenBit : Nat := 4503599627370496

/-- The least number that takes more than 53 bits. -/
def Binary64.significandBound : Nat := 9007199254740992

/-- The significand and exponent that the format has room for. -/
def Binary64.IsNormal (significand : Nat) (exponent : Int) : Prop :=
  significand < Binary64.significandBound ∧ -1074 ≤ exponent ∧ exponent ≤ 971 ∧
    (Binary64.hiddenBit ≤ significand ∨ exponent = -1074)

instance (significand : Nat) (exponent : Int) :
    Decidable (Binary64.IsNormal significand exponent) := by
  unfold Binary64.IsNormal
  infer_instance

/-- A finite binary64 number. -/
structure Binary64 where
  negative : Bool
  significand : Nat
  exponent : Int
  normal : Binary64.IsNormal significand exponent
deriving DecidableEq, Repr

namespace Binary64

def zero (negative : Bool) : Binary64 where
  negative := negative
  significand := 0
  exponent := -1074
  normal := by decide

instance : Inhabited Binary64 := ⟨zero false⟩

/-- Whether the number is zero, of either sign. -/
def isZero (x : Binary64) : Bool :=
  x.significand == 0

/-- The quotient of two naturals rounded to the nearest natural, a half going to the even one. -/
def roundQuotient (num den : Nat) : Nat :=
  let floor := num / den
  let excess := 2 * (num % den)
  if den < excess ∨ (excess = den ∧ floor % 2 = 1) then floor + 1 else floor

/-- The numerator and denominator of `num / den / 2^exponent`. -/
def shifted (num den : Nat) (exponent : Int) : Nat × Nat :=
  match exponent with
  | .ofNat e => (num, den * Nat.pow 2 e)
  | .negSucc e => (num * Nat.pow 2 (e + 1), den)

/--
The exponent at which the quotient `num / den` has a significand of 53 bits, but never less than
the least exponent of the format.
-/
def exponentFor (num den : Nat) : Int :=
  let guess := max ((Nat.log2 num : Int) - Nat.log2 den - 53) (-1074)
  let (n, d) := shifted num den guess
  if significandBound * d ≤ n then guess + 1 else guess

/-- The nearest number to `num / den` with the given sign; `none` when it is out of range. -/
def ofQuotient? (negative : Bool) (num den : Nat) : Option Binary64 :=
  if num = 0 then some (zero negative)
  else
    let exponent := exponentFor num den
    let (n, d) := shifted num den exponent
    let significand := roundQuotient n d
    let (significand, exponent) :=
      if significand = significandBound then (hiddenBit, exponent + 1) else (significand, exponent)
    if normal : IsNormal significand exponent then
      some ⟨negative, significand, exponent, normal⟩
    else none

/-- The nearest number to an integer; `none` when it is out of range. -/
def ofInt? (n : Int) : Option Binary64 :=
  ofQuotient? (n < 0) n.natAbs 1

/-- The absolute value as an exact quotient. -/
def quotient (x : Binary64) : Nat × Nat :=
  match x.exponent with
  | .ofNat e => (x.significand * Nat.pow 2 e, 1)
  | .negSucc e => (x.significand, Nat.pow 2 (e + 1))

def mul? (x y : Binary64) : Option Binary64 :=
  let (n, d) := x.quotient
  let (m, e) := y.quotient
  ofQuotient? (x.negative != y.negative) (n * m) (d * e)

/-- The rounded quotient of a number by one that is not zero. -/
def div? (x y : Binary64) : Option Binary64 :=
  let (n, d) := x.quotient
  let (m, e) := y.quotient
  if m = 0 then none else ofQuotient? (x.negative != y.negative) (n * e) (d * m)

/-- The rounded power of ten with an exponent up to 308. -/
def powerOfTen (exponent : Nat) : Binary64 :=
  (ofQuotient? false (Nat.pow 10 exponent) 1).getD (zero false)

/--
`x * 10^exponent` computed in steps of at most 308 decimal places, each rounded: a positive
exponent beyond one step is out of range unless `x` is zero, and a negative one divides by
`10^308` until the rest is one step or nothing is left.
-/
def scaleByTen? (x : Binary64) : (exponent : Int) → Option Binary64
  | .ofNat e =>
    if e ≤ 308 then x.mul? (powerOfTen e) else if x.isZero then some x else none
  | .negSucc e => down x (e + 1) (e / 308 + 1)
where
  down (x : Binary64) (places : Nat) : (steps : Nat) → Option Binary64
    | 0 => x.div? (powerOfTen places)
    | steps + 1 =>
      if places ≤ 308 then x.div? (powerOfTen places)
      else if x.isZero then some x
      else do down (← x.div? (powerOfTen 308)) (places - 308) steps

/-- The nearest number to `significand * 10^exponent`; `none` when it is out of range. -/
def ofDecimal? (negative : Bool) (significand : Nat) : (exponent : Int) → Option Binary64
  | .ofNat e => ofQuotient? negative (significand * Nat.pow 10 e) 1
  | .negSucc e => ofQuotient? negative significand (Nat.pow 10 (e + 1))

/-- The exponent that a text gives: nothing at all, or a mark and an integer. -/
def exponentOf? : List Char → Option Int
  | [] => some 0
  | mark :: rest => if mark = 'e' ∨ mark = 'E' then Text.integer? Text.int32Bound rest else none

/-- The digits after the point of a text, if it goes on with a point, and the rest of the text. -/
def fractionOf : List Char → List Char × List Char
  | '.' :: rest =>
    let digits := rest.takeWhile fun c => (Text.digit? c).isSome
    (digits, rest.drop digits.length)
  | text => ([], text)

/-- The number nearest to a decimal without a sign: digits with at most one point among them, and
perhaps an exponent. -/
def ofUnsigned? (negative : Bool) (text : List Char) : Option Binary64 := do
  let whole := text.takeWhile fun c => (Text.digit? c).isSome
  let (part, rest) := fractionOf (text.drop whole.length)
  let exponent ← exponentOf? rest
  let digits ← Text.digits? (Nat.pow 10 (whole.length + part.length)) (whole ++ part)
  ofDecimal? negative digits (exponent - part.length)

def ofText? (text : String) : Option Binary64 :=
  match text.toList with
  | '-' :: rest => ofUnsigned? true rest
  | '+' :: rest => ofUnsigned? false rest
  | rest => ofUnsigned? false rest

end Binary64

end SessionBus
