import SessionBus.Number.Binary64

/-!
# The shortest decimal text of a binary64 number

Of all decimals that round back to a number, the shortest ones are taken, of those the nearest, and
of two equally near ones the one with the even last digit.  `Binary64.decimal` finds its digits and
the place of the point; `Binary64.text` writes them, positionally when the point is near and with an
exponent otherwise, and always so that the text cannot be taken for an integer.
-/

namespace SessionBus

/-- A positive decimal `0.d₁d₂…dₙ * 10^point` by its digits read as one natural. -/
structure Decimal where
  digits : Nat
  count : Nat
  point : Int
deriving DecidableEq, Repr

namespace Binary64

/-- The number of decimal digits of a natural; zero has none. -/
def digitCount (n : Nat) : Nat :=
  if n = 0 then 0 else (Nat.toDigits 10 n).length

/-- The place of the point of a positive quotient: the least `p` with `num / den < 10^p`. -/
def pointOf (num den : Nat) : Int :=
  if den ≤ num then digitCount (num / den) else 1 - (digitCount ((den - 1) / num) : Int)

/--
The decimals that round to a number, as an interval of quotients with a common denominator: its
lower end, the number itself and its upper end.  The ends belong to it when the significand is
even.
-/
structure Interval where
  low : Nat
  middle : Nat
  high : Nat
  den : Nat
  closed : Bool

/-- Whether `num / den` lies in the interval. -/
def Interval.contains (range : Interval) (num den : Nat) : Bool :=
  if range.closed then
    range.low * den ≤ num * range.den && num * range.den ≤ range.high * den
  else
    range.low * den < num * range.den && num * range.den < range.high * den

/--
The interval around a number, in quarters of its last place: half a place to both sides, but only a
quarter downwards from a power of two whose lower neighbour is nearer.
-/
def interval (x : Binary64) : Interval :=
  let below := if x.significand = hiddenBit ∧ x.exponent ≠ -1074 then 1 else 2
  let quarters := 4 * x.significand
  let (scale, den) :=
    match x.exponent - 2 with
    | .ofNat e => (Nat.pow 2 e, 1)
    | .negSucc e => (1, Nat.pow 2 (e + 1))
  { low := (quarters - below) * scale
    middle := quarters * scale
    high := (quarters + 2) * scale
    den := den
    closed := x.significand % 2 = 0 }

/-- The decimal of `count` digits nearest to the middle of an interval, if one lies in it. -/
def Interval.decimalOf? (range : Interval) (point : Int) (count : Nat) : Option Nat :=
  let place := point - count
  let (num, den, unit, unitDen) :=
    match place with
    | .ofNat e => (range.middle, range.den * Nat.pow 10 e, Nat.pow 10 e, 1)
    | .negSucc e => (range.middle * Nat.pow 10 (e + 1), range.den, 1, Nat.pow 10 (e + 1))
  let floor := num / den
  let inside (n : Nat) : Bool := range.contains (n * unit) unitDen
  let excess := 2 * (num % den)
  let nearer := if den < excess ∨ (excess = den ∧ floor % 2 = 1) then floor + 1 else floor
  if inside nearer then some nearer
  else
    let other := if nearer = floor then floor + 1 else floor
    if inside other then some other else none

/-- Drops the zeros at the end of a digit string. -/
def dropZeros (digits count : Nat) : Nat × Nat :=
  match count with
  | 0 => (digits, 0)
  | count + 1 => if digits % 10 = 0 then dropZeros (digits / 10) count else (digits, count + 1)

/-- The shortest decimal of a number that is not zero. -/
def decimal (x : Binary64) : Decimal :=
  let range := x.interval
  let point := pointOf range.middle range.den
  let found := (List.range 17).findSome? fun short =>
    (range.decimalOf? point (short + 1)).map fun digits => (digits, short + 1)
  let (digits, count) := found.getD (0, 1)
  let (digits, count, point) :=
    if digits = Nat.pow 10 count then (1, 1, point + 1) else (digits, count, point)
  let (digits, count) := dropZeros digits count
  { digits, count, point }

/-- The text of a positive decimal: positional when `-5 < point ≤ 16`. -/
def Decimal.text (d : Decimal) : List Char :=
  let digits := Nat.toDigits 10 d.digits
  if d.count ≤ d.point ∧ d.point ≤ 16 then
    digits ++ List.replicate (d.point.toNat - d.count) '0' ++ ['.', '0']
  else if 0 < d.point ∧ d.point ≤ 16 then
    digits.take d.point.toNat ++ '.' :: digits.drop d.point.toNat
  else if -5 < d.point ∧ d.point ≤ 0 then
    '0' :: '.' :: List.replicate (-d.point).toNat '0' ++ digits
  else
    let exponent := d.point - 1
    let sign := if exponent < 0 then '-' else '+'
    let fraction := if d.count = 1 then [] else '.' :: digits.drop 1
    digits.take 1 ++ fraction ++ 'e' :: sign :: Nat.toDigits 10 exponent.natAbs

def text (x : Binary64) : List Char :=
  let sign := if x.negative then ['-'] else []
  if x.isZero then sign ++ ['0', '.', '0'] else sign ++ Decimal.text x.decimal

end Binary64

end SessionBus
