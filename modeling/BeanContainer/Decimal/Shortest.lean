import BeanContainer.Decimal.Binary64

/-!
# Shortest decimals

The decimal that is written for a number has the fewest digits among those that are read back as
the same number, and of several such decimals it is the nearest to the number.

The reals that are read back as a number form an interval, with its ends if the significand is
even. For one digit, two digits and so on, the number's two neighbours among the decimals with that
many digits are tried in exact arithmetic; the first that lies in the interval is taken.
-/

namespace BeanContainer

/-- A positive decimal: `0.d₁d₂… * 10 ^ point`. -/
structure Digits where
  digits : List Nat
  point : Int
  deriving DecidableEq, Repr

namespace Digits

/-- A positive number `num / den` with the interval of the reals that round to it, whose ends are
`low / den` and `high / den`. -/
structure Interval where
  num : Nat
  low : Nat
  high : Nat
  den : Nat
  /-- Whether the ends belong to it. -/
  closed : Bool

/-- The interval of a positive finite number. Below a power of two the neighbour is half as far
away as above it. -/
def Interval.ofFinite (significand : Nat) (exponent : Int) : Interval :=
  let below := if significand = 1 <<< 52 ∧ Binary64.minExponent < exponent then 1 else 2
  let up := exponent.toNat
  let down := (-exponent).toNat
  { num := (4 * significand) <<< up
    low := (4 * significand - below) <<< up
    high := (4 * significand + 2) <<< up
    den := 4 <<< down
    closed := significand % 2 == 0 }

/-- `10 ^ e` as a ratio. -/
def power (e : Int) : Nat × Nat := (Nat.pow 10 e.toNat, Nat.pow 10 (-e).toNat)

/-- Whether the decimal `c * 10 ^ e` lies in the interval. -/
def Interval.contains (i : Interval) (c : Nat) (e : Int) : Bool :=
  let (up, down) := power e
  let x := c * up * i.den
  let low := i.low * down
  let high := i.high * down
  if i.closed then low ≤ x && x ≤ high else low < x && x < high

/-- The greatest `c` for which the decimal `c * 10 ^ e` is not above the number. -/
def Interval.floor (i : Interval) (e : Int) : Nat :=
  let (up, down) := power e
  i.num * down / (i.den * up)

/-- Whether the decimal `(c + 1) * 10 ^ e` is as near to the number as `c * 10 ^ e`, or nearer. -/
def Interval.upperIsNearer (i : Interval) (c : Nat) (e : Int) : Bool :=
  let (up, down) := power e
  (2 * c + 1) * up * i.den ≤ 2 * i.num * down

/-- The neighbour of the number on the grid of multiples of `10 ^ e` that lies in the interval, the
nearer one if both do. -/
def Interval.neighbour? (i : Interval) (e : Int) : Option Nat :=
  let c := i.floor e
  if i.contains c e then
    if i.contains (c + 1) e && i.upperIsNearer c e then some (c + 1) else some c
  else if i.contains (c + 1) e then some (c + 1) else none

/-- An exponent `p` such that the number is less than `10 ^ p` and not less than `10 ^ (p - 2)`. -/
def Interval.pointBound (i : Interval) : Int :=
  let bits : Int := (i.num.log2 : Int) - i.den.log2 + 1
  -- A factor of two is a little more than three tenths of a place.
  bits * 30103 / 100000 + 1

/-- The point of the number: the least `p` with the number less than `10 ^ p`. -/
def Interval.point (i : Interval) : Int :=
  let p := i.pointBound
  if i.floor (p - 1) = 0 then p - 1 else p

/-- The first decimal in the interval on the grids with at least `n` digits. -/
def Interval.search (i : Interval) (p : Int) : Nat → Nat → Nat × Int
  | 0, n => (i.floor (p - n), p - n)
  | fuel + 1, n =>
    match i.neighbour? (p - n) with
    | some c => (c, p - n)
    | none => i.search p fuel (n + 1)

def ofNat (n : Nat) : List Nat := (Nat.toDigits 10 n).map fun c => c.toNat - 48

def dropTrailingZeros (ds : List Nat) : List Nat := (ds.reverse.dropWhile (· == 0)).reverse

/-- The shortest decimal of a positive finite number. Seventeen digits always suffice. -/
def shortest (significand : Nat) (exponent : Int) : Digits :=
  let i := Interval.ofFinite significand exponent
  let (c, e) := i.search i.point 17 1
  let ds := ofNat c
  ⟨dropTrailingZeros ds, e + ds.length⟩

def chars (ds : List Nat) : List Char := ds.map fun d => Char.ofNat (48 + d)

/-- The decimal written out without an exponent, and without a point if it is an integer. -/
def positional (d : Digits) : List Char :=
  let n : Int := d.digits.length
  if d.point ≤ 0 then ['0', '.'] ++ List.replicate (-d.point).toNat '0' ++ chars d.digits
  else if n ≤ d.point then chars d.digits ++ List.replicate (d.point - n).toNat '0'
  else chars (d.digits.take d.point.toNat) ++ '.' :: chars (d.digits.drop d.point.toNat)

def isInteger (d : Digits) : Bool := (d.digits.length : Int) ≤ d.point

end Digits

end BeanContainer
