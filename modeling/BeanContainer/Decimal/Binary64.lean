/-!
# Double-precision numbers

A number in the 64-bit binary format, given by its bits. No arithmetic is done on such numbers; they
are read from decimals and written as decimals, so all that is needed is the exact value of a bit
pattern and the pattern that is nearest to a ratio.
-/

namespace BeanContainer

/-- A number in the 64-bit binary format. -/
structure Binary64 where
  bits : UInt64
  deriving DecidableEq, Repr

namespace Binary64

/-- What a bit pattern stands for. A finite number is `significand * 2 ^ exponent`. -/
inductive Value where
  | finite (negative : Bool) (significand : Nat) (exponent : Int)
  | infinite (negative : Bool)
  | nan
  deriving DecidableEq, Repr

/-- The least exponent of a finite number. -/
def minExponent : Int := -1074

/-- The greatest exponent of a finite number with a full significand. -/
def maxExponent : Int := 971

/-- The value of a bit pattern. -/
def value (x : Binary64) : Value :=
  let n := x.bits.toNat
  let negative := n >>> 63 == 1
  let field : Nat := (n >>> 52) % (1 <<< 11)
  let fraction := n % (1 <<< 52)
  if field = 2047 then (if fraction = 0 then .infinite negative else .nan)
  else if field = 0 then .finite negative fraction minExponent
  else .finite negative (1 <<< 52 + fraction) ((field : Int) - 1075)

/-- The pattern with the sign bit set as given. -/
def withSign (negative : Bool) (magnitude : Nat) : Binary64 :=
  ⟨UInt64.ofNat (magnitude + if negative then 1 <<< 63 else 0)⟩

def infinity (negative : Bool) : Binary64 := withSign negative (2047 <<< 52)

/-- The canonical pattern that is no number. -/
def nan : Binary64 := withSign false (2047 <<< 52 + 1 <<< 51)

/-- The quotient rounded to the nearest integer, a half to the even one. -/
def roundDiv (num den : Nat) : Nat :=
  let q := num / den
  let r := num % den
  if 2 * r > den ∨ (2 * r = den ∧ q % 2 = 1) then q + 1 else q

/-- `num / den * 2 ^ (-e)`, rounded to the nearest integer. -/
def scaledRound (num den : Nat) (e : Int) : Nat :=
  if 0 ≤ e then roundDiv num (den <<< e.toNat) else roundDiv (num <<< (-e).toNat) den

/-- An exponent `e` such that `num / den` is at least `2 ^ (e - 1)` and less than `2 ^ (e + 1)`. -/
def binaryExponent (num den : Nat) : Int := (num.log2 : Int) - den.log2

/-- The magnitude bits of a significand and exponent. -/
def magnitude (significand : Nat) (exponent : Int) : Nat :=
  if significand < 1 <<< 52 then significand
  else if maxExponent < exponent then 2047 <<< 52
  else (exponent + 1075).toNat <<< 52 + (significand - 1 <<< 52)

/-- The number nearest to `num / den`, of two equally near ones the one with the even significand;
an infinity, if the ratio is too great. -/
def ofRatio (negative : Bool) (num den : Nat) : Binary64 :=
  if num = 0 then withSign negative 0
  else
    let guess := max (binaryExponent num den - 53) minExponent
    -- The guess is one too low, unless the significand just fits.
    let e := if scaledRound num den guess < 1 <<< 53 then guess else guess + 1
    let m := scaledRound num den e
    if m = 1 <<< 53 then withSign negative (magnitude (1 <<< 52) (e + 1))
    else withSign negative (magnitude m e)

end Binary64

end BeanContainer
