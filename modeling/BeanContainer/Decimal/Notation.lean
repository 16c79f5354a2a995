import BeanContainer.Decimal.Shortest
import BeanContainer.Text.Casing

/-!
# Numbers as text

How double-precision numbers are written, and how decimals are read as such numbers. A number is
written by its shortest decimal, never with an exponent; the sign of zero is kept.
-/

namespace BeanContainer.Binary64

def signText (negative : Bool) : String := if negative then "-" else ""

/-- The number as a property's text. -/
def text (x : Binary64) : String :=
  match x.value with
  | .nan => "NaN"
  | .infinite negative => signText negative ++ "inf"
  | .finite negative 0 _ => signText negative ++ "0"
  | .finite negative m e => signText negative ++ String.ofList (Digits.shortest m e).positional

/-- The number as a document's text: integers keep a fractional part. -/
def documentText (x : Binary64) : String :=
  match x.value with
  | .nan => "nan"
  | .infinite negative => signText negative ++ "inf"
  | .finite negative 0 _ => signText negative ++ "0.0"
  | .finite negative m e =>
    let d := Digits.shortest m e
    signText negative ++ String.ofList d.positional ++ (if d.isInteger then ".0" else "")

def digitsValue (cs : List Char) : Nat := cs.foldl (fun n c => 10 * n + (c.toNat - 48)) 0

def isDigit (c : Char) : Bool := '0' ≤ c && c ≤ '9'

/-- The number nearest to `mantissa * 10 ^ exponent`. Exponents so great or small that the outcome
is clear are not computed with. -/
def ofDecimal (negative : Bool) (mantissa : Nat) (exponent : Int) : Binary64 :=
  if mantissa = 0 then withSign negative 0
  else if 400 < exponent then infinity negative
  else if exponent + (Nat.toDigits 10 mantissa).length < -400 then withSign negative 0
  else ofRatio negative (mantissa * Nat.pow 10 exponent.toNat) (Nat.pow 10 (-exponent).toNat)

/-- Reads an exponent: a sign, which may be left out, and digits. -/
def exponent? (cs : List Char) : Option Int :=
  let (sign, ds) : Int × List Char :=
    match cs with
    | '+' :: ds => (1, ds)
    | '-' :: ds => (-1, ds)
    | ds => (1, ds)
  if ds.isEmpty || !ds.all isDigit then none else some (sign * digitsValue ds)

/-- Reads an unsigned decimal: digits, of which there is at least one before or after the point,
and perhaps an exponent. -/
def unsigned? (negative : Bool) (cs : List Char) : Option Binary64 :=
  let whole := cs.takeWhile isDigit
  let rest := cs.dropWhile isDigit
  let (fraction, rest) :=
    match rest with
    | '.' :: rest => (rest.takeWhile isDigit, rest.dropWhile isDigit)
    | rest => ([], rest)
  if whole.isEmpty && fraction.isEmpty then none
  else
    let finish := fun (e : Int) =>
      ofDecimal negative (digitsValue (whole ++ fraction)) (e - fraction.length)
    match rest with
    | [] => some (finish 0)
    | c :: rest => if c = 'e' ∨ c = 'E' then (exponent? rest).map finish else none

/-- Reads a number: a decimal or, in any case of letters, a name of infinity or of no number, with
a sign that may be left out. -/
def ofText? (s : String) : Option Binary64 :=
  let (negative, cs) :=
    match s.toList with
    | '-' :: cs => (true, cs)
    | '+' :: cs => (false, cs)
    | cs => (false, cs)
  match String.ofList (cs.map Text.asciiLower) with
  | "inf" | "infinity" => some (infinity negative)
  | "nan" => some (if negative then withSign true nan.bits.toNat else nan)
  | _ => unsigned? negative cs

end BeanContainer.Binary64
