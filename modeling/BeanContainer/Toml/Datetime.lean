import BeanContainer.Text.Trim

/-!
# Dates and times

Dates and times of configuration documents: a date, a time of day or both, the latter perhaps with
an offset from universal time.

* `Datetime.read?` recognises one at the start of a text. It decides on the first few characters
  whether one stands there, and then says whether it is a possible one.
* `Datetime.text` writes one in the one form that is used for all.
-/

namespace BeanContainer.Toml

structure Date where
  year : Nat
  month : Nat
  day : Nat
  deriving DecidableEq, Repr

structure Time where
  hour : Nat
  minute : Nat
  second : Nat
  nanosecond : Nat
  deriving DecidableEq, Repr

inductive Offset where
  | universal
  | minutes (n : Int)
  deriving DecidableEq, Repr

/-- A date, a time, or both. -/
inductive Datetime where
  | date (d : Date)
  | time (t : Time)
  | both (d : Date) (t : Time) (offset : Option Offset)
  deriving DecidableEq, Repr

def daysInMonth (year month : Nat) : Nat :=
  if month = 2 then
    (if year % 4 = 0 ∧ (year % 100 ≠ 0 ∨ year % 400 = 0) then 29 else 28)
  else if [4, 6, 9, 11].contains month then 30
  else 31

def Date.isPossible (d : Date) : Bool :=
  1 ≤ d.month && d.month ≤ 12 && 1 ≤ d.day && d.day ≤ daysInMonth d.year d.month

/-! ### Writing -/

/-- A number with at least the given number of digits. -/
def padded (width n : Nat) : String :=
  let ds := Nat.toDigits 10 n
  String.ofList (List.replicate (width - ds.length) '0' ++ ds)

def Date.text (d : Date) : String :=
  padded 4 d.year ++ "-" ++ padded 2 d.month ++ "-" ++ padded 2 d.day

/-- The digits of a fraction of a second, without the zeros at its end. -/
def fractionText (nanosecond : Nat) : String :=
  String.ofList (((padded 9 nanosecond).toList.reverse.dropWhile (· == '0')).reverse)

def Time.text (t : Time) : String :=
  padded 2 t.hour ++ ":" ++ padded 2 t.minute ++ ":" ++ padded 2 t.second ++
    (if t.nanosecond = 0 then "" else "." ++ fractionText t.nanosecond)

def Offset.text : Offset → String
  | universal => "Z"
  | minutes n =>
    (if n < 0 then "-" else "+") ++ padded 2 (n.natAbs / 60) ++ ":" ++ padded 2 (n.natAbs % 60)

def Datetime.text : Datetime → String
  | date d => d.text
  | time t => t.text
  | both d t offset => d.text ++ "T" ++ t.text ++ ((offset.map Offset.text).getD "")

/-! ### Reading -/

def digit? (c : Char) : Option Nat := if '0' ≤ c ∧ c ≤ '9' then some (c.toNat - 48) else none

/-- Reads exactly `n` digits onto a value. -/
def digits? : Nat → Nat → List Char → Option (Nat × List Char)
  | 0, value, cs => some (value, cs)
  | n + 1, value, c :: cs => (digit? c).bind fun d => digits? n (10 * value + d) cs
  | _ + 1, _, [] => none

def sign? (expected : Char) : List Char → Option (List Char)
  | c :: cs => if c = expected then some cs else none
  | [] => none

/-- Reads the rest of a date, after the year and its hyphen. -/
def restOfDate? (year : Nat) (cs : List Char) : Option (Date × List Char) := do
  let (month, cs) ← digits? 2 0 cs
  let cs ← sign? '-' cs
  let (day, cs) ← digits? 2 0 cs
  let d : Date := ⟨year, month, day⟩
  if d.isPossible then some (d, cs) else none

/-- The nanoseconds that the digits after a point stand for. Digits beyond the ninth are dropped. -/
def nanoseconds (ds : List Char) : Nat :=
  let ds := (ds.take 9).filterMap digit?
  ds.foldl (fun n d => 10 * n + d) 0 * Nat.pow 10 (9 - ds.length)

/-- Reads the rest of a time, after the hour and its colon. -/
def restOfTime? (hour : Nat) (cs : List Char) : Option (Time × List Char) := do
  let (minute, cs) ← digits? 2 0 cs
  let cs ← sign? ':' cs
  let (second, cs) ← digits? 2 0 cs
  if 23 < hour ∨ 59 < minute ∨ 60 < second then none
  match cs with
  | '.' :: fraction =>
    let ds := fraction.takeWhile fun c => (digit? c).isSome
    if ds.isEmpty then none
    some (⟨hour, minute, second, nanoseconds ds⟩, fraction.drop ds.length)
  | cs => some (⟨hour, minute, second, 0⟩, cs)

/-- The hour, if two digits and a colon stand at the start of a text. -/
def hour? (cs : List Char) : Option (Nat × List Char) := do
  let (hour, cs) ← digits? 2 0 cs
  let cs ← sign? ':' cs
  some (hour, cs)

/-- Reads an offset of hours and minutes, after its sign. -/
def restOfOffset? (negative : Bool) (cs : List Char) : Option (Offset × List Char) := do
  let (hour, cs) ← hour? cs
  let (minute, cs) ← digits? 2 0 cs
  if 23 < hour ∨ 59 < minute then none
  let n : Int := hour * 60 + minute
  some (.minutes (if negative then -n else n), cs)

/-- Reads an offset, if one stands at the start of a text. The outer option is empty if it is no
possible one. -/
def offset? : List Char → Option (Option Offset × List Char)
  | 'Z' :: cs | 'z' :: cs => some (some .universal, cs)
  | '+' :: cs => (restOfOffset? false cs).map fun (o, cs) => (some o, cs)
  | '-' :: cs => (restOfOffset? true cs).map fun (o, cs) => (some o, cs)
  | cs => some (none, cs)

/-- What stands at the start of a text. -/
inductive Datetime.Reading where
  /-- Neither a date nor a time. -/
  | absent
  /-- The beginning of one, but no possible one. -/
  | impossible
  | found (d : Datetime) (rest : List Char)

/-- Reads what may follow a date: a separator and a time, perhaps with an offset. -/
def Datetime.afterDate (d : Date) (cs : List Char) : Datetime.Reading :=
  match cs with
  | c :: rest =>
    if c = 'T' ∨ c = 't' ∨ c = ' ' then
      match hour? rest with
      | none => .found (.date d) cs
      | some (hour, rest) =>
        match (restOfTime? hour rest).bind fun (t, rest) =>
            (offset? rest).map fun (o, rest) => (t, o, rest) with
        | some (t, o, rest) => .found (.both d t o) rest
        | none => .impossible
    else .found (.date d) cs
  | [] => .found (.date d) []

/-- Reads a date, a time or both at the start of a text. -/
def Datetime.read? (cs : List Char) : Datetime.Reading :=
  match (digits? 4 0 cs).bind fun (year, cs) => (sign? '-' cs).map fun cs => (year, cs) with
  | some (year, rest) =>
    match restOfDate? year rest with
    | some (d, rest) => afterDate d rest
    | none => .impossible
  | none =>
    match hour? cs with
    | some (hour, rest) =>
      match restOfTime? hour rest with
      | some (t, rest) => .found (.time t) rest
      | none => .impossible
    | none => .absent

end BeanContainer.Toml
