import BeanContainer.Regex.Ranges
import BeanContainer.Text.Utf8

/-!
# Plans of automata

A `Plan` is an expression in the form in which a matching automaton is built from it: characters in
a row are one literal, a choice between characters is a set, what matches nothing but the empty text
is not repeated, and what all alternatives begin with stands before them once.

* `Plan.sequenceOf`, `Plan.choiceOf`, `Plan.repeated`: build plans in this form.
* `Regex.plan`: the plan of an expression.
-/

namespace BeanContainer

/-- What an automaton is built from. -/
inductive Plan where
  /-- The characters in a row, by code point. Without any, it matches the empty text. -/
  | literal (chars : List Nat)
  /-- One of the characters in the ranges. -/
  | set (ranges : List (Nat × Nat))
  | anchor (a : Anchor)
  | group (p : Plan)
  | rep (p : Plan) (least : Nat) (most : Option Nat)
  | sequence (ps : List Plan)
  | choice (ps : List Plan)

namespace Plan

/-- One of the characters in the ranges; a single one is a literal. -/
def ofRanges : List (Nat × Nat) → Plan
  | [(first, last)] => if first = last then literal [first] else set [(first, last)]
  | rs => set rs

/-! ### Lengths of matches -/

mutual

/-- Whether all matches are empty. -/
def isZeroWidth : Plan → Bool
  | literal chars => chars.isEmpty
  | set _ => false
  | anchor _ => true
  | group p => p.isZeroWidth
  | rep p _ _ => p.isZeroWidth
  | sequence ps => allZeroWidth ps
  | choice ps => allZeroWidth ps

def allZeroWidth : List Plan → Bool
  | [] => true
  | p :: ps => p.isZeroWidth && allZeroWidth ps

end

mutual

/-- The number of bytes in the shortest match, unless it is plain that there is no match. -/
def minLength? : Plan → Option Nat
  | literal chars => some (chars.flatMap Text.Utf8.bytes).length
  | set [] => none
  | set (r :: _) => some (Text.Utf8.bytes r.1).length
  | anchor _ => some 0
  | group p => p.minLength?
  | rep p least _ => p.minLength?.map (least * ·)
  | sequence ps => (minLengths? ps).map (·.foldl (· + ·) 0)
  | choice ps => (minLengths? ps).bind List.min?

def minLengths? : List Plan → Option (List Nat)
  | [] => some []
  | p :: ps => do return (← p.minLength?) :: (← minLengths? ps)

end

/-! ### Building plans -/

/-- A plan that is repeated. Nothing is gained by repeating empty matches. -/
def repeated (p : Plan) (least : Nat) (most : Option Nat) : Plan :=
  let least := if p.isZeroWidth then min least 1 else least
  let most := if p.isZeroWidth then some ((most.map (min 1)).getD 1) else most
  if least = 0 ∧ most = some 0 then literal []
  else if least = 1 ∧ most = some 1 then p
  else rep p least most

/-- The parts of a plan that come one after another. -/
def parts : Plan → List Plan
  | sequence ps => ps
  | p => [p]

/-- The alternatives of a plan. -/
def alternatives : Plan → List Plan
  | choice ps => ps
  | p => [p]

/-- Drops what matches the empty text, and makes one literal of several in a row. -/
def joinLiterals : List Plan → List Plan
  | [] => []
  | literal [] :: ps => joinLiterals ps
  | literal cs :: ps =>
    match joinLiterals ps with
    | literal ds :: qs => literal (cs ++ ds) :: qs
    | qs => literal cs :: qs
  | p :: ps => p :: joinLiterals ps

def sequenceOf (ps : List Plan) : Plan :=
  match joinLiterals (ps.flatMap parts) with
  | [] => literal []
  | [p] => p
  | ps => sequence ps

/-- The ranges of a literal of one character. -/
def charRange? : Plan → Option (List (Nat × Nat))
  | literal [c] => some [(c, c)]
  | _ => none

def setRanges? : Plan → Option (List (Nat × Nat))
  | set rs => some rs
  | _ => none

/-- Any of the plans. Characters become one set, and so do sets. -/
def mergedChoice (ps : List Plan) : Plan :=
  match ps.flatMap alternatives with
  | [] => set []
  | [p] => p
  | ps =>
    match ps.mapM charRange?, ps.mapM setRanges? with
    | some rss, _ | none, some rss => ofRanges (CharSet.orderedRanges rss.flatten)
    | none, none => choice ps

mutual

/-- Whether two plans are alike. A group that remembers its match is like no other one. -/
def isAlike : Plan → Plan → Bool
  | literal cs, literal ds => cs == ds
  | set rs, set ss => rs == ss
  | anchor a, anchor b => a == b
  | rep p l m, rep q l' m' => l == l' && m == m' && p.isAlike q
  | sequence ps, sequence qs => areAlike ps qs
  | choice ps, choice qs => areAlike ps qs
  | _, _ => false

def areAlike : List Plan → List Plan → Bool
  | [], [] => true
  | p :: ps, q :: qs => p.isAlike q && areAlike ps qs
  | _, _ => false

end

/-- How many plans two lists begin with alike. -/
def sharedLength : List Plan → List Plan → Nat
  | p :: ps, q :: qs => if p.isAlike q then sharedLength ps qs + 1 else 0
  | _, _ => 0

/-- How many parts all alternatives begin with alike. Only sequences have parts to share. -/
def liftedLength : List Plan → Nat
  | sequence ps :: rest =>
    rest.foldl (fun n p => min n
      (match p with
        | sequence qs => sharedLength ps qs
        | _ => 0)) ps.length
  | _ => 0

/-- Any of the plans. What all of them begin with is matched first. -/
def choiceOf (ps : List Plan) : Plan :=
  match mergedChoice ps with
  | choice ps =>
    let n := liftedLength ps
    if n = 0 then choice ps
    else
      sequenceOf ((ps.head?.map parts).getD [] |>.take n |>.concat
        (mergedChoice (ps.map fun p => sequenceOf (p.parts.drop n))))
  | p => p

end Plan

namespace Regex

/-- The plans of an expression's alternatives. -/
def plans : Regex → List Plan
  | empty => [.literal []]
  | char s => [.ofRanges s.ranges]
  | anchor a => [.anchor a]
  | group remembered r =>
    let p := Plan.choiceOf r.plans
    [if remembered then .group p else p]
  | seq r s => [.sequenceOf [.choiceOf r.plans, .choiceOf s.plans]]
  | alt r s => r.plans ++ s.plans
  | rep r least most => [.repeated (.choiceOf r.plans) least most]

/-- The plan of an expression. -/
def plan (r : Regex) : Plan := .choiceOf r.plans

end Regex

end BeanContainer
