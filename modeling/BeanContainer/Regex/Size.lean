import BeanContainer.Regex.Plan

/-!
# The size of automata

An expression is matched by automata that read bytes: one reads a text forward, the other backward.
Each may take so much room and no more. The automata are not built here; `Plan.size` computes how
many bytes they would take.

A state takes `stateSize` bytes. Beyond that, a state that reads one of several ranges of bytes
takes `rangeSize` for each of them, and a state that goes on in several ways takes `branchSize` for
each.

* `Plan.automatonSize`: the room that an automaton of an expression takes.
* `Regex.fits`: both automata of an expression keep within the limit.
-/

namespace BeanContainer

/-- In which order an automaton reads a text. -/
inductive Direction where
  | forward
  | backward
  deriving DecidableEq, Repr

namespace Plan

/-- The bytes that a state takes. -/
def stateSize : Nat := 32

/-- The bytes that each range takes in a state that reads one of several ranges. -/
def rangeSize : Nat := 8

/-- The bytes that each way takes in a state that goes on in several ways. -/
def branchSize : Nat := 4

def rangesState (count : Nat) : Nat := stateSize + rangeSize * count

def branchState (count : Nat) : Nat := stateSize + branchSize * count

/-! ### Sets -/

/-- A sequence of ranges of bytes, as the encodings of characters are. -/
abbrev ByteSequence := List (Nat × Nat)

/-- The states of an automaton for a set, each with its number: for every range that it reads, the
number of the state that comes after it. The state at the end has the number zero. -/
abbrev StateTable := List (List ((Nat × Nat) × Nat) × Nat)

/-- Sequences by their first ranges, with what is left of each. Sequences that begin alike stand
next to each other. -/
def byFirst : List ByteSequence → List ((Nat × Nat) × List ByteSequence)
  | [] => []
  | [] :: rest => byFirst rest
  | (r :: tail) :: rest =>
    match byFirst rest with
    | (s, tails) :: groups =>
      if s = r then (r, tail :: tails) :: groups else (r, [tail]) :: (s, tails) :: groups
    | [] => [(r, [tail])]

/-- The number of the state that reads the sequences, and the table with all states for that. States
with the same future are one. The first argument bounds the length of the sequences. -/
def stateFor : Nat → List ByteSequence → StateTable → Nat × StateTable
  | 0, _, table => (0, table)
  | length + 1, sequences, table =>
    match byFirst sequences with
    | [] => (0, table)
    | groups =>
      let (edges, table) := groups.foldl
        (fun (edges, table) (r, tails) =>
          let (number, table) := stateFor length tails table
          (edges ++ [(r, number)], table))
        (([] : List ((Nat × Nat) × Nat)), table)
      match table.lookup edges with
      | some number => (number, table)
      | none => (table.length + 1, (edges, table.length + 1) :: table)

/-- How many ranges two sequences begin with alike. -/
def sharedStart : ByteSequence → ByteSequence → Nat
  | r :: rs, s :: ss => if r = s then sharedStart rs ss + 1 else 0
  | _, _ => 0

/-- The number of ranges in sequences in order, where ranges are counted once that stand at a start
that a sequence shares with the one before it. -/
def distinctRanges (previous : ByteSequence) : List ByteSequence → Nat
  | [] => 0
  | s :: rest => s.length - sharedStart previous s + distinctRanges s rest

/-- The size of the automaton for a set. In ASCII one state reads the ranges and another one ends
the automaton. Else what is read forward shares its end, and what is read backward, its start in the
text. -/
def setSize (d : Direction) (ranges : List (Nat × Nat)) : Nat :=
  if ranges.all (·.2 < 0x80) then stateSize + rangesState ranges.length
  else
    let sequences := ranges.flatMap Text.Utf8.sequences
    match d with
    | .forward =>
      stateSize + ((stateFor 4 sequences []).2.map fun s => rangesState s.1.length).foldl (· + ·) 0
    | .backward =>
      stateSize + branchState sequences.length + stateSize * distinctRanges [] sequences

/-! ### Literals -/

/-- A tree of literals. Where a literal ends, the ways to longer ones fall into those that come
before it and those that come after it. -/
inductive LiteralTree where
  | node (before : List (List (Nat × LiteralTree))) (after : List (Nat × LiteralTree))

namespace LiteralTree

def nothing : LiteralTree := node [] []

/-- Changes the tree under a byte. -/
def under (b : Nat) (f : LiteralTree → LiteralTree) :
    List (Nat × LiteralTree) → List (Nat × LiteralTree)
  | [] => [(b, f nothing)]
  | (c, t) :: rest =>
    if b < c then (b, f nothing) :: (c, t) :: rest
    else if b = c then (c, f t) :: rest
    else (c, t) :: under b f rest

/-- Adds a literal, given by its bytes. -/
def insert : List Nat → LiteralTree → LiteralTree
  | [], node before after =>
    -- A literal that ends where one ended already, with nothing between them, changes nothing.
    if after.isEmpty && !before.isEmpty && before.all List.isEmpty then node before after
    else node (before ++ [after]) []
  | b :: bs, node before after => node before (under b (insert bs) after)

/-- The size of a state that reads one of so many bytes, if there is any. -/
def waysState : Nat → Nat
  | 0 => 0
  | 1 => stateSize
  | n => rangesState n

mutual

/-- The size of the automaton for a tree. Where nothing is left to be read, no state is needed. -/
def size : LiteralTree → Nat
  | node before after =>
    let ways := (before ++ [after]).filter fun edges => !edges.isEmpty
    if ways.isEmpty then 0
    else
      branchState (ways.length + before.length) +
        (ways.map fun es => waysState es.length).foldl (· + ·) 0 +
        groupsSize before + edgesSize after

def groupsSize : List (List (Nat × LiteralTree)) → Nat
  | [] => 0
  | edges :: rest => edgesSize edges + groupsSize rest

def edgesSize : List (Nat × LiteralTree) → Nat
  | [] => 0
  | (_, t) :: rest => t.size + edgesSize rest

end

end LiteralTree

def literalBytes (chars : List Nat) : List Nat := chars.flatMap Text.Utf8.bytes

/-- The bytes of a literal that is not empty. -/
def literalBytes? : Plan → Option (List Nat)
  | literal (c :: cs) => some (literalBytes (c :: cs))
  | _ => none

/-- The size of the automaton for a choice between literals. -/
def literalsSize (d : Direction) (literals : List (List Nat)) : Nat :=
  let inOrder := fun bytes : List Nat =>
    match d with
    | .forward => bytes
    | .backward => bytes.reverse
  stateSize + (literals.foldl (fun (t : LiteralTree) bytes => t.insert (inOrder bytes))
    LiteralTree.nothing).size

/-! ### Plans -/

/-- The size of the automaton for repetitions of a plan, given the size for one. -/
def repetitionSize (one : Nat) (canBeEmpty : Bool) : (least : Nat) → (most : Option Nat) → Nat
  | 0, none => one + (if canBeEmpty then stateSize + 2 * branchState 2 else branchState 2)
  | least, none => least * one + branchState 2
  | 0, some 1 => one + branchState 2 + stateSize
  | least, some most =>
    if least = most then most * one
    else
      (if least = 0 then stateSize else least * one) + stateSize +
        (most - least) * (one + branchState 2)

mutual

/-- The size of the automaton for a plan. Only forward is remembered what groups match. -/
def size (d : Direction) : Plan → Nat
  | literal chars => stateSize * max 1 (literalBytes chars).length
  | set ranges => setSize d ranges
  | anchor _ => stateSize
  | group p =>
    match d with
    | .forward => stateSize + p.size d + stateSize
    | .backward => p.size d
  | rep p least most =>
    repetitionSize (p.size d) ((p.minLength?.getD 0) = 0) least most
  | sequence ps => totalSize d ps
  | choice ps =>
    match ps.mapM literalBytes? with
    | some literals => literalsSize d literals
    | none => branchState ps.length + stateSize + totalSize d ps

def totalSize (d : Direction) : List Plan → Nat
  | [] => 0
  | p :: ps => p.size d + totalSize d ps

end

/-! ### Whole automata -/

mutual

/-- Whether every match starts with the given anchor. -/
def startsWith (a : Anchor) : Plan → Bool
  | anchor b => a == b
  | group p => p.startsWith a
  | rep p least _ => 0 < least && p.startsWith a
  | sequence ps => oneStartsWith a ps
  | choice ps => allStartWith a ps
  | _ => false

def oneStartsWith (a : Anchor) : List Plan → Bool
  | [] => false
  | p :: ps => p.startsWith a || (p.isZeroWidth && oneStartsWith a ps)

def allStartWith (a : Anchor) : List Plan → Bool
  | [] => true
  | p :: ps => p.startsWith a && allStartWith a ps

end

mutual

/-- The plan of the same expression on texts that are read backward. -/
def reversed : Plan → Plan
  | group p => group p.reversed
  | rep p least most => rep p.reversed least most
  | sequence ps => sequence (allReversed ps).reverse
  | choice ps => choice (allReversed ps)
  | p => p

def allReversed : List Plan → List Plan
  | [] => []
  | p :: ps => p.reversed :: allReversed ps

end

/-- Whether every match in the given direction starts where the text does. -/
def isAnchored (p : Plan) : Direction → Bool
  | .forward => p.startsWith .textStart
  | .backward => p.reversed.startsWith .textEnd

/-- The size of the part of an automaton that looks for the place where a match starts: one state if
there is but one place, else a loop over all bytes. -/
def searchSize (anchored : Bool) : Nat :=
  if anchored then stateSize else branchState 2 + stateSize + rangesState 1

/-- The size of an automaton that looks for matches of a plan. A last state says that there is one;
forward, it is remembered where the match started and ended. -/
def automatonSize (d : Direction) (p : Plan) : Nat :=
  searchSize (p.isAnchored d) + (group p).size d + stateSize

end Plan

namespace Regex

/-- The most bytes that an automaton may take. -/
def sizeLimit : Nat := 10485760

/-- Whether both automata of an expression keep within the limit. -/
def fits (r : Regex) : Bool :=
  let p := r.plan
  p.automatonSize .forward ≤ sizeLimit && p.automatonSize .backward ≤ sizeLimit

end Regex

end BeanContainer
