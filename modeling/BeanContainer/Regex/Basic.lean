import BeanContainer.Text.Casing
import BeanContainer.Text.CharClass.Mark
import BeanContainer.Text.CharClass.Recent

/-!
# Regular expressions

The expressions that select types by name: sets of characters, anchors, groups, concatenation,
alternatives and counted repetition. Which of several matches an engine would report plays no part
here, so there is no lazy repetition, and a group matches what its expression does; what counts is
where a match can end.

Expressions know the characters of the 16th edition of Unicode, while names are written with those
of the 17th: `CharSet.known` takes from a class what an expression sees of it.

* `CharSet.mem`: membership in a set of characters.
* `Anchor.holds`: whether an anchor holds between two characters of a text.
* `Regex.Spans text r i j`: the expression `r` matches the part of `text` from position `i` to
  position `j`. Anchors look at the neighbours of a position, so the whole text takes part.
-/

namespace BeanContainer

/-- A set of characters, as a combination of ranges and properties. -/
inductive CharSet where
  | range (first last : Nat)
  | property (k : Text.CharClass)
  | union (s t : CharSet)
  | inter (s t : CharSet)
  | compl (s : CharSet)
  /-- The characters that agree with a member when case is ignored. -/
  | ignoringCase (s : CharSet)
  /-- The characters that agree with a member when the case of ASCII letters is ignored. -/
  | ignoringAsciiCase (s : CharSet)
  deriving DecidableEq

namespace CharSet

def mem : CharSet → Char → Bool
  | range first last, c => first ≤ c.toNat && c.toNat ≤ last
  | property k, c => k.contains c
  | union s t, c => s.mem c || t.mem c
  | inter s t, c => s.mem c && t.mem c
  | compl s, c => !s.mem c
  | ignoringCase s, c => (Text.caseVariants c).any s.mem
  | ignoringAsciiCase s, c => s.mem c || s.mem (Text.asciiLower c) || s.mem (Text.asciiUpper c)

def none : CharSet := range 1 0

def all : CharSet := compl none

def single (c : Char) : CharSet := range c.toNat c.toNat

/-- The members of a class that expressions know. -/
def known (k : Text.CharClass) : CharSet :=
  inter (property k) (compl (property Text.CharClass.recent))

/-- The word characters of ASCII. -/
def asciiWord : Text.CharClass := ⟨[(0x30, 0x39), (0x41, 0x5A), (0x5F, 0x5F), (0x61, 0x7A)]⟩

/-- The word characters, `\w`. -/
def wordChars (ascii : Bool) : CharSet :=
  if ascii then property asciiWord else known Text.CharClass.word

def unions (ss : List CharSet) : CharSet := ss.foldr union none

def diff (s t : CharSet) : CharSet := inter s (compl t)

def symmDiff (s t : CharSet) : CharSet := diff (union s t) (inter s t)

@[simp] theorem mem_none (c : Char) : none.mem c = false := by
  simp [none, mem]; omega

@[simp] theorem mem_all (c : Char) : all.mem c = true := by simp [all, mem]

@[simp] theorem mem_union (s t : CharSet) (c : Char) :
    (union s t).mem c = (s.mem c || t.mem c) := rfl

@[simp] theorem mem_inter (s t : CharSet) (c : Char) :
    (inter s t).mem c = (s.mem c && t.mem c) := rfl

@[simp] theorem mem_compl (s : CharSet) (c : Char) : (compl s).mem c = !s.mem c := rfl

theorem mem_single {c d : Char} : (single c).mem d = true ↔ d = c := by
  simp only [single, mem, Bool.and_eq_true, decide_eq_true_eq]
  constructor
  · intro h
    have : d.toNat = c.toNat := by omega
    exact Char.ext (UInt32.toNat_inj.1 this)
  · rintro rfl; simp

end CharSet

/-- A condition on a position of a text, in terms of the characters on either side of it. -/
inductive Anchor where
  | textStart
  | textEnd
  /-- The start of a line; with `crlf`, lines may also end in a carriage return. -/
  | lineStart (crlf : Bool)
  /-- The end of a line; with `crlf`, lines may also end in a carriage return. -/
  | lineEnd (crlf : Bool)
  /-- Exactly one of the neighbours is a word character. -/
  | wordBoundary (ascii : Bool)
  | notWordBoundary (ascii : Bool)
  | wordStart (ascii : Bool)
  | wordEnd (ascii : Bool)
  /-- The character before is no word character. -/
  | wordStartHalf (ascii : Bool)
  /-- The character after is no word character. -/
  | wordEndHalf (ascii : Bool)
  deriving DecidableEq, Repr

namespace Anchor

/-- Whether there is a character and it belongs to a word. -/
def isWord (ascii : Bool) : Option Char → Bool
  | some c => (CharSet.wordChars ascii).mem c
  | none => false

/-- Whether the anchor holds between the characters `before` and `after`, where `none` stands for
the border of the text. -/
def holds (before after : Option Char) : Anchor → Bool
  | textStart => before.isNone
  | textEnd => after.isNone
  | lineStart false => before.isNone || before == some '\n'
  | lineStart true =>
    before.isNone || before == some '\n' || (before == some '\r' && after != some '\n')
  | lineEnd false => after.isNone || after == some '\n'
  | lineEnd true =>
    after.isNone || after == some '\r' || (after == some '\n' && before != some '\r')
  | wordBoundary a => isWord a before != isWord a after
  | notWordBoundary a => isWord a before == isWord a after
  | wordStart a => !isWord a before && isWord a after
  | wordEnd a => isWord a before && !isWord a after
  | wordStartHalf a => !isWord a before
  | wordEndHalf a => !isWord a after

end Anchor

/-- A regular expression. -/
inductive Regex where
  | empty
  | char (s : CharSet)
  /-- Matches the empty text where the anchor holds. -/
  | anchor (a : Anchor)
  /-- Matches what the expression in the group does. Some groups remember what they matched. -/
  | group (remembered : Bool) (r : Regex)
  | seq (r s : Regex)
  | alt (r s : Regex)
  /-- Matches at least `least` and, if there is a bound, at most `most` copies in a row. -/
  | rep (r : Regex) (least : Nat) (most : Option Nat)
  deriving DecidableEq

namespace Regex

def before (text : List Char) : Nat → Option Char
  | 0 => none
  | i + 1 => text[i]?

mutual

/-- `Spans text r i j`: the expression matches the part of the text from `i` to `j`. -/
inductive Spans (text : List Char) : Regex → Nat → Nat → Prop
  | empty {i : Nat} : i ≤ text.length → Spans text .empty i i
  | char {s : CharSet} {i : Nat} {c : Char} : text[i]? = some c → s.mem c = true →
      Spans text (.char s) i (i + 1)
  | anchor {a : Anchor} {i : Nat} : i ≤ text.length →
      a.holds (before text i) text[i]? = true → Spans text (.anchor a) i i
  | group {remembered : Bool} {r : Regex} {i j : Nat} : Spans text r i j →
      Spans text (.group remembered r) i j
  | seq {r s : Regex} {i j k : Nat} : Spans text r i j → Spans text s j k →
      Spans text (.seq r s) i k
  | altLeft {r s : Regex} {i j : Nat} : Spans text r i j → Spans text (.alt r s) i j
  | altRight {r s : Regex} {i j : Nat} : Spans text s i j → Spans text (.alt r s) i j
  | rep {r : Regex} {least n i j : Nat} {most : Option Nat} : least ≤ n →
      (∀ m, most = some m → n ≤ m) → Copies text r n i j → Spans text (.rep r least most) i j

/-- `Copies text r n i j`: `n` matches of `r` in a row lead from `i` to `j`. -/
inductive Copies (text : List Char) : Regex → Nat → Nat → Nat → Prop
  | zero {r : Regex} {i : Nat} : i ≤ text.length → Copies text r 0 i i
  | succ {r : Regex} {n i j k : Nat} : Copies text r n i j → Spans text r j k →
      Copies text r (n + 1) i k

end

def star (r : Regex) : Regex := rep r 0 none

def plus (r : Regex) : Regex := rep r 1 none

def optional (r : Regex) : Regex := rep r 0 (some 1)

def literal (c : Char) : Regex := char (.single c)

/-- The expressions one after another. -/
def seqs : List Regex → Regex
  | [] => empty
  | [r] => r
  | r :: rs => seq r (seqs rs)

/-- Any of the expressions. -/
def alts : List Regex → Regex
  | [] => char .none
  | [r] => r
  | r :: rs => alt r (alts rs)

end Regex

end BeanContainer
