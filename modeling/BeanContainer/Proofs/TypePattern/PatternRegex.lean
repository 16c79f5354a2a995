import BeanContainer.Proofs.Regex.Rendering
import BeanContainer.TypePattern.Pattern

/-!
# The expressions of type patterns

The pieces of a type pattern are put together to the text of a regular expression, in which the
characters that have a meaning of their own are escaped. Each piece is a text for a language
(`Piece.expresses`), and so is the whole. So the text can always be read as an expression
(`Pattern.ofWord?_eq_parse?`), and a pattern selects the names in its language
(`Pattern.selects_iff_mem`).
-/

open scoped Computability

namespace BeanContainer.TypePattern

open Regex (Expresses IsElement Renders isElement_complement isElement_escaped)

def noColon : CharSet := .compl (.single ':')

/-- The texts that any number of segments stands for. -/
def segmentsLanguage : Language Char :=
  (noColon.texts * noColon.letters * ({[':']} * {[':']}))∗

/-- The texts that a piece behind others stands for. -/
def Piece.language : Piece → Language Char
  | wildcard => noColon.texts
  | descent => {[':']} * ({[':']} * segmentsLanguage)
  | separator => {[':']} * {[':']}
  | literal c => {[c]}

/-- The names that the pieces of a whole word stand for. -/
def piecesLanguage : List Piece → Language Char
  | .descent :: ps => segmentsLanguage * (ps.map Piece.language).prod
  | ps => (ps.map Piece.language).prod

/-- The elements of one segment with its separator. -/
theorem renders_segment : Renders "[^:]+::".toList
    [.part (.plus (.char noColon)) 2, .part (.literal ':') 0, .part (.literal ':') 0] := by
  have hcolon : Renders [':'] [.part (.literal ':') 0] :=
    (isElement_escaped ':').renders (by decide)
  have hchars :=
    (isElement_complement (by decide : ':' ∈ [':', '/'])).repeated (by decide) (by decide)
    (by decide : ('+', 1, none) ∈ _)
  exact hchars.append (hcolon.append hcolon)

theorem expresses_segments : Expresses segments segmentsLanguage := by
  have hgroup := IsElement.group renders_segment
  refine (hgroup.repeated (by decide) (by decide) (by decide : ('*', 0, none) ∈ _)).expresses
    (by decide) ?_
  exact (((Regex.Denotes.plusChar noColon).seq
    ((Regex.Denotes.literal ':').seq (.literal ':'))).group false).star

theorem expresses_separator : Expresses [':', ':'] ({[':']} * {[':']}) :=
  (Expresses.escaped ':').append (.escaped ':')

theorem Piece.expresses (p : Piece) : Expresses p.regex p.language := by
  cases p with
  | wildcard =>
    exact ((isElement_complement (by decide : ':' ∈ [':', '/'])).repeated (by decide) (by decide)
      (by decide : ('*', 0, none) ∈ _)).expresses (by decide) (.starChar noColon)
  | descent =>
    exact (Expresses.escaped ':').append ((Expresses.escaped ':').append expresses_segments)
  | separator => exact expresses_separator
  | literal c => exact .escaped c

/-- **The text that is made of a word is an expression for its language.** -/
theorem expresses_piecesRegex (ps : List Piece) :
    Expresses (piecesRegex ps) (piecesLanguage ps) := by
  unfold piecesRegex
  split
  · exact expresses_segments.append (Expresses.flatMap Piece.expresses _)
  · rename_i hdescent
    rw [piecesLanguage.eq_2 _ hdescent]
    exact Expresses.flatMap Piece.expresses ps

namespace Pattern

theorem exists_regex? (p : Pattern) : ∃ r, p.regex? = .ok r ∧
    ∀ name, r.search name = true ↔ name ∈ piecesLanguage p.pieces :=
  (expresses_piecesRegex p.pieces).readAnchored?

/-- No pattern fails for its expression. -/
theorem ofWord?_eq_parse? (word : List Char) : ofWord? word = parse? word := by
  unfold ofWord?
  cases parse? word with
  | none => rfl
  | some p =>
    obtain ⟨r, hr, -⟩ := p.exists_regex?
    rw [Option.filter_some, hr]
    rfl

/-- **A pattern selects the names in its language.** -/
theorem selects_iff_mem (p : Pattern) (name : String) :
    p.selects name = true ↔ name.toList ∈ piecesLanguage p.pieces := by
  obtain ⟨r, hr, hsearch⟩ := p.exists_regex?
  unfold selects
  rw [hr]
  exact hsearch _

end Pattern

end BeanContainer.TypePattern
