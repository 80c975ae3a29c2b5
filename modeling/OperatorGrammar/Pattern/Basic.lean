import OperatorGrammar.CharSet.Blank
import OperatorGrammar.CharSet.Word
import OperatorGrammar.Text.Cursor

/-!
# Patterns

A pattern is a regular expression with all flags resolved: literals, sets of characters, assertions
on a position, numbered groups, repetitions, concatenation and ordered choice.

Patterns are compared as they are written here and not by what they match. What counts as the same
part of two branches is matched before the choice between them, so the comparison has an effect.
-/

namespace OperatorGrammar

/-- The characters that a set was made from. A set made from ASCII is not the same as a set with the
same members made from Unicode. -/
inductive Alphabet where
  | unicode
  | ascii
deriving DecidableEq

namespace Alphabet

def digit : Alphabet → CharSet
  | unicode => CharSet.decimalDigit
  | ascii => CharSet.Ascii.digit

def space : Alphabet → CharSet
  | unicode => CharSet.blank
  | ascii => CharSet.Ascii.space

def word : Alphabet → CharSet
  | unicode => CharSet.word
  | ascii => CharSet.Ascii.word

end Alphabet

/-- An assertion on a position. The half assertions look at one side of it only. -/
inductive Look where
  | textStart
  | textEnd
  | lineStart
  | lineEnd
  | lineStartReturn
  | lineEndReturn
  | wordBoundary (alphabet : Alphabet)
  | noWordBoundary (alphabet : Alphabet)
  | wordStart (alphabet : Alphabet)
  | wordEnd (alphabet : Alphabet)
  | wordStartHalf (alphabet : Alphabet)
  | wordEndHalf (alphabet : Alphabet)
deriving DecidableEq

namespace Look

/-- Lines end with a line feed; in the `Return` variants also with a carriage return, and the two in
a row are one end of line. -/
def holds (look : Look) (cur : Cursor) : Bool :=
  let isWord (alphabet : Alphabet) (c? : Option Char) : Bool := c?.any alphabet.word.contains
  match look with
  | textStart => cur.atStart
  | textEnd => cur.atEnd
  | lineStart => cur.atStart || cur.previous? == some '\n'
  | lineEnd => cur.atEnd || cur.next? == some '\n'
  | lineStartReturn =>
    cur.atStart || cur.previous? == some '\n' ||
      (cur.previous? == some '\r' && cur.next? != some '\n')
  | lineEndReturn =>
    cur.atEnd || cur.next? == some '\r' || (cur.next? == some '\n' && cur.previous? != some '\r')
  | wordBoundary alphabet => isWord alphabet cur.previous? != isWord alphabet cur.next?
  | noWordBoundary alphabet => isWord alphabet cur.previous? == isWord alphabet cur.next?
  | wordStart alphabet => !isWord alphabet cur.previous? && isWord alphabet cur.next?
  | wordEnd alphabet => isWord alphabet cur.previous? && !isWord alphabet cur.next?
  | wordStartHalf alphabet => !isWord alphabet cur.previous?
  | wordEndHalf alphabet => !isWord alphabet cur.next?

end Look

/-- A repetition runs its body from `least` to `most` times, without an upper end if `most` is
missing. It prefers to go on if it is `greedy` and to stop otherwise. -/
inductive Pattern where
  | empty
  | literal (chars : List Char)
  | set (alphabet : Alphabet) (chars : CharSet)
  | look (assertion : Look)
  | group (index : Nat) (body : Pattern)
  | rep (greedy : Bool) (least : Nat) (most : Option Nat) (body : Pattern)
  | cat (first second : Pattern)
  | alt (first second : Pattern)
deriving DecidableEq

namespace Pattern

/-- The length of the shortest match, unknown if some part of the pattern matches nothing. -/
def shortest : Pattern → Option Nat
  | empty => some 0
  | literal chars => some chars.length
  | set _ chars => if chars = CharSet.empty then none else some 1
  | look _ => some 0
  | group _ body => body.shortest
  | rep _ least _ body => body.shortest.map (least * ·)
  | cat first second => first.shortest.bind fun m ↦ second.shortest.map (m + ·)
  | alt first second => first.shortest.bind fun m ↦ second.shortest.map (min m ·)

/-- Every match takes at least one character. -/
def consumes (p : Pattern) : Bool := p.shortest.any (0 < ·)

/-- No match takes a character. -/
def matchesOnlyEmpty : Pattern → Bool
  | empty => true
  | literal chars => chars.isEmpty
  | set _ _ => false
  | look _ => true
  | group _ body => body.matchesOnlyEmpty
  | rep _ _ most body => most.isSome && body.matchesOnlyEmpty
  | cat first second => first.matchesOnlyEmpty && second.matchesOnlyEmpty
  | alt first second => first.matchesOnlyEmpty && second.matchesOnlyEmpty

/-- One more than the highest group number, 1 if there is no group. -/
def groupCount : Pattern → Nat
  | empty => 1
  | literal _ => 1
  | set _ _ => 1
  | look _ => 1
  | group index body => max (index + 1) body.groupCount
  | rep _ _ _ body => body.groupCount
  | cat first second => max first.groupCount second.groupCount
  | alt first second => max first.groupCount second.groupCount

end Pattern

end OperatorGrammar
