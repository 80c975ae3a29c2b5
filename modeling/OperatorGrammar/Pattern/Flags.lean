import OperatorGrammar.CharSet.Blank
import OperatorGrammar.CharSet.CaseFold
import OperatorGrammar.Pattern.Build

/-!
# Flags

The flags of a pattern's text, what they make of a character, the dot, the anchors and a set, and
the white space and comments that the extended form ignores.
-/

namespace OperatorGrammar.Pattern

structure Flags where
  ignoreCase : Bool := false
  multiLine : Bool := false
  dotAll : Bool := false
  swapGreed : Bool := false
  carriageReturn : Bool := false
  unicode : Bool := true
  extended : Bool := false

namespace Flags

def assign (flags : Flags) (letter : Char) (on : Bool) : Option Flags :=
  match letter with
  | 'i' => some { flags with ignoreCase := on }
  | 'm' => some { flags with multiLine := on }
  | 's' => some { flags with dotAll := on }
  | 'U' => some { flags with swapGreed := on }
  | 'R' => some { flags with carriageReturn := on }
  | 'u' => some { flags with unicode := on }
  | 'x' => some { flags with extended := on }
  | _ => none

/-- Reads letters up to a colon or a closing parenthesis; those after a minus are switched off. No
letter may come twice, and something must follow a minus. The letters read are returned too. -/
def readLetters (flags : Flags) (seen : List Char) (on : Bool) :
    List Char → Option (Flags × List Char × Char × List Char)
  | [] => none
  | c :: rest =>
    if c = ':' ∨ c = ')' then
      if seen.head? = some '-' then none else some (flags, seen, c, rest)
    else if c ∈ seen then none
    else if c = '-' then readLetters flags (c :: seen) false rest
    else (flags.assign c on).bind fun flags ↦ readLetters flags (c :: seen) on rest

def fold (flags : Flags) (chars : CharSet) : CharSet :=
  if !flags.ignoreCase then chars
  else if flags.unicode then chars.foldCase
  else chars.foldAsciiCase

/-- Outside of Unicode a complement would hold bytes that are no characters. -/
def negate? (flags : Flags) (negated : Bool) (chars : CharSet) : Option CharSet :=
  if !negated then some chars else if flags.unicode then some chars.compl else none

def alphabet (flags : Flags) : Alphabet := if flags.unicode then .unicode else .ascii

/-- A character stands for all its case variants where case is ignored. Outside of Unicode only
ASCII has variants, and any other character is refused then. -/
def literal? (flags : Flags) (c : Char) : Option Pattern :=
  if !flags.ignoreCase then some (literal [c])
  else if flags.unicode ∨ c.toNat < 0x80 then
    some (ofSet flags.alphabet (flags.fold (CharSet.singleton c)))
  else none

def dot? (flags : Flags) : Option Pattern :=
  if !flags.unicode then none
  else if flags.dotAll then some (set .unicode CharSet.all)
  else if flags.carriageReturn then some (set .unicode (CharSet.ofPoints [0xA, 0xD]).compl)
  else some (set .unicode (CharSet.singleton '\n').compl)

def lineStart (flags : Flags) : Look :=
  if !flags.multiLine then .textStart
  else if flags.carriageReturn then .lineStartReturn
  else .lineStart

def lineEnd (flags : Flags) : Look :=
  if !flags.multiLine then .textEnd
  else if flags.carriageReturn then .lineEndReturn
  else .lineEnd

/-- Drops white space and comments, which run from a number sign to the end of the line. -/
def dropIgnored (inComment : Bool) : List Char → List Char
  | [] => []
  | c :: rest =>
    if inComment then dropIgnored (c != '\n') rest
    else if CharSet.blank.contains c then dropIgnored false rest
    else if c = '#' then dropIgnored true rest
    else c :: rest

/-- What is left of a text when the ignored characters in front of it are dropped. -/
def skip (flags : Flags) (text : List Char) : List Char :=
  if flags.extended then dropIgnored false text else text

/-- The first character behind white space and one number sign. -/
def peekIgnored (inComment : Bool) : List Char → Option Char
  | [] => none
  | c :: rest =>
    if CharSet.blank.contains c then peekIgnored inComment rest
    else if !inComment && c == '#' then peekIgnored true rest
    else some c

/-- The character that decides whether a minus in front of the text makes a range. -/
def peek? (flags : Flags) (text : List Char) : Option Char :=
  if flags.extended then (peekIgnored false text).or text.head? else text.head?

/-- The longest run of characters that satisfy `accept`, with ignored ones in between and after. -/
def collect (flags : Flags) (accept : Char → Bool) : Nat → List Char → List Char × List Char
  | 0, text => ([], text)
  | _, [] => ([], [])
  | fuel + 1, c :: rest =>
    if accept c then
      let (run, rest) := collect flags accept fuel (flags.skip rest)
      (c :: run, rest)
    else ([], c :: rest)

/-- The run in front of the whole text. -/
def takeRun (flags : Flags) (accept : Char → Bool) (text : List Char) : List Char × List Char :=
  flags.collect accept text.length text

end Flags

end OperatorGrammar.Pattern
