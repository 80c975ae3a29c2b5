import OperatorGrammar.Pattern.Basic

/-!
# Building patterns

The ways to combine patterns: one after the other, one or the other, and repeated. Each simplifies
what it is given, and the simplifications are part of what a pattern means: they decide which of
several matches is preferred and which groups remain.
-/

namespace OperatorGrammar.Pattern

/-- Matches nothing. -/
def nothing : Pattern := set .ascii CharSet.empty

/-- A set with one member is a literal, and all sets without a member are the same. -/
def ofSet (alphabet : Alphabet) (chars : CharSet) : Pattern :=
  match chars.single? with
  | some c => literal [c]
  | none => if chars = CharSet.empty then nothing else set alphabet chars

/-- The parts of a concatenation. -/
def parts : Pattern → List Pattern
  | cat first second => first :: second.parts
  | empty => []
  | p => [p]

/-- The branches of a choice. -/
def branches : Pattern → List Pattern
  | alt first second => first :: second.branches
  | p => [p]

def ofParts : List Pattern → Pattern
  | [] => empty
  | [p] => p
  | p :: ps => cat p (ofParts ps)

/-- A choice between no branches matches nothing. -/
def ofBranches : List Pattern → Pattern
  | [] => nothing
  | [p] => p
  | p :: ps => alt p (ofBranches ps)

/-- Literals that follow each other are one part. -/
def joinLiterals : List Pattern → List Pattern
  | [] => []
  | literal s :: ps =>
    match joinLiterals ps with
    | literal t :: ps => literal (s ++ t) :: ps
    | ps => literal s :: ps
  | p :: ps => p :: joinLiterals ps

/-- One after the other; parts that are concatenations themselves are merged in. -/
def concat (ps : List Pattern) : Pattern := ofParts (joinLiterals (ps.flatMap parts))

def commonHead : List Pattern → List Pattern → List Pattern
  | p :: ps, q :: qs => if p = q then p :: commonHead ps qs else []
  | _, _ => []

/-- The longest head that all the branches have in common, if each has two parts or more. -/
def sharedHead : List (List Pattern) → List Pattern
  | [] => []
  | b :: bs =>
    if (b :: bs).all (2 ≤ ·.length) then bs.foldl commonHead b else []

def literal? : Pattern → Option (List Char)
  | literal chars => some chars
  | _ => none

def charSet? : Pattern → Option CharSet
  | set _ chars => some chars
  | _ => none

/-- The set whose only member is a literal of one character. -/
def letter? : Pattern → Option CharSet
  | literal [c] => some (CharSet.singleton c)
  | _ => none

def unite (sets : List CharSet) : Pattern := ofSet .unicode (sets.foldl (· ∪ ·) CharSet.empty)

/-- Branches that are all single characters, or all sets, merge into one set. A mixture does not. -/
def merge? (ps : List Pattern) : Option Pattern :=
  ((ps.mapM letter?).or (ps.mapM charSet?)).map unite

def select : List Pattern → Pattern
  | [p] => p
  | ps => (merge? ps).getD (ofBranches ps)

/-- The first branch that matches, in order. Branches that are choices themselves are merged in, and
a head shared by all branches is matched once, before the choice: a head that can match in several
ways is then settled in view of all the branches. -/
def choice (ps : List Pattern) : Pattern :=
  let bs := ps.flatMap branches
  let head := sharedHead (bs.map parts)
  if head = [] then select bs
  else
    let tails := bs.map fun b ↦ ofParts (b.parts.drop head.length)
    concat (head ++ [select (tails.flatMap branches)])

/-- From `least` to `most` times, without an upper end if `most` is missing. Repeating a pattern
that matches only the empty text more than once is the same as once. -/
def repeated (greedy : Bool) (least : Nat) (most : Option Nat) (p : Pattern) : Pattern :=
  let (least, most) :=
    if p.matchesOnlyEmpty then (min least 1, some ((most.map (min · 1)).getD 1)) else (least, most)
  match least, most with
  | 0, some 0 => empty
  | 1, some 1 => p
  | least, most => rep greedy least most p

end OperatorGrammar.Pattern
