import OperatorGrammar.Pattern.Build
import OperatorGrammar.Pattern.Footprint.Sets
import OperatorGrammar.Pattern.Footprint.Literals

/-!
# The size of a pattern

Every part of a pattern is built once for each copy that a repetition makes of it. Two automata are
built, one that reads forward and notes what the groups match, and one that reads backward.
-/

namespace OperatorGrammar

namespace Pattern

/-- Every match starts where `assertion` holds. -/
def startsWith (assertion : Look) : Pattern → Bool
  | empty => false
  | literal _ => false
  | set _ _ => false
  | look found => found == assertion
  | group _ body => body.startsWith assertion
  | rep _ least _ body => 0 < least && body.startsWith assertion
  | cat first second =>
    first.startsWith assertion || (first.matchesOnlyEmpty && second.startsWith assertion)
  | alt first second => first.startsWith assertion && second.startsWith assertion

/-- Every match ends where `assertion` holds. -/
def endsWith (assertion : Look) : Pattern → Bool
  | empty => false
  | literal _ => false
  | set _ _ => false
  | look found => found == assertion
  | group _ body => body.endsWith assertion
  | rep _ least _ body => 0 < least && body.endsWith assertion
  | cat first second =>
    second.endsWith assertion || (second.matchesOnlyEmpty && first.endsWith assertion)
  | alt first second => first.endsWith assertion && second.endsWith assertion

end Pattern

namespace Footprint

/-- The last copies of a part that stand in a row. -/
def addMore (add : Build Exit) : Nat → Exit → Build Exit
  | 0, exit => pure exit
  | count + 1, exit => do
    link exit
    addMore add count (← add)

/-- Copies of a part in a row. -/
def addCopies (add : Build Exit) : Nat → Build Exit
  | 0 => do
    let _ ← addState 0
    pure .plain
  | count + 1 => do addMore add count (← add)

/-- Copies of a part each of which may be the first that is left out. -/
def addOptional (add : Build Exit) : Nat → Exit → Build Exit
  | 0, exit => pure exit
  | count + 1, exit => do
    let _ ← addChoice 2
    link exit
    addOptional add count (← add)

/-- A part that is the branch `position` of a choice, the first being 1; a part on its own is at
position 0. The choice and the state in which its branches meet are added behind two branches. -/
def addBranch (position : Nat) (add : Build Exit) : Build Exit := do
  let exit ← add
  if position = 0 then pure exit
  else
    link exit
    take 4
    if position = 2 then
      let _ ← addChoice 0
      let _ ← addState 0
    pure .plain

def addRepetition (least : Nat) (most : Option Nat) (consumes : Bool) (add : Build Exit) :
    Build Exit := do
  match least, most with
  | 0, some 1 =>
    let _ ← addChoice 2
    link (← add)
    let _ ← addState 0
    pure .plain
  | least, some most =>
    let exit ← addCopies add least
    if least = most then pure exit
    else
      let _ ← addState 0
      link (← addOptional add (most - least) exit)
      pure .plain
  | 0, none =>
    if consumes then
      let _ ← addChoice 1
      link (← add)
      pure .choice
    else
      link (← add)
      let _ ← addChoice 2
      let _ ← addChoice 2
      let _ ← addState 0
      pure .plain
  | least + 1, none =>
    link (← addCopies add (least + 1))
    let _ ← addChoice 1
    pure .choice

/-- Adds a pattern that is the branch `position` of a choice. -/
def addPattern (dir : Direction) : Pattern → Nat → Build Exit
  | .empty, position => addBranch position do
    let _ ← addState 0
    pure .plain
  | .literal chars, position => addBranch position do
    addChain (width chars)
    pure .plain
  | .set _ chars, position => addBranch position do
    addSet dir chars
    pure .plain
  | .look _, position => addBranch position do
    let _ ← addState 0
    pure .plain
  | .group _ body, position => addBranch position do
    match dir with
    | .forward =>
      let _ ← addState 0
      link (← addPattern dir body 0)
      let _ ← addState 0
      pure .plain
    | .backward => addPattern dir body 0
  | .rep _ least most body, position => addBranch position do
    addRepetition least most body.consumes (addPattern dir body 0)
  | .cat first second, position => addBranch position do
    match dir with
    | .forward =>
      link (← addPattern dir first 0)
      addPattern dir second 0
    | .backward =>
      link (← addPattern dir second 0)
      addPattern dir first 0
  | .alt first second, position => do
    match position, (Pattern.alt first second).branches.mapM Pattern.literal? with
    | 0, some literals => addLiterals dir literals
    | _, _ =>
      let position := max position 1
      let _ ← addPattern dir first position
      let _ ← addPattern dir second (position + 1)
    pure .plain

/-- The whole automaton: a loop over any bytes in front, unless the pattern is tied to the end of
the text at which reading starts, then the pattern as the group 0, and a state for the match. -/
def addAutomaton (dir : Direction) (p : Pattern) : Build Unit := do
  let tied := match dir with
    | .forward => p.startsWith .textStart
    | .backward => p.endsWith .textEnd
  if tied then
    let _ ← addState 0
  else
    let _ ← addChoice 2
    let _ ← addState 0
    let _ ← addRanges 1
  link (← addPattern dir (.group 0 p) 0)
  let _ ← addState 0

end Footprint

/-- Both automata stay within the limit. -/
def Pattern.fits (p : Pattern) : Bool :=
  ((Footprint.addAutomaton .forward p).run ⟨0, 0⟩).isSome &&
    ((Footprint.addAutomaton .backward p).run ⟨0, 0⟩).isSome

end OperatorGrammar
