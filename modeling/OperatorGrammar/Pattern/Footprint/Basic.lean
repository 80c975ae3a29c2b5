import OperatorGrammar.Pattern.Basic

/-!
# The size of an automaton

A pattern is admitted only if the automaton for it stays within a limit. Building is followed state
by state, and ends as soon as the limit is passed; no transition is kept beyond what the size needs.
-/

namespace OperatorGrammar

/-- What has been built: the number of states, and the bytes that they take. -/
structure Footprint where
  states : Nat
  bytes : Nat

namespace Footprint

/-- The bytes that an automaton may take. -/
def limit : Nat := 10 * 1024 * 1024

/-- A step of building, which fails beyond the limit. -/
abbrev Build := StateT Footprint Option

/-- Takes bytes. -/
def take (bytes : Nat) : Build Unit := fun built ↦
  if limit < built.bytes + bytes then none
  else some ((), { built with bytes := built.bytes + bytes })

/-- Adds a state with so many bytes of transitions, and returns its number. -/
def addState (bytes : Nat) : Build Nat := fun built ↦
  if limit < built.bytes + 32 + bytes then none
  else some (built.states, ⟨built.states + 1, built.bytes + 32 + bytes⟩)

/-- A state with a list of transitions on ranges of bytes. -/
def addRanges (count : Nat) : Build Nat := addState (8 * count)

/-- A state that chooses between others. -/
def addChoice (count : Nat) : Build Nat := addState (4 * count)

/-- What a part of an automaton ends with. One more branch of a choice takes space, while any other
state has room for the one transition that leads on. -/
inductive Exit where
  | plain
  | choice

/-- Leads on from the end of a part. -/
def link : Exit → Build Unit
  | .plain => pure ()
  | .choice => take 4

/-- So many states of one transition in a row. -/
def addChain : Nat → Build Unit
  | 0 => pure ()
  | count + 1 => do
    let _ ← addState 0
    addChain count

/-- The direction in which the automaton reads the text. -/
inductive Direction where
  | forward
  | backward

end Footprint

end OperatorGrammar
