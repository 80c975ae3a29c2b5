import OperatorGrammar.CharSet.Utf8
import OperatorGrammar.Pattern.Footprint.Basic
import Std.Data.TreeMap

/-!
# The size of a set

An automaton reads bytes. A set within ASCII is one state with a transition for each range; for
any other set the sequences of bytes are built one by one, and states that are equal are shared as
far as a table of bounded size remembers them.
-/

namespace OperatorGrammar.Footprint

/-- The states that are remembered, with what they were built from, by their place in the table. A
place remembers only what came last. -/
abbrev Table (α : Type) := Std.TreeMap Nat (α × Nat)

abbrev BuildWith (α : Type) := StateT (Table α) Build

/-- The place of a list of numbers in a table. -/
def place (size : Nat) (values : List Nat) : Nat :=
  let hash : UInt64 := values.foldl (fun hash value ↦ (hash ^^^ value.toUInt64) * 1099511628211)
    14695981039346656037
  hash.toNat % size

/-- The state built from a key, if the table remembers it, and a new one otherwise. -/
def share {α : Type} [DecidableEq α] (place : Nat) (key : α) (add : Build Nat) :
    BuildWith α Nat := do
  let build : BuildWith α Nat := do
    let state ← add
    modify (·.insert place (key, state))
    pure state
  match (← get)[place]? with
  | some (found, state) => if found = key then pure state else build
  | none => build

/-- A transition on a range of bytes to a state. -/
structure Arrow where
  first : UInt8
  last : UInt8
  state : Nat
deriving DecidableEq

def Arrow.values (arrow : Arrow) : List Nat :=
  [arrow.first.toNat, arrow.last.toNat, arrow.state]

/-- A state on the path of the sequence read last. Sequences may still go through it, and so the
state of its last transition is not known yet. -/
structure Open where
  arrows : List Arrow
  pending : Option (UInt8 × UInt8)

/-- The transitions when the last one leads to `state`. -/
def Open.resolve (o : Open) (state : Nat) : List Arrow :=
  match o.pending with
  | none => o.arrows
  | some (first, last) => o.arrows ++ [⟨first, last, state⟩]

/-- Builds the states of a path from its end. The path leads to `target`. -/
def closePath (target : Nat) : List Open → BuildWith (List Arrow) Nat
  | [] => pure target
  | o :: rest => do
    let arrows := o.resolve (← closePath target rest)
    share (place 10000 (arrows.flatMap Arrow.values)) arrows (addRanges arrows.length)

/-- Follows the path as far as it has the same ranges, closes what remains of it, and goes on with
the ranges that are left. -/
def addPath (target : Nat) : List Open → List (UInt8 × UInt8) → BuildWith (List Arrow) (List Open)
  | o :: rest, range :: ranges =>
    if o.pending = some range then do
      let rest ← addPath target rest ranges
      pure (o :: rest)
    else do
      let state ← closePath target rest
      pure (⟨o.resolve state, some range⟩ :: ranges.map fun range ↦ ⟨[], some range⟩)
  | path, _ => pure path

/-- Read forward, sequences share their beginnings, and equal states their continuations. -/
def addSetForward (chars : CharSet) : Build Unit := do
  let target ← addState 0
  let build : BuildWith (List Arrow) Unit := do
    let path ← chars.byteRanges.foldlM (addPath target) [⟨[], none⟩]
    let _ ← closePath target path
  build.run' ∅

/-- Read backward, a sequence shares its first bytes, which are read last, with earlier ones. -/
def addSetBackward (chars : CharSet) : Build Unit := do
  let _ ← addChoice 0
  let target ← addState 0
  let build : BuildWith Arrow Unit :=
    chars.byteRanges.forM fun ranges ↦ do
      let _ ← ranges.foldlM (fun state (first, last) ↦ share
        (place 1000 [state, first.toNat, last.toNat]) ⟨first, last, state⟩ (addState 0)) target
      StateT.lift (take 4)
  build.run' ∅

def addSet (dir : Direction) (chars : CharSet) : Build Unit := do
  if chars.isAscii then
    let _ ← addState 0
    let _ ← addRanges chars.ranges.length
  else
    match dir with
    | .forward => addSetForward chars
    | .backward => addSetBackward chars

end OperatorGrammar.Footprint
