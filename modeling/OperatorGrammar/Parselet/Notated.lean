import OperatorGrammar.Parselet.Routine
import OperatorGrammar.Text.Signed

/-!
# Parselets that write an expression down

The usual kinds of starters and followers, with expressions as texts in which every operator stands
in front of its operands and parentheses show the grouping.
-/

namespace OperatorGrammar

/-- How tokens are written: their plain names, and the labels that stand in messages. -/
structure Naming (τ : Type) where
  name : τ → String
  label : τ → String

/-- What a token does at the start of an expression. -/
inductive StarterKind (τ π : Type) where
  | leaf
  | int
  | unary (level : π)
  | group (level : π) (close : τ)
  | list (level : π) (separator close : τ)
  | maybe (level : π) (stop : τ)
  | context (level : π) (message : String)
  | attempt (level : π)
  | skip (stop : τ)
  | fail (message : String)

/-- What a token does behind an expression. -/
inductive FollowerKind (τ π : Type) where
  | binary (level : π)
  | trailing
  | index (level : π) (close : τ)
  | call (level : π) (separator close : τ)
  | ternary (first : π) (middle : τ) (second : π)
  | extend (level : π)
  | nonassoc (level : π)
  | fail (message : String)

namespace Notated

variable {τ π : Type}

open Routine

abbrev Writing (τ π α : Type) := Routine τ π String α

/-- The name of the token that the strategy was called for. -/
def ownName (naming : Naming τ) : Writing τ π String := do
  return ((← current).map fun token ↦ naming.name token.kind).getD ""

def leaf (naming : Naming τ) : Writing τ π String := do
  return "[" ++ ((← current).map (Token.render naming.label)).getD "" ++ "]"

def int : Writing τ π String := do
  match (← current).bind Token.literal with
  | none => fail (.report "number without digits")
  | some literal =>
    match Signed.read literal.toList with
    | .ok value => return toString value
    | .error e => fail (.report e.message)

variable [DecidableEq τ]

/-- Expressions with separators between them, up to a closing token. -/
def items (level : π) (separator close : τ) : Writing τ π String := do
  if (← peek) = close then
    let _ ← advance
    return "<>"
  let texts ← loop (fun texts ↦ do
    let texts := (← operand level) :: texts
    if (← peek) = separator then
      let _ ← advance
      return .inl texts
    else
      expect close
      return .inr texts) []
  return "<" ++ " ".intercalate texts.reverse ++ ">"

def skip (sentinel stop : τ) : Writing τ π Nat :=
  loop (fun count ↦ do
    let kind ← advance
    return if kind = stop ∨ kind = sentinel then .inr count else .inl (count + 1)) 0

def starter (naming : Naming τ) (sentinel : τ) : StarterKind τ π → Writing τ π String
  | .leaf => leaf naming
  | .int => int
  | .unary level => do
    let name ← ownName naming
    let value ← operand level
    return s!"({name} {value})"
  | .group level close => do
    let value ← operand level
    expect close
    return "\x7b" ++ value ++ "\x7d"
  | .list level separator close => items level separator close
  | .maybe level stop => do
    let name ← ownName naming
    if (← peek) = stop then return s!"({name})"
    let value ← operand level
    return s!"({name} {value})"
  | .context level message => do
    match ← attempt level with
    | .ok value => return value
    | .error fault => fail (.context message fault)
  | .attempt level => do
    let name ← ownName naming
    match ← attempt level with
    | .ok value => return s!"({name} {value})"
    | .error _ => return s!"({name} #)"
  | .skip stop => do
    let name ← ownName naming
    let count ← skip sentinel stop
    return s!"({name} ~{count})"
  | .fail message => fail (.report message)

def follower (naming : Naming τ) (left : String) : FollowerKind τ π → Writing τ π String
  | .binary level => do
    let name ← ownName naming
    let right ← operand level
    return s!"({name} {left} {right})"
  | .trailing => do
    let name ← ownName naming
    return s!"({left} {name})"
  | .index level close => do
    let name ← ownName naming
    let value ← operand level
    expect close
    return s!"({name} {left} {value})"
  | .call level separator close => do
    let name ← ownName naming
    let list ← items level separator close
    return s!"({name} {left} {list})"
  | .ternary first middle second => do
    let name ← ownName naming
    let one ← operand first
    expect middle
    let two ← operand second
    return s!"({name} {left} {one} {two})"
  | .extend level => do
    let right ← operand level
    return s!"{left}, {right}"
  | .nonassoc level => do
    let own ← current
    let name := (own.map fun token ↦ naming.name token.kind).getD ""
    let value ← operand level
    if some (← peek) = own.map Token.kind then fail (.report s!"{name} does not chain")
    return s!"({name} {left} {value})"
  | .fail message => fail (.report message)

end Notated

end OperatorGrammar
