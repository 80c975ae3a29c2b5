import OperatorGrammar.Fault
import OperatorGrammar.Token

/-!
# Expression trees over operators

The operators of a language, and the trees that their levels allow. An operator that takes operands
binds behind an expression of some level or it does not; nothing else is known of the levels, which
need not even be ordered.

A tree that ends in an operand of an operator could be continued inside this operand just as well.
That is why a tree to the left of an operator has to be closed for it: the operator must not bind
behind any operand that reaches to the end of that tree.
-/

namespace OperatorGrammar

/-- What a token begins: a tree of its own, an operand at a level, or an expression in brackets. -/
inductive Opening (τ π : Type) where
  | leaf
  | unary (level : π)
  | bracket (level : π) (close : τ)

/-- What a token does to the tree on its left: it adds a right operand at a level, or nothing. -/
inductive Following (π : Type) where
  | binary (level : π)
  | trailing

/-- The operators of a language. The tokens that close brackets have no other use. -/
structure Operators (τ π : Type) where
  precedence : τ → Option π
  order : π → π → Ordering
  opening : τ → Option (Opening τ π)
  following : τ → Option (Following π)
  close_inert : ∀ {kind : τ} {level : π} {close : τ},
    opening kind = some (.bracket level close) →
      precedence close = none ∧ opening close = none ∧ following close = none

inductive Tree (τ : Type) where
  | leaf (token : Token τ)
  | unary (operator : Token τ) (operand : Tree τ)
  | bracket (opener : Token τ) (inner : Tree τ) (closer : Token τ)
  | binary (operator : Token τ) (left right : Tree τ)
  | trailing (operator : Token τ) (operand : Tree τ)

/-- What each kind of tree means, given what its parts mean. -/
structure Meaning (τ ε : Type) where
  leaf : Token τ → Except (Fault τ) ε
  unary : Token τ → ε → Except (Fault τ) ε
  bracket : Token τ → ε → Token τ → Except (Fault τ) ε
  binary : Token τ → ε → ε → Except (Fault τ) ε
  trailing : Token τ → ε → Except (Fault τ) ε

namespace Tree

variable {τ ε : Type}

/-- The tokens of a tree from left to right. -/
def yield : Tree τ → List (Token τ)
  | .leaf token => [token]
  | .unary operator operand => operator :: operand.yield
  | .bracket opener inner closer => opener :: (inner.yield ++ [closer])
  | .binary operator left right => left.yield ++ operator :: right.yield
  | .trailing operator operand => operand.yield ++ [operator]

/-- The value of a tree, or the first fault on the way to it. -/
def value (meaning : Meaning τ ε) : Tree τ → Except (Fault τ) ε
  | .leaf token => meaning.leaf token
  | .unary operator operand => do meaning.unary operator (← operand.value meaning)
  | .bracket opener inner closer => do meaning.bracket opener (← inner.value meaning) closer
  | .binary operator left right => do
    let first ← left.value meaning
    let second ← right.value meaning
    meaning.binary operator first second
  | .trailing operator operand => do meaning.trailing operator (← operand.value meaning)

end Tree

namespace Operators

variable {τ π : Type} (ops : Operators τ π)

/-- A token that neither begins nor continues an expression. -/
def Inert (kind : τ) : Prop :=
  ops.precedence kind = none ∧ ops.opening kind = none ∧ ops.following kind = none

/-- Whether a token binds behind an expression at level `min`. -/
def binds (min : π) (kind : τ) : Bool :=
  (ops.precedence kind).any fun level ↦ ops.order min level == .lt

theorem Inert.binds_eq {ops : Operators τ π} {kind : τ} (h : ops.Inert kind) (min : π) :
    ops.binds min kind = false := by
  simp [binds, h.1]

theorem Inert.ne_of_opening {ops : Operators τ π} {kind sentinel : τ} {opening : Opening τ π}
    (h : ops.Inert sentinel) (hopening : ops.opening kind = some opening) : kind ≠ sentinel := by
  rintro rfl
  simp [h.2.1] at hopening

theorem Inert.ne_of_following {ops : Operators τ π} {kind sentinel : τ} {following : Following π}
    (h : ops.Inert sentinel) (hfollowing : ops.following kind = some following) :
    kind ≠ sentinel := by
  rintro rfl
  simp [h.2.2] at hfollowing

/-- The levels of the operands that reach to the end of a tree, outermost first. -/
def rightEdge : Tree τ → List π
  | .unary operator operand =>
    match ops.opening operator.kind with
    | some (.unary level) => level :: rightEdge operand
    | _ => rightEdge operand
  | .binary operator _ right =>
    match ops.following operator.kind with
    | some (.binary level) => level :: rightEdge right
    | _ => rightEdge right
  | .leaf _ | .bracket .. | .trailing .. => []

/-- A token does not bind behind any operand at the end of the tree. -/
def Closed (tree : Tree τ) (kind : τ) : Prop :=
  ∀ level ∈ ops.rightEdge tree, ops.binds level kind = false

/-- The trees that may stand where an expression at level `min` is asked for. -/
inductive WellFormed : π → Tree τ → Prop where
  | leaf {min : π} {token : Token τ} :
      ops.opening token.kind = some .leaf → WellFormed min (.leaf token)
  | unary {min level : π} {operator : Token τ} {operand : Tree τ} :
      ops.opening operator.kind = some (.unary level) → WellFormed level operand →
      WellFormed min (.unary operator operand)
  | bracket {min level : π} {opener closer : Token τ} {inner : Tree τ} :
      ops.opening opener.kind = some (.bracket level closer.kind) → WellFormed level inner →
      WellFormed min (.bracket opener inner closer)
  | binary {min level : π} {operator : Token τ} {left right : Tree τ} :
      ops.following operator.kind = some (.binary level) → ops.binds min operator.kind = true →
      WellFormed min left → WellFormed level right → ops.Closed left operator.kind →
      WellFormed min (.binary operator left right)
  | trailing {min : π} {operator : Token τ} {operand : Tree τ} :
      ops.following operator.kind = some .trailing → ops.binds min operator.kind = true →
      WellFormed min operand → ops.Closed operand operator.kind →
      WellFormed min (.trailing operator operand)

variable {ops}

theorem closed_leaf (token : Token τ) (kind : τ) : ops.Closed (.leaf token) kind := by
  simp [Closed, rightEdge]

theorem closed_bracket (opener closer : Token τ) (inner : Tree τ) (kind : τ) :
    ops.Closed (.bracket opener inner closer) kind := by
  simp [Closed, rightEdge]

theorem closed_trailing (operator : Token τ) (operand : Tree τ) (kind : τ) :
    ops.Closed (.trailing operator operand) kind := by
  simp [Closed, rightEdge]

theorem closed_unary {operator : Token τ} {level : π} {operand : Tree τ} {kind : τ}
    (h : ops.opening operator.kind = some (.unary level)) :
    ops.Closed (.unary operator operand) kind ↔
      ops.binds level kind = false ∧ ops.Closed operand kind := by
  simp [Closed, rightEdge, h]

theorem closed_binary {operator : Token τ} {level : π} {left right : Tree τ} {kind : τ}
    (h : ops.following operator.kind = some (.binary level)) :
    ops.Closed (.binary operator left right) kind ↔
      ops.binds level kind = false ∧ ops.Closed right kind := by
  simp [Closed, rightEdge, h]

theorem closed_of_inert {kind : τ} (h : ops.Inert kind) (tree : Tree τ) : ops.Closed tree kind :=
  fun level _ ↦ h.binds_eq level

end Operators

end OperatorGrammar
