/-!
# Integer levels

Ways to compare integer levels, and precedences given by a table.
-/

namespace OperatorGrammar

inductive LevelOrder where
  | natural
  | reverse
  | magnitude
  | equal
  | greater
  | less
deriving DecidableEq

namespace LevelOrder

/-- The last three find any two levels in the same relation. -/
def compare : LevelOrder → Int → Int → Ordering
  | natural, a, b => Ord.compare a b
  | reverse, a, b => Ord.compare b a
  | magnitude, a, b => Ord.compare a.natAbs b.natAbs
  | equal, _, _ => .eq
  | greater, _, _ => .gt
  | less, _, _ => .lt

end LevelOrder

/-- A table of precedences, in which a token may be without one, and the precedence of all tokens
that are not in it. -/
structure LevelTable (τ : Type) where
  entries : List (τ × Option Int)
  otherwise : Option Int

namespace LevelTable

variable {τ : Type} [DecidableEq τ]

def level (table : LevelTable τ) (token : τ) : Option Int :=
  (table.entries.lookup token).getD table.otherwise

end LevelTable

end OperatorGrammar
