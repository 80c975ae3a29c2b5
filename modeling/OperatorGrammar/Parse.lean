import OperatorGrammar.Grammar

/-!
# Parsing expressions

An expression starts with a token that has a starter, and goes on for as long as the next token
binds tighter than the level asked for. Operands are parsed by the strategies of the tokens, which
ask for an expression at a level of their choice: the level of the token itself makes it associate
to the left, a lower one lets its right operand extend further.

Nothing forces a grammar to consume tokens, so the functions that call each other take the depth of
the computation that is allowed; `none` means that it did not suffice. The depth is no limit of the
parser, which allows ever more of it until the parse has an end.
-/

namespace OperatorGrammar

/-- Whether an attempt has an end at a depth, and else which depth comes next. -/
def deepen {α : Type} (attempt : Nat → Option α) (depth : Nat) : Id (Nat ⊕ Option α) :=
  match attempt depth with
  | none => .inl (2 * depth + 1)
  | some found => .inr (some found)

/-- What an attempt finds at the first of some growing depths that suffices. -/
def atSomeDepth {α : Type} (attempt : Nat → Option α) : Option α :=
  Id.run (repeatM (deepen attempt) 63)

namespace Grammar

variable {τ π ε : Type} [DecidableEq τ]

/-- A result and the lexer that is left. -/
abbrev Parsed (τ ε : Type) := Except (Fault τ) ε × Lexer τ

mutual

/-- Parses one expression at level `min`. -/
def parse (g : Grammar τ π ε) : Nat → π → Lexer τ → Option (Parsed τ ε)
  | 0, _, _ => none
  | depth + 1, min, lx =>
    match lx.advance with
    | (.error fault, lx) => some (.error fault, lx)
    | (.ok token, lx) =>
      match g.starter token with
      | none => some (.error (.noStarter token lx.currentOrEnd.literal lx.currentPlace), lx)
      | some strategy => do
        match ← act g depth strategy [] lx with
        | (.error fault, lx) => some (.error fault, lx)
        | (.ok left, lx) => climb g depth min left lx

/-- Continues the expression `left` for as long as the next token binds. -/
def climb (g : Grammar τ π ε) : Nat → π → ε → Lexer τ → Option (Parsed τ ε)
  | 0, _, _, _ => none
  | depth + 1, min, left, lx =>
    match lx.peek with
    | (.error fault, lx) => some (.error fault, lx)
    | (.ok token, lx) =>
      if g.binds min token then
        match lx.advance with
        | (.error fault, lx) => some (.error fault, lx)
        | (.ok token, lx) =>
          match g.follower token with
          | none => some (.error (.noFollower token lx.currentOrEnd.literal lx.currentPlace), lx)
          | some strategy => do
            match ← act g depth (strategy left) [] lx with
            | (.error fault, lx) => some (.error fault, lx)
            | (.ok left, lx) => climb g depth min left lx
      else some (.ok left, lx)

/-- Plays a strategy that has heard some answers. -/
def act (g : Grammar τ π ε) :
    Nat → Strategy τ π ε → List (Answer τ ε) → Lexer τ → Option (Parsed τ ε)
  | 0, _, _, _ => none
  | depth + 1, strategy, heard, lx =>
    match strategy heard with
    | .done result => some (result, lx)
    | .ask (.parse level) => do
      let (result, lx) ← parse g depth level lx
      act g depth strategy (heard ++ [.parsed result]) lx
    | .ask (.call call) =>
      act g depth strategy (heard ++ [.reply (lx.call call).1]) (lx.call call).2

end

/-- Parses one expression at level `min`, as deep as it takes. -/
def parseExpression (g : Grammar τ π ε) (min : π) (lx : Lexer τ) : Option (Parsed τ ε) :=
  atSomeDepth fun depth ↦ g.parse depth min lx

end Grammar

end OperatorGrammar
