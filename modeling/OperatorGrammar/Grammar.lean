import OperatorGrammar.Lexer

/-!
# Operator grammars

What is to be known about a language besides its tokens in order to parse its expressions: for each
token how tightly it binds behind an expression, what it does at the start of an expression, and
what it does behind one.

What a token does is a strategy. It is told everything that it has heard so far and makes the next
move: it asks for something, or it is done. It sees the parser through the answers only.
-/

namespace OperatorGrammar

/-- What a strategy may ask for: an expression at a level, or an operation of the lexer. -/
inductive Request (τ π : Type) where
  | parse (level : π)
  | call (call : Lexer.Call τ)

inductive Answer (τ ε : Type) where
  | parsed (result : Except (Fault τ) ε)
  | reply (reply : Lexer.Reply τ)

inductive Move (τ π ε : Type) where
  | ask (request : Request τ π)
  | done (result : Except (Fault τ) ε)

abbrev Strategy (τ π ε : Type) := List (Answer τ ε) → Move τ π ε

/-- A token without precedence binds nowhere. The strategy of a follower is given the expression
that it continues. -/
structure Grammar (τ π ε : Type) where
  precedence : τ → Option π
  order : π → π → Ordering
  starter : τ → Option (Strategy τ π ε)
  follower : τ → Option (ε → Strategy τ π ε)

namespace Grammar

variable {τ π ε : Type}

/-- Whether a token behind an expression at level `min` continues it. -/
def binds (g : Grammar τ π ε) (min : π) (token : τ) : Bool :=
  (g.precedence token).any fun level ↦ g.order min level == .lt

end Grammar

/-- One setting in the description of a grammar. -/
inductive Setting (τ π ε : Type) where
  | precedence (token : τ) (level : π)
  | precedenceOf (level : τ → Option π)
  | order (compare : π → π → Ordering)
  | starter (token : τ) (strategy : Strategy τ π ε)
  | follower (token : τ) (strategy : ε → Strategy τ π ε)

/-- A grammar in the making: the settings so far, with later ones in front of earlier ones. -/
structure Draft (τ π ε : Type) where
  precedenceOf : Option (τ → Option π) := none
  precedences : List (τ × π) := []
  order : Option (π → π → Ordering) := none
  starters : List (τ × Strategy τ π ε) := []
  followers : List (τ × (ε → Strategy τ π ε)) := []

namespace Draft

variable {τ π ε : Type}

/-- A setting takes the place of an earlier one of the same thing. -/
def apply (draft : Draft τ π ε) : Setting τ π ε → Draft τ π ε
  | .precedence token level => { draft with precedences := (token, level) :: draft.precedences }
  | .precedenceOf level => { draft with precedenceOf := some level }
  | .order compare => { draft with order := some compare }
  | .starter token strategy => { draft with starters := (token, strategy) :: draft.starters }
  | .follower token strategy => { draft with followers := (token, strategy) :: draft.followers }

def ofSettings (settings : List (Setting τ π ε)) : Draft τ π ε := settings.foldl apply {}

variable [DecidableEq τ]

/-- The precedence set for a token, or else what the precedence function says. -/
def precedence (draft : Draft τ π ε) (token : τ) : Option π :=
  (draft.precedences.lookup token).or (draft.precedenceOf.bind (· token))

/-- What tells the precedence of a token: the function, if no precedence is set for any token, or the
precedences that are set and the function behind them, if there is one. -/
def precedence? (draft : Draft τ π ε) : Option (τ → Option π) :=
  match draft.precedenceOf with
  | some otherwise =>
    if draft.precedences.isEmpty then some otherwise
    else some fun token ↦ (draft.precedences.lookup token).or (otherwise token)
  | none =>
    if draft.precedences.isEmpty then none
    else some fun token ↦ draft.precedences.lookup token

/-- In each case it tells the same as the precedences and the function together. -/
theorem precedence?_eq (draft : Draft τ π ε) :
    draft.precedence? =
      if draft.precedenceOf.isNone && draft.precedences.isEmpty then none
      else some draft.precedence := by
  obtain ⟨precedenceOf, precedences, order, starters, followers⟩ := draft
  unfold precedence? precedence
  cases precedenceOf <;> cases precedences <;> simp

/-- A grammar needs a comparator, and precedences or a function for them. -/
def build? (draft : Draft τ π ε) : Except (ConfigError τ) (Grammar τ π ε) :=
  match draft.order with
  | none => .error (.missing .comparator)
  | some order =>
    match draft.precedence? with
    | none => .error (.missing .precedence)
    | some precedence =>
      .ok
        { precedence := precedence
          order := order
          starter := fun token ↦ draft.starters.lookup token
          follower := fun token ↦ draft.followers.lookup token }

end Draft

def Grammar.ofSettings? {τ π ε : Type} [DecidableEq τ] (settings : List (Setting τ π ε)) :
    Except (ConfigError τ) (Grammar τ π ε) :=
  (Draft.ofSettings settings).build?

end OperatorGrammar
