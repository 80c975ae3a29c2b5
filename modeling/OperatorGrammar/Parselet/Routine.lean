import OperatorGrammar.Parse

/-!
# Routines

A strategy written as a sequence of steps. A routine reads the answers heard so far in order; at the
first request without an answer it stops with that request as its move. Faults that are heard end
the routine unless they are asked for.
-/

namespace OperatorGrammar

abbrev Routine (τ π ε α : Type) := StateT (List (Answer τ ε)) (Except (Move τ π ε)) α

namespace Routine

variable {τ π ε α σ : Type}

/-- Asks, and takes the answer if it is of the kind that the request calls for. -/
def ask (request : Request τ π) (accept : Answer τ ε → Option α) : Routine τ π ε α := fun heard ↦
  match heard with
  | [] => .error (.ask request)
  | answer :: rest =>
    match accept answer with
    | some value => .ok (value, rest)
    | none => .error (.ask request)

def fail (fault : Fault τ) : Routine τ π ε α := fun _ ↦ .error (.done (.error fault))

/-- Passes a fault on. -/
def propagate : Except (Fault τ) α → Routine τ π ε α
  | .ok value => pure value
  | .error fault => fail fault

/-- An expression at a level, or the fault that there was instead. -/
def attempt (level : π) : Routine τ π ε (Except (Fault τ) ε) :=
  ask (.parse level) fun
    | .parsed result => some result
    | _ => none

def operand (level : π) : Routine τ π ε ε := do propagate (← attempt level)

def kindOf : Answer τ ε → Option (Except (Fault τ) τ)
  | .reply (.kind kind) => some (.ok kind)
  | .reply (.fault fault) => some (.error fault)
  | _ => none

def tokenOf : Answer τ ε → Option (Except (Fault τ) (Option (Token τ)))
  | .reply (.token token) => some (.ok token)
  | .reply (.fault fault) => some (.error fault)
  | _ => none

def advance : Routine τ π ε τ := do propagate (← ask (.call .advance) kindOf)

def peek : Routine τ π ε τ := do propagate (← ask (.call .peek) kindOf)

def expect (token : τ) : Routine τ π ε Unit := do
  let _ ← propagate (← ask (.call (.expect token)) tokenOf)

def current : Routine τ π ε (Option (Token τ)) := do
  propagate (← ask (.call .current) tokenOf)

/-- Repeats a step until it returns a result. Each round is to ask for something, so that there are
no more rounds than answers. -/
def iterate (step : σ → Routine τ π ε (σ ⊕ α)) : Nat → σ → Routine τ π ε α
  | 0, _ => fun _ ↦ .error (.ask (.call .current))
  | rounds + 1, state => do
    match ← step state with
    | .inl state => iterate step rounds state
    | .inr value => pure value

def loop (step : σ → Routine τ π ε (σ ⊕ α)) (state : σ) : Routine τ π ε α := fun heard ↦
  iterate step (heard.length + 1) state heard

def toStrategy (routine : Routine τ π ε ε) : Strategy τ π ε := fun heard ↦
  match routine heard with
  | .error move => move
  | .ok (value, _) => .done (.ok value)

end Routine

end OperatorGrammar
