import OperatorGrammar.Text.Cursor
import OperatorGrammar.Text.Quoted

/-!
# Faults

What can go wrong with a text, with the place where it did, and what can be wrong with the rules and
the grammar that are to read it. Faults are told apart by their cause; their wording, which needs
the names of the tokens, is made from it.
-/

namespace OperatorGrammar

/-- A stretch of a named text, in bytes. -/
structure Place where
  source : String
  text : String
  offset : Nat
  length : Nat
deriving DecidableEq

namespace Place

/-- Lines are counted from one. -/
def line (place : Place) : Nat := 1 + (takeWidth place.offset place.text.toList).count '\n'

end Place

/-- The first four are faults of the text: a match that belongs to no rule, a token in the place of
another, a token that starts no expression, and a token that has a precedence but continues no
expression. The others are made while an expression is built. -/
inductive Fault (τ : Type) where
  | unidentified (place : Place)
  | mismatch (expected found : τ) (literal : Option String) (place : Place)
  | noStarter (token : τ) (literal : Option String) (place : Place)
  | noFollower (token : τ) (literal : Option String) (place : Place)
  | report (message : String)
  | context (message : String) (cause : Fault τ)
deriving DecidableEq

namespace Fault

variable {τ : Type}

/-- The fault without the contexts around it. -/
def root : Fault τ → Fault τ
  | context _ cause => cause.root
  | fault => fault

/-- The contexts, outermost first, and the message of the fault inside them. -/
def messages (label : τ → String) : Fault τ → List String
  | unidentified _ => ["pattern matched but no rule captured the text"]
  | mismatch expected found _ _ => [s!"expected token {label expected} but found {label found}"]
  | noStarter token literal _ =>
    [s!"could not parse token {label token} of value {Quoted.quoteOption literal}"]
  | noFollower token literal _ =>
    [s!"token {label token} of value {Quoted.quoteOption literal} has a precedence " ++
      "but no suffix parselet"]
  | report message => [message]
  | context message cause => message :: cause.messages label

def message (label : τ → String) (fault : Fault τ) : String :=
  ((fault.messages label).head?).getD ""

def causes (label : τ → String) (fault : Fault τ) : List String := (fault.messages label).tail

/-- Advice for the faults that carry a place. -/
def help? (label : τ → String) : Fault τ → Option String
  | unidentified _ => some "the compiled alternation is out of sync with the declared rules"
  | mismatch expected _ _ _ => some ("use `" ++ label expected ++ "` here instead")
  | noStarter token _ _ => some s!"no prefix parselet is registered for {label token}"
  | noFollower token _ _ =>
    some s!"register a suffix parselet for {label token} or drop its precedence"
  | report _ => none
  | context _ cause => cause.help? label

/-- The place, with what is said about it. -/
def label? : Fault τ → Option (Place × String)
  | unidentified place => some (place, "matched here")
  | mismatch _ _ _ place => some (place, "this token")
  | noStarter _ _ place => some (place, "cannot start an expression")
  | noFollower _ _ place => some (place, "cannot continue an expression")
  | report _ => none
  | context _ cause => cause.label?

end Fault

/-- A part that a grammar cannot do without. -/
inductive GrammarPart where
  | comparator
  | precedence
deriving DecidableEq

def GrammarPart.name : GrammarPart → String
  | comparator => "precedence comparator"
  | precedence => "token precedence"

/-- What can be wrong with a list of rules or with the settings of a grammar. -/
inductive ConfigError (τ : Type) where
  | noRules
  | invalidPattern (token : τ) (pattern : String)
  | invalidAlternation
  | missing (part : GrammarPart)
deriving DecidableEq

namespace ConfigError

variable {τ : Type}

def message (label : τ → String) : ConfigError τ → String
  | noRules => "no token/pattern rule specified"
  | invalidPattern token pattern =>
    "invalid pattern `" ++ pattern ++ "` for token " ++ label token
  | invalidAlternation => "rule patterns cannot be combined into a single alternation"
  | missing part => s!"no {part.name} supplied to the grammar"

def help? : ConfigError τ → Option String
  | noRules => some "declare at least one (token, pattern) rule"
  | invalidPattern _ _ => none
  | invalidAlternation => some "capture group names must be unique across all rules"
  | missing _ => none

end ConfigError

end OperatorGrammar
