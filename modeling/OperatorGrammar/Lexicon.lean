import OperatorGrammar.Fault
import OperatorGrammar.Pattern.Match
import OperatorGrammar.Pattern.Reader

/-!
# Lexicons

A lexicon is a list of rules made ready for use. All rules together are one pattern, a choice
between them in order, in which each rule stands in a group of its own; the number of the group that
took part in a match tells the rule. Of two rules that match at one position the earlier one wins,
whatever the length of the other match.
-/

namespace OperatorGrammar

structure Rule (τ : Type) where
  token : τ
  pattern : String

/-- `marks` holds, in the order of the rules, the number of each rule's group with its token. The
`sentinel` stands for the end of the text. -/
structure Lexicon (τ : Type) where
  sentinel : τ
  pattern : Pattern
  marks : List (Nat × τ)

namespace Lexicon

variable {τ : Type}

/-- Reads every rule's pattern on its own, up to the first one that is refused. -/
def readEach (properties : Properties) : List (Rule τ) → Except (ConfigError τ) (List (τ × Pattern))
  | [] => .ok []
  | rule :: rules =>
    match Pattern.read? properties rule.pattern with
    | none => .error (.invalidPattern rule.token rule.pattern)
    | some p => (readEach properties rules).map ((rule.token, p) :: ·)

/-- The text of the choice between the rules. -/
def joinedText (rules : List (Rule τ)) : String :=
  "|".intercalate (rules.map fun rule ↦ "(" ++ rule.pattern ++ ")")

/-- Groups are numbered by their opening parentheses: behind a rule's group come the groups of its
own pattern, and then the group of the next rule. -/
def marksFrom (first : Nat) : List (τ × Pattern) → List (Nat × τ)
  | [] => []
  | (token, p) :: rest => (first, token) :: marksFrom (first + p.groupCount) rest

/-- The properties that patterns may name are those of the program, unless others are given. -/
def ofRules? (sentinel : τ) (rules : List (Rule τ)) (properties : Properties := .listed) :
    Except (ConfigError τ) (Lexicon τ) :=
  match readEach properties rules with
  | .error e => .error e
  | .ok [] => .error .noRules
  | .ok patterns =>
    match Pattern.read? properties (joinedText rules) with
    | none => .error .invalidAlternation
    | some p => .ok ⟨sentinel, p, marksFrom 1 patterns⟩

/-- The first rule whose group took part in a match, and what the group matched. -/
def identify? (lexicon : Lexicon τ) (found : Match) : Option (τ × Extent) :=
  lexicon.marks.findSome? fun (index, token) ↦ (found.group? index).map (token, ·)

end Lexicon

end OperatorGrammar
