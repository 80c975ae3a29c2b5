import Mathlib
import OperatorGrammar.Proofs.Calc.Operators
import OperatorGrammar.Proofs.Lexer.Shows

/-!
# The lexicon of the calculator

The calculator's rules are read as seven patterns, six of them one character each.
-/

namespace OperatorGrammar.Calc

def digits : Pattern := .rep true 1 none (.set .unicode ⟨[48, 58]⟩)

def patterns : List (Symbol × Pattern) := [
  (.plus, .literal ['+']), (.minus, .literal ['-']), (.star, .literal ['*']),
  (.slash, .literal ['/']), (.leftParen, .literal ['(']), (.rightParen, .literal [')']),
  (.number, digits)]

theorem readEach_rules : Lexicon.readEach .listed rules = .ok patterns := by cbv

def lexicon : Lexicon Symbol where
  sentinel := .eof
  pattern := Pattern.ofBranches (Pattern.wrapFrom 1 (patterns.map Prod.snd))
  marks := Lexicon.marksFrom 1 patterns

theorem ofRules?_rules : Lexicon.ofRules? .eof rules = .ok lexicon := by cbv

theorem make?_eq : Calculator.make? = .ok ⟨lexicon, grammar⟩ := by
  rw [Calculator.make?, ofRules?_rules, ofSettings?_settings]
  rfl

theorem separates_patterns : lexicon.Separates patterns :=
  Lexicon.separates_of_ofRules? ofRules?_rules readEach_rules rfl

end OperatorGrammar.Calc
