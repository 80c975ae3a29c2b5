import Mathlib
import OperatorGrammar.Lexer
import OperatorGrammar.Proofs.Lexicon.Numbers

/-!
# What becomes of a list of rules

A list of rules is refused for the first pattern that cannot be read, then for being empty, then for
its joined text. Otherwise each rule is marked with a number, which counts the rules before it and
all groups of their patterns. If these marks are the numbers of the rules' own groups in the joined
text, then of these groups exactly the winning rule's takes part in a match.
-/

namespace OperatorGrammar

variable {τ : Type} {properties : Properties}

namespace Lexicon

/-! ## The marks -/

end Lexicon

end OperatorGrammar
