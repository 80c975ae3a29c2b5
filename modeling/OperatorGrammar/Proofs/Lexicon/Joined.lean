import OperatorGrammar.Proofs.Lexicon.Marks
import OperatorGrammar.Proofs.Pattern.Joining

/-!
# Joined rules

The pattern of a lexicon is read from the texts of all its rules, in parentheses and joined by bars.
It is the choice between the patterns that the texts have on their own, unless a rule's text ends in
a comment, which takes up a part of the next one, or drops a group that counts in the numbering.
-/

namespace OperatorGrammar

open Pattern Pattern.Reader

variable {τ : Type} {properties : Properties}

namespace Lexicon

end Lexicon

end OperatorGrammar
