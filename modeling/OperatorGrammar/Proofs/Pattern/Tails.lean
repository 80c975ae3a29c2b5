import Mathlib.Data.List.TakeWhile
import OperatorGrammar.Pattern.Reader

/-!
# Reading in front of more text

What is read from the start of a text is also read if more text follows, and the rest then has the
additional text behind it. Escapes and counts drop ignored characters behind them. If these reach
the end of the text then a comment may be open there, which goes on into what follows.
-/

namespace OperatorGrammar.Pattern

theorem dropWhile_append_of_eq_cons {accept : Char → Bool} {text rest : List Char} {c : Char}
    (h : text.dropWhile accept = c :: rest) (more : List Char) :
    (text ++ more).dropWhile accept = c :: (rest ++ more) := by
  rw [List.dropWhile_append, h]
  rfl

namespace Flags

variable {flags : Flags} {accept : Char → Bool} {text : List Char}

end Flags

section

variable {α β : Type} {read : List Char → Option (α × List Char)} {text left : List Char} {value : α}

end

namespace Escape

variable {flags : Flags} {text left : List Char}

end Escape

section

variable {flags : Flags} {text rest : List Char}

end

end OperatorGrammar.Pattern
