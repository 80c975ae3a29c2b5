import OperatorGrammar.CharSet.Basic

/-!
# White space

The characters with the Unicode property White_Space. The byte order mark and the zero width space
are not among them.
-/

namespace OperatorGrammar.CharSet

/-- The Unicode property White_Space. -/
def blank : CharSet := ⟨[
    0x9, 0xE, 0x20, 0x21, 0x85, 0x86, 0xA0, 0xA1, 0x1680, 0x1681, 0x2000, 0x200B, 0x2028, 0x202A,
    0x202F, 0x2030, 0x205F, 0x2060, 0x3000, 0x3001]⟩

theorem mem_blank_of_isWhitespace {c : Char} (h : c.isWhitespace = true) : c ∈ blank := by
  simp only [Char.isWhitespace, Bool.or_eq_true, decide_eq_true_eq] at h
  obtain ((h | h) | h) | h := h <;> subst h <;> decide

/-- A text is blank if it holds nothing but white space. -/
def isBlankText (text : List Char) : Bool := text.all blank.contains

end OperatorGrammar.CharSet
