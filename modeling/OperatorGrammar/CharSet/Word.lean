import OperatorGrammar.CharSet.Alphabetic
import OperatorGrammar.CharSet.Mark
import OperatorGrammar.CharSet.DecimalDigit

/-!
# Word characters

The characters that words are made of, in all scripts and in ASCII, and the named ASCII sets.
-/

namespace OperatorGrammar.CharSet

/-- The Unicode general category Pc, to which the underscore belongs. -/
def connector : CharSet :=
  ⟨[0x5F, 0x60, 0x203F, 0x2041, 0x2054, 0x2055, 0xFE33, 0xFE35, 0xFE4D, 0xFE50, 0xFF3F, 0xFF40]⟩

/-- The Unicode property Join_Control. -/
def joinControl : CharSet := ⟨[0x200C, 0x200E]⟩

/-- Alphabetic characters, marks, decimal digits, connectors and join controls. -/
def word : CharSet := alphabetic ∪ mark ∪ decimalDigit ∪ connector ∪ joinControl

namespace Ascii

def all : CharSet := ⟨[0, 0x80]⟩

def digit : CharSet := range '0' '9'

def lower : CharSet := range 'a' 'z'

def upper : CharSet := range 'A' 'Z'

def alpha : CharSet := upper ∪ lower

def alnum : CharSet := digit ∪ alpha

def word : CharSet := alnum ∪ singleton '_'

def space : CharSet := ⟨[0x9, 0xE, 0x20, 0x21]⟩

def blank : CharSet := singleton '\t' ∪ singleton ' '

def control : CharSet := ⟨[0, 0x20, 0x7F, 0x80]⟩

def graphic : CharSet := range '!' '~'

def printable : CharSet := range ' ' '~'

def punctuation : CharSet := graphic \ alnum

def hexDigit : CharSet := digit ∪ range 'A' 'F' ∪ range 'a' 'f'

/-- The sets that have a name in brackets, as in `[:alpha:]`. -/
def ofName? : String → Option CharSet
  | "alnum" => some alnum
  | "alpha" => some alpha
  | "ascii" => some all
  | "blank" => some blank
  | "cntrl" => some control
  | "digit" => some digit
  | "graph" => some graphic
  | "lower" => some lower
  | "print" => some printable
  | "punct" => some punctuation
  | "space" => some space
  | "upper" => some upper
  | "word" => some word
  | "xdigit" => some hexDigit
  | _ => none

end Ascii

end OperatorGrammar.CharSet
