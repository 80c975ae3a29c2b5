import OperatorGrammar.CharSet.Unprintable

/-!
# Quoted texts

A text between double quotes. The quote and the backslash are escaped, line feed, carriage return,
tab and null have letters of their own, and every other character that does not print is given by
its number in hexadecimal.
-/

namespace OperatorGrammar.Quoted

def encodeChar (c : Char) : List Char :=
  match c with
  | '"' => ['\\', '"']
  | '\\' => ['\\', '\\']
  | '\n' => ['\\', 'n']
  | '\r' => ['\\', 'r']
  | '\t' => ['\\', 't']
  | '\x00' => ['\\', '0']
  | c =>
    if c ∈ CharSet.unprintable then
      ['\\', 'u', '\x7b'] ++ Nat.toDigits 16 c.toNat ++ ['\x7d']
    else [c]

def quote (text : String) : String :=
  String.ofList (['"'] ++ text.toList.flatMap encodeChar ++ ['"'])

/-- An optional text, as `None` or `Some` with the text quoted. -/
def quoteOption : Option String → String
  | none => "None"
  | some text => s!"Some({quote text})"

end OperatorGrammar.Quoted
