/-!
# Lines of a text

A line ends with a line feed, or with a carriage return and a line feed. A last line without an end
counts if it is not empty, and keeps a carriage return.
-/

namespace OperatorGrammar.Lines

/-- Drops a carriage return from the end of a line that is given in reverse. -/
def dropReturn : List Char → List Char
  | '\r' :: line => line
  | line => line

/-- The lines of a text, when `line` has been read of the first one, in reverse. -/
def splitFrom (line : List Char) : List Char → List (List Char)
  | [] => if line.isEmpty then [] else [line.reverse]
  | c :: rest =>
    if c = '\n' then (dropReturn line).reverse :: splitFrom [] rest else splitFrom (c :: line) rest

def split (text : String) : List String := (splitFrom [] text.toList).map String.ofList

end OperatorGrammar.Lines
