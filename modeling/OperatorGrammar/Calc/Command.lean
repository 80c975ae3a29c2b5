import OperatorGrammar.Calc.Basic
import OperatorGrammar.CharSet.Blank
import OperatorGrammar.Text.Lines

/-!
# The commands of the calculator

What the two commands make of a file: the lines that they print, the line of complaint if there is
one, and the exit status. The drawing of a fault that is shown along with the complaint, with its
line of the text and marks below it, is left out.
-/

namespace OperatorGrammar.Calc

inductive Command where
  | eval
  | tokenize

/-- The complaint is what is wrong in words, without the drawing of the fault that belongs to it. -/
structure Outcome where
  printed : List String
  complaint : Option String
  status : Nat
deriving DecidableEq

namespace Outcome

def success (printed : List String) : Outcome := ⟨printed, none, 0⟩

def failure (printed : List String) (complaint : String) : Outcome := ⟨printed, some complaint, 1⟩

/-- Stops at a line of the file that has no value. -/
def stop (complaint : String) : Outcome := ⟨[], some complaint, 65⟩

def print (line : String) (outcome : Outcome) : Outcome :=
  { outcome with printed := line :: outcome.printed }

end Outcome

/-- What is wrong with a line, told by the token that was not expected or the one that was. -/
def complaint (number : Nat) (line : String) (fault : Fault Symbol) : String :=
  let what := match fault.root with
    | .noStarter token _ _ => "unexpected " ++ token.name ++ " in `" ++ line ++ "`"
    | .mismatch expected _ _ _ => "expected " ++ expected.name ++ " in `" ++ line ++ "`"
    | _ => fault.message Symbol.name
  s!"[line {number}] Error: " ++ what

/-- Prints the values of the lines, of which the first one has the given number, up to the first
line without a value. Of what is shown for that line only the complaint is kept, and not the fault
drawn below it. Blank lines are counted, but have no value to print. -/
def evalLines (calculator : Calculator) (name : String) : Nat → List String → Outcome
  | _, [] => .success []
  | number, line :: rest =>
    if CharSet.isBlankText line.toList then evalLines calculator name (number + 1) rest
    else
      match calculator.eval name line with
      | .ok value => (evalLines calculator name (number + 1) rest).print (toString value)
      | .error fault => .stop (complaint number line fault)

/-- Prints tokens up to the end of the text, which is printed as a token too. -/
def printTokens : List (Except (Fault Symbol) (Token Symbol)) → Outcome
  | [] => .success [Symbol.eof.name ++ " null"]
  | .ok token :: rest => (printTokens rest).print (token.render Symbol.name)
  | .error fault :: _ => .failure [] (fault.message Symbol.name)

/-- Runs a command on the contents of a file; they are missing if the file cannot be read. -/
def run (calculator : Calculator) (command : Command) (name : String) (contents : Option String) :
    Outcome :=
  match contents with
  | none => .failure [] ("reading `" ++ name ++ "` failed")
  | some text =>
    match command with
    | .eval => evalLines calculator name 1 (Lines.split text)
    | .tokenize => printTokens (calculator.tokens name text)

end OperatorGrammar.Calc
