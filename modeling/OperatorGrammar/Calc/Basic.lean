import OperatorGrammar.Parselet.Routine
import OperatorGrammar.Text.Signed

/-!
# The calculator

Arithmetic on signed 64-bit numbers, one expression a line. Sums and products associate to the left,
and a sign takes everything to its right. Every operation is checked when its operands are known.
-/

namespace OperatorGrammar.Calc

inductive Symbol where
  | plus
  | minus
  | star
  | slash
  | leftParen
  | rightParen
  | number
  | eof
deriving DecidableEq

def Symbol.name : Symbol → String
  | plus => "Plus"
  | minus => "Minus"
  | star => "Star"
  | slash => "Slash"
  | leftParen => "LeftParen"
  | rightParen => "RightParen"
  | number => "Number"
  | eof => "Eof"

def rules : List (Rule Symbol) := [
  ⟨.plus, "\\+"⟩, ⟨.minus, "\\-"⟩, ⟨.star, "\\*"⟩, ⟨.slash, "/"⟩,
  ⟨.leftParen, "\\("⟩, ⟨.rightParen, "\\)"⟩, ⟨.number, "[0-9]+"⟩]

inductive Level where
  | lowest
  | sum
  | product
deriving DecidableEq, Ord

abbrev Step := Routine Symbol Level Int

open Routine

/-- The value of a checked operation, or a report. -/
def checked (value : Option Int) (message : String) : Step Int :=
  match value with
  | some value => pure value
  | none => fail (.report message)

def positive : Step Int := operand .lowest

def negative : Step Int := do
  let value ← operand .lowest
  checked (Signed.check (-value)) s!"overflow negating {value}"

def parenthesized : Step Int := do
  let value ← operand .lowest
  expect .rightParen
  return value

def number : Step Int := do
  let literal := ((← current).bind Token.literal).getD ""
  match Signed.read literal.toList with
  | .ok value => return value
  | .error e => fail (.context ("`" ++ literal ++ "` is not a number") (.report e.message))

def add (left : Int) : Step Int := do
  let right ← operand .sum
  checked (Signed.check (left + right)) s!"overflow adding {right} to {left}"

def subtract (left : Int) : Step Int := do
  let right ← operand .sum
  checked (Signed.check (left - right)) s!"overflow subtracting {right} from {left}"

def multiply (left : Int) : Step Int := do
  let right ← operand .product
  checked (Signed.check (left * right)) s!"overflow multiplying {left} by {right}"

/-- Division truncates toward zero. -/
def divide (left : Int) : Step Int := do
  let right ← operand .product
  let quotient := if right = 0 then none else Signed.check (left.tdiv right)
  checked quotient s!"division of {left} by {right}"

def settings : List (Setting Symbol Level Int) := [
  .precedence .plus .sum,
  .precedence .minus .sum,
  .precedence .star .product,
  .precedence .slash .product,
  .order compare,
  .starter .plus positive.toStrategy,
  .starter .minus negative.toStrategy,
  .starter .leftParen parenthesized.toStrategy,
  .starter .number number.toStrategy,
  .follower .plus fun left ↦ (add left).toStrategy,
  .follower .minus fun left ↦ (subtract left).toStrategy,
  .follower .star fun left ↦ (multiply left).toStrategy,
  .follower .slash fun left ↦ (divide left).toStrategy]

end Calc

/-- The rules and the grammar of the calculator, made ready for use. -/
structure Calculator where
  lexicon : Lexicon Calc.Symbol
  grammar : Grammar Calc.Symbol Calc.Level Int

namespace Calculator

open Calc

def make? : Except (ConfigError Symbol) Calculator := do
  let lexicon ← Lexicon.ofRules? .eof rules
  let grammar ← Grammar.ofSettings? settings
  return ⟨lexicon, grammar⟩

/-- The value of a whole line; nothing may be left over. Every line is parsed to an end. -/
def eval (calculator : Calculator) (name : String) (line : String) : Except (Fault Symbol) Int :=
  let lx := Lexer.ofText calculator.lexicon (some name) line
  match calculator.grammar.parseExpression .lowest lx with
  | none => .error (.report "the expression has no end")
  | some (.error fault, _) => .error fault
  | some (.ok value, lx) => (lx.expect .eof).1.map fun _ ↦ value

/-- The tokens of a text up to its end. -/
def tokens (calculator : Calculator) (name : String) (text : String) :
    List (Except (Fault Symbol) (Token Symbol)) :=
  (Lexer.ofText calculator.lexicon (some name) text).drain.1

end Calculator

end OperatorGrammar
