import OperatorGrammar.Main
import OperatorGrammar.Parselet.Notated
import OperatorGrammar.Parselet.Levels
import OperatorGrammar.Proofs.Pattern.Reach
import OperatorGrammar.Proofs.Pattern.Renumbering
import OperatorGrammar.Proofs.Pattern.Alternation
import OperatorGrammar.Proofs.Lexicon.Attempts
import OperatorGrammar.Proofs.Lexicon.Numbers
import OperatorGrammar.Proofs.Lexer.Attempts
import OperatorGrammar.Proofs.Lexer.Steps
import OperatorGrammar.Proofs.Lexer.Tokens
import OperatorGrammar.Proofs.Parse.Equations
import OperatorGrammar.Proofs.Operators.Tree
import OperatorGrammar.Proofs.Operators.Unambiguous
import OperatorGrammar.Proofs.Operators.Realizes
import OperatorGrammar.Proofs.Operators.Parsing
import OperatorGrammar.Proofs.Calc.Operators
import OperatorGrammar.Proofs.Lexer.Shows
import OperatorGrammar.Proofs.Calc.Descent
import OperatorGrammar.Proofs.Calc.Agreement
import OperatorGrammar.Proofs.Text.Signed
import OperatorGrammar.Proofs.Calc.Lexemes
import OperatorGrammar.Proofs.Calc.Expression
import OperatorGrammar.Proofs.Calc.RoundTrip
import OperatorGrammar.Proofs.Parse.Depth
import OperatorGrammar.Proofs.Text.Slices
import OperatorGrammar.Proofs.Lexer.Invariant
import OperatorGrammar.Proofs.Lexer.Lookahead
import OperatorGrammar.Proofs.Lexer.Progress
import OperatorGrammar.Proofs.Lexer.Ahead
import OperatorGrammar.Proofs.Parse.Dispatches
import OperatorGrammar.Proofs.Parse.Termination
import OperatorGrammar.Proofs.Parselet.Routines
import OperatorGrammar.Proofs.Parselet.Notated
import OperatorGrammar.Proofs.Lexer.End
import OperatorGrammar.Proofs.Lexer.Contents
import OperatorGrammar.Proofs.Lexer.Places
import OperatorGrammar.Proofs.Parse.Correspondence
import OperatorGrammar.Proofs.Parselet.Correspondence
import OperatorGrammar.Proofs.Parselet.Honest
import OperatorGrammar.Proofs.Parse.Levels
import OperatorGrammar.Proofs.Parse.Contents
import OperatorGrammar.Proofs.Parse.Record
import OperatorGrammar.Proofs.Parse.Faithful
import OperatorGrammar.Proofs.Lexer.Unread
import OperatorGrammar.Proofs.Parse.Unread
import OperatorGrammar.Proofs.Parse.Extension
import OperatorGrammar.Proofs.Lexer.Drained
import OperatorGrammar.Proofs.Calc.Scanner
import OperatorGrammar.Proofs.Lexer.Identified
import OperatorGrammar.Proofs.Calc.Evaluation
import OperatorGrammar.Proofs.Calc.LineTokens
import OperatorGrammar.Proofs.Grammar.Declarations
import OperatorGrammar.Proofs.Pattern.Numbering
import OperatorGrammar.Proofs.Lexicon.Outcome
