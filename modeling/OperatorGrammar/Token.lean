/-!
# Tokens

A token is what a rule found in the text: its kind, the text it covers, and the offset at which it
starts. A token that covers nothing has no literal.
-/

namespace OperatorGrammar

structure Token (τ : Type) where
  kind : τ
  literal : Option String
  offset : Nat
deriving DecidableEq

namespace Token

variable {τ : Type}

def length (token : Token τ) : Nat := (token.literal.map String.utf8ByteSize).getD 0

/-- The offset behind the token. -/
def stop (token : Token τ) : Nat := token.offset + token.length

/-- The kind and the literal, with `null` for a literal that is missing. -/
def render (label : τ → String) (token : Token τ) : String :=
  label token.kind ++ " " ++ token.literal.getD "null"

end Token

end OperatorGrammar
