import OperatorGrammar.Calc.Basic
import OperatorGrammar.Proofs.Operators.Realizes

/-!
# The operators of the calculator

The calculator's grammar is one for the usual operators of arithmetic: signs whose operand has no
lower limit, sums whose right operand is a product, and products whose right operand is a factor.
-/

namespace OperatorGrammar.Calc

open Grammar

/-- The grammar that the settings make. -/
def grammar : Grammar Symbol Level Int where
  precedence := (Draft.ofSettings settings).precedence
  order := compare
  starter token := (Draft.ofSettings settings).starters.lookup token
  follower token := (Draft.ofSettings settings).followers.lookup token

theorem ofSettings?_settings : Grammar.ofSettings? settings = .ok grammar := by
  rw [Grammar.ofSettings?, Draft.build?, Draft.precedence?_eq]
  rfl

/-- The level of a token, which is the level of its right operand, too. -/
def Symbol.level? : Symbol → Option Level
  | plus | minus => some .sum
  | star | slash => some .product
  | leftParen | rightParen | number | eof => none

def opening : Symbol → Option (Opening Symbol Level)
  | .plus | .minus => some (.unary .lowest)
  | .leftParen => some (.bracket .lowest .rightParen)
  | .number => some .leaf
  | .star | .slash | .rightParen | .eof => none

theorem close_inert {kind close : Symbol} {level : Level}
    (h : opening kind = some (.bracket level close)) :
    close.level? = none ∧ opening close = none ∧ close.level?.map Following.binary = none := by
  cases kind <;> cases h
  exact ⟨rfl, rfl, rfl⟩

def operators : Operators Symbol Level where
  precedence := Symbol.level?
  order := compare
  opening := opening
  following kind := kind.level?.map .binary
  close_inert := close_inert

/-! ## What the operators compute -/

def report (value : Option Int) (message : String) : Except (Fault Symbol) Int :=
  match value with
  | some value => .ok value
  | none => .error (.report message)

/-- The number that a literal stands for. -/
def readNumber (literal : String) : Except (Fault Symbol) Int :=
  match Signed.read literal.toList with
  | .ok value => .ok value
  | .error e => .error (.context ("`" ++ literal ++ "` is not a number") (.report e.message))

def negate (value : Int) : Except (Fault Symbol) Int :=
  report (Signed.check (-value)) s!"overflow negating {value}"

/-- A sum, difference, product or quotient. -/
def combine (operator : Symbol) (left right : Int) : Except (Fault Symbol) Int :=
  match operator with
  | .plus => report (Signed.check (left + right)) s!"overflow adding {right} to {left}"
  | .minus =>
    report (Signed.check (left - right)) s!"overflow subtracting {right} from {left}"
  | .star =>
    report (Signed.check (left * right)) s!"overflow multiplying {left} by {right}"
  | _ =>
    report (if right = 0 then none else Signed.check (left.tdiv right))
      s!"division of {left} by {right}"

def meaning : Meaning Symbol Int where
  leaf token := readNumber (token.literal.getD "")
  unary operator value := if operator.kind = .minus then negate value else .ok value
  bracket _ value _ := .ok value
  binary operator := combine operator.kind
  trailing _ value := .ok value

/-! ## The calculator's starters and followers -/

theorem checked_eq (value : Option Int) (message : String) :
    checked value message = Routine.propagate (report value message) := by
  cases value <;> rfl

/-- A routine ends with what it hands on. -/
theorem act_of_propagate {g : Grammar Symbol Level Int} {routine : Step Int}
    {heard : List (Answer Symbol Int)} {result : Except (Fault Symbol) Int}
    (h : routine heard = Routine.propagate result []) (lx : Lexer Symbol) :
    g.actLimit routine.toStrategy heard lx = some (result, lx) := by
  apply actLimit_of_done
  rw [Routine.toStrategy, h]
  cases result <;> rfl

section

variable (g : Grammar Symbol Level Int) (lx : Lexer Symbol)

theorem act_number {token : Token Symbol} (hcurrent : lx.current = some token) :
    g.actLimit number.toStrategy [] lx = some (readNumber (token.literal.getD ""), lx) := by
  have hcall : lx.call .current = (.token (some token), lx) := by rw [Lexer.call, hcurrent]
  have hnumber : number [.reply (.token (some token))] =
      Routine.propagate (readNumber (token.literal.getD "")) [] := by
    change (match Signed.read (token.literal.getD "").toList with
      | .ok value => pure value
      | .error e => Routine.fail _ : Step Int) [] = _
    rw [readNumber]
    cases Signed.read (token.literal.getD "").toList <;> rfl
  rw [actLimit_of_call g rfl, hcall]
  exact act_of_propagate hnumber lx

/-- The routines that make something of one operand. -/
theorem act_operand {routine : Step Int} {level : Level} {f : Int → Except (Fault Symbol) Int}
    (hask : routine [] = .error (.ask (.parse level)))
    (hfault : ∀ fault, routine [.parsed (.error fault)] = .error (.done (.error fault)))
    (hvalue : ∀ value, routine [.parsed (.ok value)] = Routine.propagate (f value) []) :
    g.actLimit routine.toStrategy [] lx =
      andThen (g.parseLimit level lx) fun value lx ↦ some (f value, lx) := by
  have hstrategy : routine.toStrategy [] = .ask (.parse level) := by
    rw [Routine.toStrategy, hask]
  have hfaults (fault : Fault Symbol) :
      routine.toStrategy ([] ++ [.parsed (.error fault)]) = .done (.error fault) := by
    rw [List.nil_append, Routine.toStrategy, hfault]
  rw [actLimit_of_parse g hstrategy hfaults]
  congr 1
  funext value lx
  exact act_of_propagate (hvalue value) lx

theorem act_positive :
    g.actLimit positive.toStrategy [] lx =
      andThen (g.parseLimit .lowest lx) fun value lx ↦ some (.ok value, lx) :=
  act_operand g lx rfl (fun _ ↦ rfl) fun _ ↦ rfl

theorem act_negative :
    g.actLimit negative.toStrategy [] lx =
      andThen (g.parseLimit .lowest lx) fun value lx ↦ some (negate value, lx) :=
  act_operand g lx rfl (fun _ ↦ rfl) fun _ ↦ congrFun (checked_eq _ _) []

theorem act_parenthesized (token : Token Symbol) :
    g.actLimit parenthesized.toStrategy [] lx =
      (Opening.bracket .lowest .rightParen).run g meaning token lx := by
  rw [actLimit_of_parse g rfl fun _ ↦ rfl]
  congr 1
  funext value lx
  rw [actLimit_of_call g rfl, Lexer.call]
  rcases lx.expect .rightParen with ⟨fault | closer, next⟩
  · exact actLimit_of_done g rfl next
  · exact actLimit_of_done g rfl next

variable (left : Int)

theorem act_add :
    g.actLimit (add left).toStrategy [] lx =
      andThen (g.parseLimit .sum lx) fun right lx ↦ some (combine .plus left right, lx) :=
  act_operand g lx rfl (fun _ ↦ rfl) fun _ ↦ congrFun (checked_eq _ _) []

theorem act_subtract :
    g.actLimit (subtract left).toStrategy [] lx =
      andThen (g.parseLimit .sum lx) fun right lx ↦ some (combine .minus left right, lx) :=
  act_operand g lx rfl (fun _ ↦ rfl) fun _ ↦ congrFun (checked_eq _ _) []

theorem act_multiply :
    g.actLimit (multiply left).toStrategy [] lx =
      andThen (g.parseLimit .product lx) fun right lx ↦ some (combine .star left right, lx) :=
  act_operand g lx rfl (fun _ ↦ rfl) fun _ ↦ congrFun (checked_eq _ _) []

theorem act_divide :
    g.actLimit (divide left).toStrategy [] lx =
      andThen (g.parseLimit .product lx) fun right lx ↦ some (combine .slash left right, lx) :=
  act_operand g lx rfl (fun _ ↦ rfl) fun _ ↦ congrFun (checked_eq _ _) []

end

theorem realizes_operators : grammar.Realizes operators meaning where
  precedence_eq := by
    funext kind
    cases kind <;> rfl
  order_eq := rfl
  starter_eq_none {kind} h := by
    cases kind <;> first | rfl | cases h
  act_starter {kind opening} h := by
    cases kind with
    | plus =>
      cases h
      refine ⟨_, rfl, fun token lx hkind _ ↦ ?_⟩
      simp only [act_positive, Opening.run, meaning, hkind, reduceCtorEq, if_false]
    | minus =>
      cases h
      refine ⟨_, rfl, fun token lx hkind _ ↦ ?_⟩
      simp only [act_negative, Opening.run, meaning, hkind, if_true]
    | leftParen =>
      cases h
      exact ⟨_, rfl, fun token lx _ _ ↦ act_parenthesized grammar lx token⟩
    | number =>
      cases h
      exact ⟨_, rfl, fun token lx _ hcurrent ↦ act_number grammar lx hcurrent⟩
    | star => cases h
    | slash => cases h
    | rightParen => cases h
    | eof => cases h
  follower_eq_none {kind} h := by
    cases kind <;> first | rfl | cases h
  act_follower {kind following} h := by
    cases kind with
    | plus =>
      cases h
      refine ⟨_, rfl, fun token left lx hkind _ ↦ ?_⟩
      simp only [act_add, Following.run, meaning, hkind]
    | minus =>
      cases h
      refine ⟨_, rfl, fun token left lx hkind _ ↦ ?_⟩
      simp only [act_subtract, Following.run, meaning, hkind]
    | star =>
      cases h
      refine ⟨_, rfl, fun token left lx hkind _ ↦ ?_⟩
      simp only [act_multiply, Following.run, meaning, hkind]
    | slash =>
      cases h
      refine ⟨_, rfl, fun token left lx hkind _ ↦ ?_⟩
      simp only [act_divide, Following.run, meaning, hkind]
    | leftParen => cases h
    | rightParen => cases h
    | number => cases h
    | eof => cases h

end OperatorGrammar.Calc
