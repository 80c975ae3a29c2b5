import OperatorGrammar.Proofs.Calc.Lexemes
import OperatorGrammar.Proofs.Calc.Operators
import OperatorGrammar.Proofs.Text.Signed

/-!
# Expressions of the calculator

Expressions as trees, written down with as few parentheses as possible, and what they are worth:
exactly, or with every operation checked in the order in which operands are known.
-/

namespace OperatorGrammar.Calc

inductive Sign where
  | plus
  | minus

inductive Operator where
  | plus
  | minus
  | times
  | divide

inductive Expr where
  | number (numeral : Numeral)
  | signed (sign : Sign) (operand : Expr)
  | binary (operator : Operator) (left right : Expr)

namespace Sign

def lexeme : Sign → Lexeme
  | plus => .mark .plus '+' rfl
  | minus => .mark .minus '-' rfl

end Sign

namespace Operator

def lexeme : Operator → Lexeme
  | plus => .mark .plus '+' rfl
  | minus => .mark .minus '-' rfl
  | times => .mark .star '*' rfl
  | divide => .mark .slash '/' rfl

def level : Operator → Level
  | plus | minus => .sum
  | times | divide => .product

theorem level?_lexeme (operator : Operator) :
    operator.lexeme.kind.level? = some operator.level := by
  cases operator <;> rfl

end Operator

namespace Expr

/-! ## Writing an expression down -/

/-- The level of a binary operation. -/
def level? : Expr → Option Level
  | number _ | signed _ _ => none
  | binary operator _ _ => some operator.level

def parenthesize (lexemes : List Lexeme) : List Lexeme :=
  .mark .leftParen '(' rfl :: (lexemes ++ [.mark .rightParen ')' rfl])

/-- The lexemes of an expression, which may be `followed` by an operator inside the same
parentheses. Parentheses stand around a left operand of a lower level, around a right operand of a
level that is not higher, and around a sign and its operand if an operator follows. -/
def lexemes : Bool → Expr → List Lexeme
  | _, number numeral => [.number numeral]
  | followed, signed sign operand =>
    let plain := sign.lexeme :: operand.lexemes false
    if followed then parenthesize plain else plain
  | followed, binary operator left right =>
    (if left.level?.any fun level ↦ compare level operator.level == .lt then
      parenthesize (left.lexemes false) else left.lexemes true) ++
    operator.lexeme ::
    if right.level?.any fun level ↦ compare operator.level level != .lt then
      parenthesize (right.lexemes false) else right.lexemes followed

/-! ## What an expression is worth -/

/-- The exact value; division truncates toward zero. -/
def exact : Expr → Int
  | number numeral => Nat.ofDigitChars 10 numeral.chars 0
  | signed .plus operand => operand.exact
  | signed .minus operand => -operand.exact
  | binary .plus left right => left.exact + right.exact
  | binary .minus left right => left.exact - right.exact
  | binary .times left right => left.exact * right.exact
  | binary .divide left right => left.exact.tdiv right.exact

/-- The expression and all that it is made of, operands first and from left to right. -/
def nodes : Expr → List Expr
  | number numeral => [number numeral]
  | signed sign operand => operand.nodes ++ [signed sign operand]
  | binary operator left right => left.nodes ++ right.nodes ++ [binary operator left right]

/-- The exact value exists and is in range. -/
def Sound (e : Expr) : Prop :=
  Signed.InRange e.exact ∧ ∀ left right, e = binary .divide left right → right.exact ≠ 0

/-- What is wrong with an expression whose operands have their exact values. -/
def fault? (e : Expr) : Option (Fault Symbol) :=
  match e with
  | number numeral =>
    if Signed.InRange e.exact then none
    else some (.context ("`" ++ String.ofList numeral.chars ++ "` is not a number")
      (.report Signed.ReadError.tooLarge.message))
  | signed .plus _ => none
  | signed .minus operand =>
    if Signed.InRange e.exact then none
    else some (.report s!"overflow negating {operand.exact}")
  | binary .plus left right =>
    if Signed.InRange e.exact then none
    else some (.report s!"overflow adding {right.exact} to {left.exact}")
  | binary .minus left right =>
    if Signed.InRange e.exact then none
    else some (.report s!"overflow subtracting {right.exact} from {left.exact}")
  | binary .times left right =>
    if Signed.InRange e.exact then none
    else some (.report s!"overflow multiplying {left.exact} by {right.exact}")
  | binary .divide left right =>
    if right.exact ≠ 0 ∧ Signed.InRange e.exact then none
    else some (.report s!"division of {left.exact} by {right.exact}")

/-- A value, unless there is a fault. -/
def settle (fault : Option (Fault Symbol)) (value : Int) : Except (Fault Symbol) Int :=
  match fault with
  | some fault => .error fault
  | none => .ok value

/-- The exact value, unless some part of the expression is at fault; then the first such part, with
operands before what is made of them, decides. -/
def outcome (e : Expr) : Except (Fault Symbol) Int :=
  settle (e.nodes.findSome? fault?) e.exact

/-- The value that the checked operations give. -/
def value : Expr → Except (Fault Symbol) Int
  | number numeral => readNumber (String.ofList numeral.chars)
  | signed .plus operand => operand.value
  | signed .minus operand => operand.value >>= negate
  | binary operator left right =>
    left.value >>= fun first ↦ right.value >>= combine operator.lexeme.kind first

theorem report_check (value : Int) (message : String) :
    report (Signed.check value) message =
      settle (if Signed.InRange value then none else some (.report message)) value := by
  unfold Signed.check
  split <;> rfl

theorem readNumber_numeral (numeral : Numeral) :
    readNumber (String.ofList numeral.chars) =
      settle (number numeral).fault? (number numeral).exact := by
  have hread := Signed.read_of_isDigit numeral.ne_nil numeral.isDigit
  rw [readNumber, String.toList_ofList, hread, fault?, exact]
  by_cases hrange : Signed.InRange (Nat.ofDigitChars 10 numeral.chars 0)
  · simp only [if_pos hrange]
    rfl
  · simp only [if_neg hrange]
    rfl

theorem negate_exact (operand : Expr) :
    negate operand.exact = settle (signed .minus operand).fault? (signed .minus operand).exact :=
  report_check _ _

theorem combine_exact (operator : Operator) (left right : Expr) :
    combine operator.lexeme.kind left.exact right.exact =
      settle (binary operator left right).fault? (binary operator left right).exact := by
  cases operator with
  | plus => exact report_check _ _
  | minus => exact report_check _ _
  | times => exact report_check _ _
  | divide =>
    by_cases hzero : right.exact = 0
    · simp [combine, Operator.lexeme, Lexeme.kind, fault?, hzero, report, settle]
    · have hcheck := report_check (left.exact.tdiv right.exact)
        s!"division of {left.exact} by {right.exact}"
      simpa [combine, Operator.lexeme, Lexeme.kind, fault?, exact, hzero] using hcheck

/-- A step after a value is settled by the faults of both. -/
theorem settle_bind {fault fault' : Option (Fault Symbol)} {value value' : Int}
    {step : Int → Except (Fault Symbol) Int} (h : step value = settle fault' value') :
    settle fault value >>= step = settle (fault.or fault') value' := by
  cases fault with
  | some fault => rfl
  | none => exact h

/-- Checking every operation when its operands are known finds the first part at fault. -/
theorem value_eq_outcome (e : Expr) : e.value = e.outcome := by
  unfold outcome
  induction e with
  | number numeral => rw [value, nodes, readNumber_numeral, List.findSome?_singleton]
  | signed sign operand ih =>
    rw [nodes, List.findSome?_append, List.findSome?_singleton]
    cases sign with
    | plus => rw [value, ih, fault?, Option.or_none, exact]
    | minus => rw [value, ih, settle_bind (negate_exact operand)]
  | binary operator left right ihleft ihright =>
    let whole := binary operator left right
    calc
      whole.value = settle (left.nodes.findSome? fault?) left.exact >>= fun first ↦
          settle (right.nodes.findSome? fault?) right.exact >>=
            combine operator.lexeme.kind first := by rw [value, ihleft, ihright]
      _ = settle ((left.nodes.findSome? fault?).or ((right.nodes.findSome? fault?).or whole.fault?))
          whole.exact := settle_bind (settle_bind (combine_exact operator left right))
      _ = settle (whole.nodes.findSome? fault?) whole.exact := by
        rw [nodes, List.findSome?_append, List.findSome?_append, List.findSome?_singleton,
          Option.or_assoc]

/-! ## Expressions without a fault -/

theorem mem_nodes_self (e : Expr) : e ∈ e.nodes := by
  cases e <;> simp [nodes]

theorem fault?_eq_none_of_sound {e : Expr} (h : e.Sound) : e.fault? = none := by
  obtain ⟨hrange, hzero⟩ := h
  unfold fault?
  split
  case h_2 => rfl
  case h_7 left right => exact if_pos ⟨hzero left right rfl, hrange⟩
  all_goals exact if_pos hrange

theorem inRange_of_ite_eq_none {value : Int} {fault : Fault Symbol}
    (h : (if Signed.InRange value then none else some fault) = none) : Signed.InRange value := by
  by_contra hrange
  rw [if_neg hrange] at h
  cases h

/-- No part is at fault only if all parts have exact values in range. -/
theorem sound_of_fault?_eq_none {e : Expr} (h : ∀ node ∈ e.nodes, node.fault? = none) :
    ∀ node ∈ e.nodes, node.Sound := by
  induction e with
  | number numeral =>
    intro node hnode
    obtain rfl := List.mem_singleton.1 hnode
    exact ⟨inRange_of_ite_eq_none (h _ hnode), nofun⟩
  | signed sign operand ih =>
    have hoperand := ih fun node hnode ↦ h node (List.mem_append_left _ hnode)
    have hself := h _ (mem_nodes_self _)
    intro node hnode
    rcases List.mem_append.1 hnode with hnode | hnode
    · exact hoperand node hnode
    · obtain rfl := List.mem_singleton.1 hnode
      cases sign with
      | plus => exact ⟨(hoperand operand operand.mem_nodes_self).1, nofun⟩
      | minus => exact ⟨inRange_of_ite_eq_none hself, nofun⟩
  | binary operator left right ihleft ihright =>
    have hself := h _ (mem_nodes_self _)
    intro node hnode
    rcases List.mem_append.1 hnode with hnode | hnode
    · rcases List.mem_append.1 hnode with hnode | hnode
      · exact ihleft (fun node hnode ↦ h node (by simp [nodes, hnode])) node hnode
      · exact ihright (fun node hnode ↦ h node (by simp [nodes, hnode])) node hnode
    · obtain rfl := List.mem_singleton.1 hnode
      cases operator with
      | plus => exact ⟨inRange_of_ite_eq_none hself, nofun⟩
      | minus => exact ⟨inRange_of_ite_eq_none hself, nofun⟩
      | times => exact ⟨inRange_of_ite_eq_none hself, nofun⟩
      | divide =>
        rw [fault?] at hself
        split at hself
        case isTrue hsound =>
          refine ⟨hsound.2, ?_⟩
          rintro _ _ ⟨⟩
          exact hsound.1
        case isFalse => cases hself

theorem outcome_eq_ok_iff {e : Expr} {value : Int} :
    e.outcome = .ok value ↔ (∀ node ∈ e.nodes, node.Sound) ∧ value = e.exact := by
  unfold outcome
  cases hfault : e.nodes.findSome? fault? with
  | none =>
    have hsound := sound_of_fault?_eq_none (List.findSome?_eq_none_iff.1 hfault)
    exact ⟨fun h ↦ ⟨hsound, (Except.ok.inj h).symm⟩, fun h ↦ congrArg Except.ok h.2.symm⟩
  | some fault =>
    obtain ⟨node, hnode, hnodeFault⟩ := List.exists_of_findSome?_eq_some hfault
    constructor
    · nofun
    · rintro ⟨hsound, -⟩
      rw [fault?_eq_none_of_sound (hsound node hnode)] at hnodeFault
      cases hnodeFault

end Expr

end OperatorGrammar.Calc
