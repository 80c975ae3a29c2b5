import OperatorGrammar.Parselet.Notated
import OperatorGrammar.Proofs.Operators.Tree
import OperatorGrammar.Proofs.Parse.Equations

/-!
# Grammars for a set of operators

A grammar is for a set of operators if what its starters and followers do is what the operators
call for: a leaf takes nothing more, an operator has an operand parsed at its level, a bracket has
an expression parsed and expects its other half. What they make of the values is their own affair.
-/

namespace OperatorGrammar

variable {τ π ε : Type} [DecidableEq τ]

/-- What the starter of a token does behind the token, however deep its operand is. -/
noncomputable def Opening.run (g : Grammar τ π ε) (meaning : Meaning τ ε) (token : Token τ)
    (lx : Lexer τ) : Opening τ π → Option (Grammar.Parsed τ ε)
  | .leaf => some (meaning.leaf token, lx)
  | .unary level =>
    Grammar.andThen (g.parseLimit level lx) fun value lx ↦
      some (meaning.unary token value, lx)
  | .bracket level close =>
    Grammar.andThen (g.parseLimit level lx) fun value lx ↦
      match lx.expect close with
      | (.error fault, lx) => some (.error fault, lx)
      | (.ok closer, lx) => some (meaning.bracket token value closer, lx)

/-- What the follower of a token does behind the token. -/
noncomputable def Following.run (g : Grammar τ π ε) (meaning : Meaning τ ε) (token : Token τ)
    (left : ε) (lx : Lexer τ) : Following π → Option (Grammar.Parsed τ ε)
  | .binary level =>
    Grammar.andThen (g.parseLimit level lx) fun right lx ↦
      some (meaning.binary token left right, lx)
  | .trailing => some (meaning.trailing token left, lx)

/-- The starters and followers of a grammar do what the operators call for. -/
structure Grammar.Realizes (g : Grammar τ π ε) (ops : Operators τ π) (meaning : Meaning τ ε) :
    Prop where
  precedence_eq : g.precedence = ops.precedence
  order_eq : g.order = ops.order
  starter_eq_none : ∀ {kind : τ}, ops.opening kind = none → g.starter kind = none
  act_starter : ∀ {kind : τ} {opening : Opening τ π}, ops.opening kind = some opening →
    ∃ strategy, g.starter kind = some strategy ∧
      ∀ (token : Token τ) (lx : Lexer τ), token.kind = kind → lx.current = some token →
        g.actLimit strategy [] lx = opening.run g meaning token lx
  follower_eq_none : ∀ {kind : τ}, ops.following kind = none → g.follower kind = none
  act_follower : ∀ {kind : τ} {following : Following π}, ops.following kind = some following →
    ∃ strategy, g.follower kind = some strategy ∧
      ∀ (token : Token τ) (left : ε) (lx : Lexer τ), token.kind = kind →
        lx.current = some token →
          g.actLimit (strategy left) [] lx = following.run g meaning token left lx

namespace Grammar.Realizes

variable {g : Grammar τ π ε} {ops : Operators τ π} {meaning : Meaning τ ε}
  (h : g.Realizes ops meaning) {lx next : Lexer τ} {token : Token τ} (min : π)

include h

theorem binds_eq : g.binds = ops.binds := by
  funext min kind
  rw [Grammar.binds, Operators.binds, h.precedence_eq, h.order_eq]

theorem parseLimit_of_opening_eq_none (hdelivers : lx.Delivers token next)
    (hopening : ops.opening token.kind = none) :
    g.parseLimit min lx =
      some (.error (.noStarter token.kind token.literal next.currentPlace), next) := by
  rw [parseLimit_of_delivers g min hdelivers, h.starter_eq_none hopening]

theorem parseLimit_of_opening {opening : Opening τ π} (hdelivers : lx.Delivers token next)
    (hopening : ops.opening token.kind = some opening) (hkind : token.kind ≠ next.sentinel) :
    g.parseLimit min lx = andThen (opening.run g meaning token next) (g.climbLimit min) := by
  obtain ⟨strategy, hstarter, hact⟩ := h.act_starter hopening
  rw [parseLimit_of_delivers g min hdelivers, hstarter]
  simp only [hact token next rfl (hdelivers.current_eq hkind)]

theorem climbLimit_of_binds_eq_false (left : ε) (hdelivers : lx.Delivers token next)
    (hbinds : ops.binds min token.kind = false) :
    g.climbLimit min left lx = some (.ok left, next.putBack) := by
  rw [climbLimit_of_delivers g min left hdelivers, h.binds_eq, hbinds]
  rfl

theorem climbLimit_of_following_eq_none (left : ε) (hdelivers : lx.Delivers token next)
    (hbinds : ops.binds min token.kind = true) (hfollowing : ops.following token.kind = none) :
    g.climbLimit min left lx =
      some (.error (.noFollower token.kind token.literal next.currentPlace), next) := by
  rw [climbLimit_of_delivers g min left hdelivers, h.binds_eq, if_pos hbinds,
    h.follower_eq_none hfollowing]

theorem climbLimit_of_following {following : Following π} (left : ε)
    (hdelivers : lx.Delivers token next) (hbinds : ops.binds min token.kind = true)
    (hfollowing : ops.following token.kind = some following)
    (hkind : token.kind ≠ next.sentinel) :
    g.climbLimit min left lx =
      andThen (following.run g meaning token left next) (g.climbLimit min) := by
  obtain ⟨strategy, hfollower, hact⟩ := h.act_follower hfollowing
  rw [climbLimit_of_delivers g min left hdelivers, h.binds_eq, if_pos hbinds, hfollower]
  simp only [hact token left next rfl (hdelivers.current_eq hkind)]

end Grammar.Realizes

/-! ## The grammar that writes expressions down -/

def Opening.kind : Opening τ π → StarterKind τ π
  | .leaf => .leaf
  | .unary level => .unary level
  | .bracket level close => .group level close

def Following.kind : Following π → FollowerKind τ π
  | .binary level => .binary level
  | .trailing => .trailing

/-- How an expression is written down. -/
def Notated.meaning (naming : Naming τ) : Meaning τ String where
  leaf token := .ok ("[" ++ token.render naming.label ++ "]")
  unary operator operand := .ok s!"({naming.name operator.kind} {operand})"
  bracket _ inner _ := .ok ("\x7b" ++ inner ++ "\x7d")
  binary operator left right := .ok s!"({naming.name operator.kind} {left} {right})"
  trailing operator operand := .ok s!"({operand} {naming.name operator.kind})"

/-- The grammar of a set of operators whose expressions are written down. -/
def Operators.notated (ops : Operators τ π) (naming : Naming τ) (sentinel : τ) :
    Grammar τ π String where
  precedence := ops.precedence
  order := ops.order
  starter kind := (ops.opening kind).map fun opening ↦
    (Notated.starter naming sentinel opening.kind).toStrategy
  follower kind := (ops.following kind).map fun following left ↦
    (Notated.follower naming left following.kind).toStrategy

namespace Notated

variable (g : Grammar τ π String) (naming : Naming τ) {token : Token τ} {lx : Lexer τ}

theorem act_starter (sentinel : τ) (opening : Opening τ π) (h : lx.current = some token) :
    g.actLimit (starter naming sentinel opening.kind).toStrategy [] lx =
      opening.run g (meaning naming) token lx := by
  have hcall : lx.call .current = (.token (some token), lx) := by rw [Lexer.call, h]
  cases opening with
  | leaf =>
    rw [Grammar.actLimit_of_call g rfl, hcall]
    exact Grammar.actLimit_of_done g rfl lx
  | unary level =>
    rw [Grammar.actLimit_of_call g rfl, hcall, Grammar.actLimit_of_parse g rfl fun _ ↦ rfl]
    congr 1
    funext value lx
    exact Grammar.actLimit_of_done g rfl lx
  | bracket level close =>
    rw [Grammar.actLimit_of_parse g rfl fun _ ↦ rfl]
    congr 1
    funext value lx
    rw [Grammar.actLimit_of_call g rfl, Lexer.call]
    rcases hexpect : lx.expect close with ⟨fault | closer, next⟩
    · exact Grammar.actLimit_of_done g rfl next
    · exact Grammar.actLimit_of_done g rfl next

theorem act_follower (left : String) (following : Following π) (h : lx.current = some token) :
    g.actLimit (follower naming left following.kind).toStrategy [] lx =
      following.run g (meaning naming) token left lx := by
  have hcall : lx.call .current = (.token (some token), lx) := by rw [Lexer.call, h]
  cases following with
  | binary level =>
    rw [Grammar.actLimit_of_call g rfl, hcall, Grammar.actLimit_of_parse g rfl fun _ ↦ rfl]
    congr 1
    funext value lx
    exact Grammar.actLimit_of_done g rfl lx
  | trailing =>
    rw [Grammar.actLimit_of_call g rfl, hcall]
    exact Grammar.actLimit_of_done g rfl lx

theorem realizes (ops : Operators τ π) (sentinel : τ) :
    (ops.notated naming sentinel).Realizes ops (meaning naming) where
  precedence_eq := rfl
  order_eq := rfl
  starter_eq_none h := congrArg (Option.map _) h
  act_starter {_ opening} h :=
    ⟨_, congrArg (Option.map _) h, fun _ _ _ hcurrent ↦
      act_starter _ naming sentinel opening hcurrent⟩
  follower_eq_none h := congrArg (Option.map _) h
  act_follower {_ following} h :=
    ⟨_, congrArg (Option.map _) h, fun _ left _ _ hcurrent ↦
      act_follower _ naming left following hcurrent⟩

end Notated

end OperatorGrammar
