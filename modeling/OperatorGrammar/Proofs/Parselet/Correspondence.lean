import OperatorGrammar.Parselet.Notated
import OperatorGrammar.Proofs.Parse.Correspondence
import OperatorGrammar.Proofs.Parselet.Routines

/-!
# Corresponding parselets

Two routines that are built alike from like steps make like moves. For the parselets that write an
expression down, this means that their levels matter only as levels, and of the tokens that they
hear of only the kinds and the literals.
-/

namespace OperatorGrammar

open Routine

variable {τ π π' ε α β α' β' σ : Type}

namespace Likeness

variable (like : Likeness τ π π')

/-- How two routines go on from like answers: with like values, or with like moves. -/
inductive Outcomes (value : α → β → Prop) : Except (Move τ π ε) (α × List (Answer τ ε)) →
    Except (Move τ π' ε) (β × List (Answer τ ε)) → Prop where
  | ok {a : α} {b : β} {rest rest' : List (Answer τ ε)} : value a b →
      List.Forall₂ like.Answers rest rest' → Outcomes value (.ok (a, rest)) (.ok (b, rest'))
  | error {move : Move τ π ε} {move' : Move τ π' ε} : like.Moves move move' →
      Outcomes value (.error move) (.error move')

def Routines (value : α → β → Prop) (r : Routine τ π ε α) (r' : Routine τ π' ε β) : Prop :=
  ∀ ⦃heard heard'⦄, List.Forall₂ like.Answers heard heard' →
    like.Outcomes value (r heard) (r' heard')

variable {like} {value : α → β → Prop} {later : α' → β' → Prop}

theorem routines_pure {a : α} {b : β} (h : value a b) :
    like.Routines value (pure a : Routine τ π ε α) (pure b) :=
  fun _ _ hheard ↦ .ok h hheard

theorem Routines.bind {r : Routine τ π ε α} {r' : Routine τ π' ε β} (h : like.Routines value r r')
    {next : α → Routine τ π ε α'} {next' : β → Routine τ π' ε β'}
    (hnext : ∀ a b, value a b → like.Routines later (next a) (next' b)) :
    like.Routines later (r >>= next) (r' >>= next') := by
  intro heard heard' hheard
  have houtcome := h hheard
  rcases hr : r heard with move | ⟨a, rest⟩ <;> rcases hr' : r' heard' with move' | ⟨b, rest'⟩ <;>
    rw [hr, hr'] at houtcome
  · obtain _ | hmoves := houtcome
    rw [bind_of_error hr, bind_of_error hr']
    exact .error hmoves
  · cases houtcome
  · cases houtcome
  · obtain ⟨hvalue, hrest⟩ | _ := houtcome
    rw [bind_of_ok hr, bind_of_ok hr']
    exact hnext a b hvalue hrest

/-- Two steps with equal values are followed by like steps. -/
theorem Routines.bind_eq {r : Routine τ π ε α} {r' : Routine τ π' ε α} (h : like.Routines Eq r r')
    {next : α → Routine τ π ε α'} {next' : α → Routine τ π' ε β'}
    (hnext : ∀ a, like.Routines later (next a) (next' a)) :
    like.Routines later (r >>= next) (r' >>= next') := by
  refine h.bind fun a b hab ↦ ?_
  cases hab
  exact hnext a

theorem routines_fail {fault fault' : Fault τ} (h : like.fault fault fault') :
    like.Routines value (fail fault : Routine τ π ε α) (fail fault') :=
  fun _ _ _ ↦ .error (.done (.error h))

theorem routines_propagate {result : Except (Fault τ) α} {result' : Except (Fault τ) β}
    (h : like.Results value result result') :
    like.Routines value (propagate result : Routine τ π ε α) (propagate result') := by
  cases h with
  | ok hvalue => exact routines_pure hvalue
  | error hfault => exact routines_fail hfault

theorem routines_ask {request : Request τ π} {request' : Request τ π'}
    {accept : Answer τ ε → Option α} {accept' : Answer τ ε → Option β}
    (hrequest : like.Moves (.ask request : Move τ π ε) (.ask request'))
    (haccept : ∀ answer answer', like.Answers answer answer' →
      Option.Rel value (accept answer) (accept' answer')) :
    like.Routines value (ask request accept) (ask request' accept') := by
  intro heard heard' hheard
  cases hheard with
  | nil => exact .error hrequest
  | @cons answer answer' rest rest' hanswer hrest =>
    rw [ask, ask]
    rcases rel_cases (haccept _ _ hanswer) with ⟨hnone, hnone'⟩ | ⟨a, b, hsome, hsome', hvalue⟩
    · simp only [hnone, hnone']
      exact .error hrequest
    · simp only [hsome, hsome']
      exact .ok hvalue hrest

theorem routines_attempt {level : π} {level' : π'} (h : like.level level level') :
    like.Routines (like.Results Eq) (attempt level : Routine τ π ε _) (attempt level') := by
  refine routines_ask (.parse h) fun answer answer' hanswer ↦ ?_
  cases hanswer with
  | parsed hresult => exact .some hresult
  | reply => exact .none

theorem routines_operand {level : π} {level' : π'} (h : like.level level level') :
    like.Routines Eq (operand level : Routine τ π ε ε) (operand level') :=
  (routines_attempt h).bind fun _ _ ↦ routines_propagate

theorem rel_kindOf {answer answer' : Answer τ ε} (h : like.Answers answer answer') :
    Option.Rel (like.Results Eq) (kindOf answer) (kindOf answer') := by
  cases h with
  | parsed => exact .none
  | reply hreply =>
    cases hreply with
    | kind kind => exact .some (.ok rfl)
    | token => exact .none
    | fault hfault => exact .some (.error hfault)

theorem rel_tokenOf {answer answer' : Answer τ ε} (h : like.Answers answer answer') :
    Option.Rel (like.Results (Option.Rel like.token)) (tokenOf answer) (tokenOf answer') := by
  cases h with
  | parsed => exact .none
  | reply hreply =>
    cases hreply with
    | kind => exact .none
    | token htoken => exact .some (.ok htoken)
    | fault hfault => exact .some (.error hfault)

theorem routines_advance :
    like.Routines Eq (advance : Routine τ π ε τ) (advance : Routine τ π' ε τ) :=
  (routines_ask (.call _) fun _ _ ↦ rel_kindOf).bind fun _ _ ↦ routines_propagate

theorem routines_peek : like.Routines Eq (peek : Routine τ π ε τ) (peek : Routine τ π' ε τ) :=
  (routines_ask (.call _) fun _ _ ↦ rel_kindOf).bind fun _ _ ↦ routines_propagate

theorem routines_expect (token : τ) :
    like.Routines Eq (expect token : Routine τ π ε Unit) (expect token : Routine τ π' ε Unit) :=
  (routines_ask (.call _) fun _ _ ↦ rel_tokenOf).bind fun _ _ hfound ↦
    (routines_propagate hfound).bind fun _ _ _ ↦ routines_pure rfl

theorem routines_current : like.Routines (Option.Rel like.token)
    (current : Routine τ π ε (Option (Token τ))) (current : Routine τ π' ε (Option (Token τ))) :=
  (routines_ask (.call _) fun _ _ ↦ rel_tokenOf).bind fun _ _ ↦ routines_propagate

theorem routines_iterate {step : σ → Routine τ π ε (σ ⊕ α)} {step' : σ → Routine τ π' ε (σ ⊕ α)}
    (h : ∀ state, like.Routines Eq (step state) (step' state)) (rounds : Nat) (state : σ) :
    like.Routines Eq (iterate step rounds state) (iterate step' rounds state) := by
  induction rounds generalizing state with
  | zero => exact fun _ _ _ ↦ .error (.call .current)
  | succ rounds ih =>
    refine (h state).bind_eq fun round ↦ ?_
    cases round with
    | inl next => exact ih next
    | inr value => exact routines_pure rfl

/-- Both loops make as many rounds, since they have heard as many answers. -/
theorem routines_loop {step : σ → Routine τ π ε (σ ⊕ α)} {step' : σ → Routine τ π' ε (σ ⊕ α)}
    (h : ∀ state, like.Routines Eq (step state) (step' state)) (state : σ) :
    like.Routines Eq (loop step state) (loop step' state) := by
  intro heard heard' hheard
  rw [loop, loop, hheard.length_eq]
  exact routines_iterate h _ state hheard

theorem Routines.toStrategy {r : Routine τ π ε ε} {r' : Routine τ π' ε ε}
    (h : like.Routines Eq r r') : like.Strategies r.toStrategy r'.toStrategy := by
  intro heard heard' hheard
  have houtcome := h hheard
  rw [Routine.toStrategy, Routine.toStrategy]
  generalize r heard = outcome at houtcome ⊢
  generalize r' heard' = outcome' at houtcome ⊢
  cases houtcome with
  | ok hvalue _ => exact .done (.ok hvalue)
  | error hmoves => exact hmoves

/-- Tokens that are alike have the same kind and the same literal, and what a parselet says itself
is alike. -/
structure Plain (like : Likeness τ π π') : Prop where
  kind_eq : ∀ token token', like.token token token' → token.kind = token'.kind
  literal_eq : ∀ token token', like.token token token' → token.literal = token'.literal
  report : ∀ message, like.fault (.report message) (.report message)
  context : ∀ message fault fault', like.fault fault fault' →
    like.fault (.context message fault) (.context message fault')

end Likeness

/-- The same kind of starter at other levels. -/
def StarterKind.map (f : π → π') : StarterKind τ π → StarterKind τ π'
  | .leaf => .leaf
  | .int => .int
  | .unary level => .unary (f level)
  | .group level close => .group (f level) close
  | .list level separator close => .list (f level) separator close
  | .maybe level stop => .maybe (f level) stop
  | .context level message => .context (f level) message
  | .attempt level => .attempt (f level)
  | .skip stop => .skip stop
  | .fail message => .fail message

/-- The levels of the expressions that a starter asks for. -/
def StarterKind.levels : StarterKind τ π → List π
  | .unary level => [level]
  | .group level _ => [level]
  | .list level _ _ => [level]
  | .maybe level _ => [level]
  | .context level _ => [level]
  | .attempt level => [level]
  | .leaf | .int | .skip _ | .fail _ => []

/-- The same kind of follower at other levels. -/
def FollowerKind.map (f : π → π') : FollowerKind τ π → FollowerKind τ π'
  | .binary level => .binary (f level)
  | .trailing => .trailing
  | .index level close => .index (f level) close
  | .call level separator close => .call (f level) separator close
  | .ternary first middle second => .ternary (f first) middle (f second)
  | .extend level => .extend (f level)
  | .nonassoc level => .nonassoc (f level)
  | .fail message => .fail message

/-- The levels of the expressions that a follower asks for. -/
def FollowerKind.levels : FollowerKind τ π → List π
  | .binary level => [level]
  | .index level _ => [level]
  | .call level _ _ => [level]
  | .ternary first _ second => [first, second]
  | .extend level => [level]
  | .nonassoc level => [level]
  | .trailing | .fail _ => []

namespace Notated

variable {like : Likeness τ π π'} (hplain : like.Plain)

include hplain

theorem map_kind_eq {token token' : Option (Token τ)} (h : Option.Rel like.token token token') :
    token.map Token.kind = token'.map Token.kind := by
  cases h with
  | none => rfl
  | some htoken => exact congrArg some (hplain.kind_eq _ _ htoken)

theorem map_name_eq (naming : Naming τ) {token token' : Option (Token τ)}
    (h : Option.Rel like.token token token') :
    (token.map fun token ↦ naming.name token.kind) =
      token'.map fun token ↦ naming.name token.kind := by
  have hkind := congrArg (Option.map naming.name) (map_kind_eq hplain h)
  rwa [Option.map_map, Option.map_map] at hkind

theorem bind_literal_eq {token token' : Option (Token τ)}
    (h : Option.Rel like.token token token') :
    token.bind Token.literal = token'.bind Token.literal := by
  cases h with
  | none => rfl
  | some htoken => exact hplain.literal_eq _ _ htoken

theorem routines_ownName (naming : Naming τ) : like.Routines Eq
    (ownName naming : Writing τ π String) (ownName naming : Writing τ π' String) := by
  refine Likeness.routines_current.bind fun token token' htoken ↦ Likeness.routines_pure ?_
  rw [map_name_eq hplain naming htoken]

theorem routines_leaf (naming : Naming τ) : like.Routines Eq
    (leaf naming : Writing τ π String) (leaf naming : Writing τ π' String) := by
  refine Likeness.routines_current.bind fun token token' htoken ↦ Likeness.routines_pure ?_
  cases htoken with
  | none => rfl
  | some htoken =>
    simp only [Option.map_some, Token.render, hplain.kind_eq _ _ htoken,
      hplain.literal_eq _ _ htoken]

theorem routines_int : like.Routines Eq (int : Writing τ π String) (int : Writing τ π' String) := by
  refine Likeness.routines_current.bind fun token token' htoken ↦ ?_
  rw [bind_literal_eq hplain htoken]
  cases token'.bind Token.literal with
  | none => exact Likeness.routines_fail (hplain.report _)
  | some literal =>
    dsimp only
    cases Signed.read literal.toList with
    | error e => exact Likeness.routines_fail (hplain.report _)
    | ok value => exact Likeness.routines_pure rfl

variable [DecidableEq τ]

omit hplain in
theorem routines_skip (sentinel stop : τ) : like.Routines Eq
    (skip sentinel stop : Writing τ π Nat) (skip sentinel stop : Writing τ π' Nat) :=
  Likeness.routines_loop
    (fun _ ↦ Likeness.routines_advance.bind_eq fun _ ↦ Likeness.routines_pure rfl) 0

omit hplain in
theorem routines_items {level : π} {level' : π'} (hlevel : like.level level level')
    (separator close : τ) : like.Routines Eq
      (items level separator close : Writing τ π String) (items level' separator close) := by
  refine Likeness.routines_peek.bind_eq fun kind ↦ ?_
  split
  case isTrue => exact Likeness.routines_advance.bind_eq fun _ ↦ Likeness.routines_pure rfl
  case isFalse =>
    refine (Likeness.routines_loop (fun texts ↦ ?_) []).bind_eq fun _ ↦ Likeness.routines_pure rfl
    refine (Likeness.routines_operand hlevel).bind_eq fun text ↦
      Likeness.routines_peek.bind_eq fun kind ↦ ?_
    split
    · exact Likeness.routines_advance.bind_eq fun _ ↦ Likeness.routines_pure rfl
    · exact (Likeness.routines_expect close).bind_eq fun _ ↦ Likeness.routines_pure rfl

variable {f : π → π'}

/-- Starters of one kind correspond if their levels do. -/
theorem routines_starter (naming : Naming τ) (sentinel : τ) (kind : StarterKind τ π)
    (hlevel : ∀ level ∈ kind.levels, like.level level (f level)) :
    like.Routines Eq (starter naming sentinel kind) (starter naming sentinel (kind.map f)) := by
  have hname := routines_ownName hplain naming
  cases kind with
  | leaf => exact routines_leaf hplain naming
  | int => exact routines_int hplain
  | unary level =>
    have hoperand := Likeness.routines_operand (ε := String) (hlevel level (.head _))
    exact hname.bind_eq fun name ↦ hoperand.bind_eq fun value ↦ Likeness.routines_pure rfl
  | group level close =>
    have hoperand := Likeness.routines_operand (ε := String) (hlevel level (.head _))
    exact hoperand.bind_eq fun value ↦
      (Likeness.routines_expect close).bind_eq fun _ ↦ Likeness.routines_pure rfl
  | list level separator close => exact routines_items (hlevel level (.head _)) separator close
  | maybe level stop =>
    have hoperand := Likeness.routines_operand (ε := String) (hlevel level (.head _))
    refine hname.bind_eq fun name ↦ Likeness.routines_peek.bind_eq fun kind ↦ ?_
    split
    · exact Likeness.routines_pure rfl
    · exact hoperand.bind_eq fun value ↦ Likeness.routines_pure rfl
  | context level message =>
    have hattempt := Likeness.routines_attempt (ε := String) (hlevel level (.head _))
    refine hattempt.bind fun result result' hresult ↦ ?_
    cases hresult with
    | ok hvalue => exact Likeness.routines_pure hvalue
    | error hfault => exact Likeness.routines_fail (hplain.context message _ _ hfault)
  | attempt level =>
    have hattempt := Likeness.routines_attempt (ε := String) (hlevel level (.head _))
    refine hname.bind_eq fun name ↦ hattempt.bind fun result result' hresult ↦ ?_
    cases hresult with
    | ok hvalue =>
      cases hvalue
      exact Likeness.routines_pure rfl
    | error hfault => exact Likeness.routines_pure rfl
  | skip stop =>
    exact hname.bind_eq fun name ↦
      (routines_skip sentinel stop).bind_eq fun count ↦ Likeness.routines_pure rfl
  | fail message => exact Likeness.routines_fail (hplain.report message)

/-- Followers of one kind correspond if their levels do. -/
theorem routines_follower (naming : Naming τ) (left : String) (kind : FollowerKind τ π)
    (hlevel : ∀ level ∈ kind.levels, like.level level (f level)) :
    like.Routines Eq (follower naming left kind) (follower naming left (kind.map f)) := by
  have hname := routines_ownName hplain naming
  cases kind with
  | binary level =>
    have hoperand := Likeness.routines_operand (ε := String) (hlevel level (.head _))
    exact hname.bind_eq fun name ↦ hoperand.bind_eq fun right ↦ Likeness.routines_pure rfl
  | trailing => exact hname.bind_eq fun name ↦ Likeness.routines_pure rfl
  | index level close =>
    have hoperand := Likeness.routines_operand (ε := String) (hlevel level (.head _))
    exact hname.bind_eq fun name ↦ hoperand.bind_eq fun value ↦
      (Likeness.routines_expect close).bind_eq fun _ ↦ Likeness.routines_pure rfl
  | call level separator close =>
    exact hname.bind_eq fun name ↦ (routines_items (hlevel level (.head _)) separator close).bind_eq
      fun list ↦ Likeness.routines_pure rfl
  | ternary first middle second =>
    have hfirst := Likeness.routines_operand (ε := String) (hlevel first (.head _))
    have hsecond := Likeness.routines_operand (ε := String) (hlevel second (.tail _ (.head _)))
    exact hname.bind_eq fun name ↦ hfirst.bind_eq fun one ↦
      (Likeness.routines_expect middle).bind_eq fun _ ↦
        hsecond.bind_eq fun two ↦ Likeness.routines_pure rfl
  | extend level =>
    have hoperand := Likeness.routines_operand (ε := String) (hlevel level (.head _))
    exact hoperand.bind_eq fun right ↦ Likeness.routines_pure rfl
  | nonassoc level =>
    have hoperand := Likeness.routines_operand (ε := String) (hlevel level (.head _))
    refine Likeness.routines_current.bind fun own own' hown ↦
      hoperand.bind_eq fun value ↦ Likeness.routines_peek.bind_eq fun kind ↦ ?_
    rw [map_kind_eq hplain hown, map_name_eq hplain naming hown]
    split
    · exact Likeness.Routines.bind_eq (Likeness.routines_fail (hplain.report _)) fun _ ↦
        Likeness.routines_pure rfl
    · exact Likeness.routines_pure rfl
  | fail message => exact Likeness.routines_fail (hplain.report message)

omit hplain

variable {same : Likeness τ π π} (hsame : same.Plain) (hlevel : ∀ level, same.level level level)

include hsame hlevel

/-- A starter corresponds to itself. -/
theorem strategies_starter (naming : Naming τ) (sentinel : τ) (kind : StarterKind τ π) :
    same.Strategies (starter naming sentinel kind).toStrategy
      (starter naming sentinel kind).toStrategy := by
  have halike := routines_starter hsame naming sentinel kind (f := id) fun level _ ↦ hlevel level
  have hkind : kind.map id = kind := by cases kind <;> rfl
  rw [hkind] at halike
  exact halike.toStrategy

/-- A follower corresponds to itself. -/
theorem strategies_follower (naming : Naming τ) (left : String) (kind : FollowerKind τ π) :
    same.Strategies (follower naming left kind).toStrategy
      (follower naming left kind).toStrategy := by
  have halike := routines_follower hsame naming left kind (f := id) fun level _ ↦ hlevel level
  have hkind : kind.map id = kind := by cases kind <;> rfl
  rw [hkind] at halike
  exact halike.toStrategy

end Notated

end OperatorGrammar
