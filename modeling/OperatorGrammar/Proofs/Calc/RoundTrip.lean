import OperatorGrammar.Proofs.Calc.Expression
import OperatorGrammar.Proofs.Operators.Parsing

/-!
# Reading back what was written down

The tokens of an expression that was written down are those of one well-formed tree, which has the
shape and the value of the expression. Hence the calculator makes of the text what the expression is
worth.
-/

namespace OperatorGrammar.Calc

/-! ## Numbers are kept apart -/

theorem apart_parenthesize {lexemes : List Lexeme} (h : Apart lexemes) :
    Apart (Expr.parenthesize lexemes) := by
  refine List.isChain_cons.2 ⟨fun _ _ hnumbers ↦ hnumbers.1, List.isChain_append.2 ⟨h, ?_, ?_⟩⟩
  · exact List.isChain_singleton _
  · rintro _ _ _ ⟨⟩ hnumbers
    exact hnumbers.2

theorem Expr.apart_lexemes (e : Expr) (followed : Bool) : Apart (e.lexemes followed) := by
  induction e generalizing followed with
  | number numeral => exact List.isChain_singleton _
  | signed sign operand ih =>
    have hplain : Apart (sign.lexeme :: operand.lexemes false) :=
      List.isChain_cons.2 ⟨fun _ _ hnumbers ↦ by cases sign <;> exact hnumbers.1, ih false⟩
    cases followed with
    | true => exact apart_parenthesize hplain
    | false => exact hplain
  | binary operator left right ihleft ihright =>
    have hmark : ¬operator.lexeme.IsNumber := by cases operator <;> exact id
    apply List.isChain_append.2
    refine ⟨?left, List.isChain_cons.2 ⟨fun _ _ hnumbers ↦ hmark hnumbers.1, ?right⟩, ?between⟩
    case left =>
      split
      · exact apart_parenthesize (ihleft false)
      · exact ihleft true
    case right =>
      split
      · exact apart_parenthesize (ihright false)
      · exact ihright followed
    case between =>
      rintro _ _ _ ⟨⟩ hnumbers
      exact hmark hnumbers.2

/-! ## The tree of an expression -/

theorem lt_of_lt_of_not_lt {a b c : Level} (hab : compare a b = .lt) (hcb : compare c b ≠ .lt) :
    compare a c = .lt := by
  revert hab hcb
  cases a <;> cases b <;> cases c <;> decide

theorem not_lt_of_not_lt {a b c : Level} (hab : compare a b ≠ .lt) (hbc : compare b c ≠ .lt) :
    compare a c ≠ .lt := by
  revert hab hbc
  cases a <;> cases b <;> cases c <;> decide

theorem binds_lexeme (operator : Operator) (min : Level) :
    operators.binds min operator.lexeme.kind = (compare min operator.level == .lt) := by
  cases operator <;> rfl

theorem not_lt_of_lt {a b : Level} (hab : compare a b = .lt) : compare b a ≠ .lt := by
  revert hab
  cases a <;> cases b <;> decide

/-- A tree of these tokens with the value of an expression. The tree may stand wherever an operator
of the level binds, if there is one. If an operator follows, the operands at the right edge of the
tree are closed for operators up to the level. -/
structure Renders (e : Expr) (level? : Option Level) (followed : Bool)
    (tokens : List (Token Symbol)) (tree : Tree Symbol) : Prop where
  yield_eq : tree.yield = tokens
  value_eq : tree.value meaning = e.value
  wellFormed : ∀ min, (∀ level ∈ level?, compare min level = .lt) → operators.WellFormed min tree
  edge : followed = true → ∀ level ∈ operators.rightEdge tree,
    ∃ level' ∈ level?, compare level level' ≠ .lt

/-- Whatever tokens the lexemes become, there is a tree for them. -/
def Written (e : Expr) (level? : Option Level) (followed : Bool) (lexemes : List Lexeme) : Prop :=
  ∀ tokens : List (Token Symbol), tokens.map content = lexemes.map Lexeme.content →
    ∃ tree, Renders e level? followed tokens tree

theorem kind_of_content {token : Token Symbol} {lexeme : Lexeme}
    (h : content token = lexeme.content) : token.kind = lexeme.kind :=
  congrArg Prod.fst h

theorem written_number (numeral : Numeral) (followed : Bool) :
    Written (.number numeral) none followed [.number numeral] := by
  intro tokens htokens
  obtain ⟨token, rfl, hcontent⟩ := List.map_eq_singleton_iff.1 htokens
  have hkind := kind_of_content hcontent
  have hliteral : token.literal = some (String.ofList numeral.chars) := congrArg Prod.snd hcontent
  refine ⟨.leaf token, rfl, ?_, fun min _ ↦ .leaf (by rw [hkind]; rfl), ?_⟩
  · simp only [Tree.value, meaning, hliteral, Option.getD_some, Expr.value]
  · intro _ level hlevel
    cases hlevel

theorem written_parenthesize {e : Expr} {level? : Option Level} {lexemes : List Lexeme}
    (h : Written e level? false lexemes) (hlowest : ∀ level ∈ level?, compare .lowest level = .lt)
    (followed : Bool) : Written e none followed (Expr.parenthesize lexemes) := by
  intro tokens htokens
  rw [Expr.parenthesize, List.map_cons, List.map_append] at htokens
  obtain ⟨opener, rest, rfl, hopener, hrest⟩ := List.map_eq_cons_iff.1 htokens
  obtain ⟨inside, close, rfl, hinside, hclose⟩ := List.map_eq_append_iff.1 hrest
  obtain ⟨closer, rfl, hcloser⟩ := List.map_eq_singleton_iff.1 hclose
  obtain ⟨tree, htree⟩ := h inside hinside
  have hopening : operators.opening opener.kind = some (.bracket .lowest closer.kind) := by
    rw [kind_of_content hopener, kind_of_content hcloser]
    rfl
  refine ⟨.bracket opener tree closer, ?_, ?_, fun min _ ↦
    .bracket hopening (htree.wellFormed .lowest hlowest), ?_⟩
  · rw [Tree.yield, htree.yield_eq]
  · calc
      (Tree.bracket opener tree closer).value meaning = e.value >>= .ok := by
        rw [Tree.value, htree.value_eq]
        rfl
      _ = e.value := bind_pure e.value
  · intro _ level hlevel
    cases hlevel

theorem written_signed {operand : Expr} {level? : Option Level} {lexemes : List Lexeme}
    (sign : Sign) (h : Written operand level? false lexemes)
    (hlowest : ∀ level ∈ level?, compare .lowest level = .lt) :
    Written (.signed sign operand) none false (sign.lexeme :: lexemes) := by
  intro tokens htokens
  rw [List.map_cons] at htokens
  obtain ⟨token, rest, rfl, htoken, hrest⟩ := List.map_eq_cons_iff.1 htokens
  obtain ⟨tree, htree⟩ := h rest hrest
  have hkind := kind_of_content htoken
  have hopening : operators.opening token.kind = some (.unary .lowest) := by
    rw [hkind]
    cases sign <;> rfl
  refine ⟨.unary token tree, ?_, ?_, fun min _ ↦
    .unary hopening (htree.wellFormed .lowest hlowest), nofun⟩
  · rw [Tree.yield, htree.yield_eq]
  · rw [Tree.value, htree.value_eq]
    cases sign with
    | plus =>
      simp only [meaning, hkind, Sign.lexeme, Lexeme.kind, reduceCtorEq, if_false]
      exact bind_pure operand.value
    | minus =>
      simp only [meaning, hkind, Sign.lexeme, Lexeme.kind, if_true]
      rfl

theorem written_binary {operator : Operator} {left right : Expr}
    {leftLevel? rightLevel? : Option Level} {followed : Bool}
    {leftLexemes rightLexemes : List Lexeme}
    (hleft : Written left leftLevel? true leftLexemes)
    (hleftLevel : ∀ level ∈ leftLevel?, compare level operator.level ≠ .lt)
    (hright : Written right rightLevel? followed rightLexemes)
    (hrightLevel : ∀ level ∈ rightLevel?, compare operator.level level = .lt) :
    Written (.binary operator left right) (some operator.level) followed
      (leftLexemes ++ operator.lexeme :: rightLexemes) := by
  intro tokens htokens
  rw [List.map_append, List.map_cons] at htokens
  obtain ⟨first, rest, rfl, hfirst, hrest⟩ := List.map_eq_append_iff.1 htokens
  obtain ⟨token, second, rfl, htoken, hsecond⟩ := List.map_eq_cons_iff.1 hrest
  obtain ⟨leftTree, hleftTree⟩ := hleft first hfirst
  obtain ⟨rightTree, hrightTree⟩ := hright second hsecond
  have hkind := kind_of_content htoken
  have hfollowing : operators.following token.kind = some (.binary operator.level) := by
    rw [hkind]
    exact congrArg (Option.map _) operator.level?_lexeme
  have hclosed : operators.Closed leftTree token.kind := by
    intro level hlevel
    obtain ⟨level', hlevel', hnot⟩ := hleftTree.edge rfl level hlevel
    have hstop := not_lt_of_not_lt hnot (hleftLevel level' hlevel')
    rw [hkind, binds_lexeme, beq_eq_false_iff_ne]
    exact hstop
  refine ⟨.binary token leftTree rightTree, ?_, ?_, ?_, ?_⟩
  · rw [Tree.yield, hleftTree.yield_eq, hrightTree.yield_eq]
  · rw [Tree.value, hleftTree.value_eq, hrightTree.value_eq, Expr.value, ← hkind]
    rfl
  · intro min hmin
    have hlt := hmin operator.level rfl
    refine .binary hfollowing ?_ ?_ (hrightTree.wellFormed operator.level hrightLevel) hclosed
    · rw [hkind, binds_lexeme, hlt]
      rfl
    · exact hleftTree.wellFormed min fun level hlevel ↦
        lt_of_lt_of_not_lt hlt (hleftLevel level hlevel)
  · intro hfollowed level hlevel
    refine ⟨operator.level, rfl, ?_⟩
    simp only [Operators.rightEdge, hfollowing, List.mem_cons] at hlevel
    rcases hlevel with rfl | hlevel
    · cases operator <;> decide
    · obtain ⟨level', hlevel', hnot⟩ := hrightTree.edge hfollowed level hlevel
      exact not_lt_of_not_lt hnot (not_lt_of_lt (hrightLevel level' hlevel'))

theorem Expr.lowest_lt_level (e : Expr) : ∀ level ∈ e.level?, compare Level.lowest level = .lt := by
  intro level hlevel
  cases e with
  | number _ => cases hlevel
  | signed _ _ => cases hlevel
  | binary operator left right =>
    cases hlevel
    cases operator <;> rfl

theorem Expr.written_lexemes (e : Expr) (followed : Bool) :
    Written e e.level? followed (e.lexemes followed) := by
  induction e generalizing followed with
  | number numeral => exact written_number numeral followed
  | signed sign operand ih =>
    have hplain := written_signed sign (ih false) operand.lowest_lt_level
    cases followed with
    | true => exact written_parenthesize hplain (by simp) true
    | false => exact hplain
  | binary operator left right ihleft ihright =>
    have hleft : ∃ level?, Written left level? true
        (if left.level?.any fun level ↦ compare level operator.level == .lt then
          parenthesize (left.lexemes false) else left.lexemes true) ∧
        ∀ level ∈ level?, compare level operator.level ≠ .lt := by
      split
      case isTrue =>
        exact ⟨none, written_parenthesize (ihleft false) left.lowest_lt_level true, by simp⟩
      case isFalse hlevel =>
        refine ⟨left.level?, ihleft true, fun level hmem hlt ↦ hlevel ?_⟩
        rw [Option.mem_def.1 hmem]
        simp [hlt]
    have hright : ∃ level?, Written right level? followed
        (if right.level?.any fun level ↦ compare operator.level level != .lt then
          parenthesize (right.lexemes false) else right.lexemes followed) ∧
        ∀ level ∈ level?, compare operator.level level = .lt := by
      split
      case isTrue =>
        exact ⟨none, written_parenthesize (ihright false) right.lowest_lt_level followed, by simp⟩
      case isFalse hlevel =>
        refine ⟨right.level?, ihright followed, fun level hmem ↦ ?_⟩
        by_contra hlt
        apply hlevel
        rw [Option.mem_def.1 hmem]
        simp [hlt]
    obtain ⟨leftLevel?, hleft, hleftLevel⟩ := hleft
    obtain ⟨rightLevel?, hright, hrightLevel⟩ := hright
    exact written_binary hleft hleftLevel hright hrightLevel

/-! ## Reading back -/

open Grammar in
/-- The tokens of a written expression are parsed as its tree, up to the end of the text. -/
theorem parseLimit_of_shows {e : Expr} {lx : Lexer Symbol} {tokens : List (Token Symbol)}
    (hlexicon : lx.lexicon = lexicon) (hshows : lx.Shows tokens)
    (hcontent : tokens.map content = (e.lexemes false).map Lexeme.content) :
    ∃ last, grammar.parseLimit .lowest lx = some (e.value, last) ∧
      ∀ value, e.value = .ok value → ∃ token next, last.expect .eof = (.ok token, next) := by
  obtain ⟨tree, htree⟩ := e.written_lexemes false tokens hcontent
  obtain ⟨rest, next, htakes, hend⟩ := hshows.takes
  rw [← htree.yield_eq] at htakes
  have hsentinel : lx.sentinel = .eof := congrArg Lexicon.sentinel hlexicon
  have hinert : operators.Inert lx.sentinel := by
    rw [hsentinel]
    exact ⟨rfl, rfl, rfl⟩
  have hparse := realizes_operators.parseLimit_of_takes
    (htree.wellFormed .lowest e.lowest_lt_level) hinert htakes hend
    (Operators.closed_of_inert hinert tree)
  rw [htree.value_eq] at hparse
  obtain ⟨last, hparse, hlast⟩ :=
    realizes_operators.parseLimit_of_stop hparse hend (hinert.binds_eq .lowest)
  refine ⟨last, hparse, fun value hvalue ↦ ⟨lx.endToken, next, ?_⟩⟩
  have hdelivers : last.Delivers lx.endToken next := by
    rw [hlast value hvalue]
    exact Lexer.delivers_putBack hend
  rw [Lexer.expect_of_delivers hdelivers]
  exact if_pos hsentinel

/-- An expression that is written down, with any other characters between its tokens, evaluates to
what it is worth: to its exact value just if every part of it has an exact value in range, and to
the fault of the first other part if not. -/
theorem eval_layout_eq_outcome :
    ∃ calculator, Calculator.make? = .ok calculator ∧
      ∀ (e : Expr) (gaps : Nat → Gap) (name : String),
        calculator.eval name (String.ofList (layout gaps 0 (e.lexemes false))) = e.outcome ∧
          ∀ value : Int,
            calculator.eval name (String.ofList (layout gaps 0 (e.lexemes false))) = .ok value ↔
              (∀ node ∈ e.nodes, node.Sound) ∧ value = e.exact := by
  refine ⟨_, make?_eq, fun e gaps name ↦ ?_⟩
  have heval : Calculator.eval ⟨lexicon, grammar⟩ name
      (String.ofList (layout gaps 0 (e.lexemes false))) = e.outcome := by
    have hafter : (Lexer.ofText lexicon (some name)
        (String.ofList (layout gaps 0 (e.lexemes false)))).cursor.after =
          layout gaps 0 (e.lexemes false) := String.toList_ofList
    obtain ⟨tokens, hshows, hcontent⟩ :=
      exists_shows_layout (e.apart_lexemes false) ⟨rfl, rfl, rfl⟩ hafter
    obtain ⟨last, hparse, hlast⟩ := parseLimit_of_shows rfl hshows hcontent
    rw [← e.value_eq_outcome, Calculator.eval]
    simp only [Grammar.parseExpression_eq_some grammar .lowest hparse]
    cases hvalue : e.value with
    | error fault => rfl
    | ok value =>
      obtain ⟨token, next, hexpect⟩ := hlast value hvalue
      simp only [hexpect]
      rfl
  exact ⟨heval, fun value ↦ heval ▸ Expr.outcome_eq_ok_iff⟩

end OperatorGrammar.Calc
