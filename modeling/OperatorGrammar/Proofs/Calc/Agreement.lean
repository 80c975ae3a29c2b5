import OperatorGrammar.Proofs.Calc.Descent

/-!
# The calculator agrees with the recursive descent

A parse at the level of products stops behind a factor, one at the level of sums behind a product.
A parse at the lowest level is one loop over both kinds of operators; it agrees with two loops, one
inside the other, because a product stops only where no further factor follows.
-/

namespace OperatorGrammar.Calc

open Grammar

/-- A lexer of the line that has these tokens ahead of it. -/
structure Line.At (line : Line) (lx : Lexer Symbol) (tokens : List (Token Symbol)) : Prop where
  shows : lx.Shows tokens
  place_eq : ∀ offset length, lx.place offset length = ⟨line.name, line.text, offset, length⟩
  endToken_eq : lx.endToken = line.endToken

namespace Line.At

variable {line : Line} {lx next : Lexer Symbol} {tokens : List (Token Symbol)}
  {token : Token Symbol}

theorem sentinel_eq (h : line.At lx tokens) : lx.sentinel = .eof :=
  congrArg Token.kind h.endToken_eq

theorem inert_sentinel (h : line.At lx tokens) : operators.Inert lx.sentinel := by
  rw [h.sentinel_eq]
  exact ⟨rfl, rfl, rfl⟩

theorem of_sameText {rest : List (Token Symbol)} (h : line.At lx tokens)
    (hsame : lx.SameText next) (hshows : next.Shows rest) : line.At next rest :=
  ⟨hshows, hsame.place_eq ▸ h.place_eq, hsame.endToken_eq ▸ h.endToken_eq⟩

theorem delivers_cons {rest : List (Token Symbol)} (h : line.At lx (token :: rest)) :
    ∃ next, lx.Delivers token next ∧ line.At next rest := by
  obtain ⟨next, hnext, hshows⟩ := h.shows.delivers_cons
  exact ⟨next, hnext, h.of_sameText hnext.sameText hshows⟩

theorem delivers (h : line.At lx tokens) : ∃ next, lx.Delivers (line.next tokens) next := by
  cases tokens with
  | nil =>
    obtain ⟨next, hnext⟩ := h.shows.delivers_end
    rw [h.endToken_eq] at hnext
    exact ⟨next, hnext⟩
  | cons token rest =>
    obtain ⟨next, hnext, -⟩ := h.delivers_cons
    exact ⟨next, hnext⟩

theorem currentPlace_eq (h : line.At lx tokens) (hnext : lx.Delivers token next) :
    next.currentPlace = line.place token := by
  rw [Lexer.currentPlace, hnext.currentOrEnd_eq, hnext.sameText.place_eq, h.place_eq]
  rfl

/-- Expecting a token fails on both sides alike. -/
theorem expect (h : line.At lx tokens) (expected : Symbol) :
    (∃ fault next, line.expect expected tokens = .error fault ∧
      lx.expect expected = (.error fault, next)) ∨
    ∃ token next, line.expect expected tokens = .ok () ∧ lx.expect expected = (.ok token, next) ∧
      (expected ≠ .eof → line.At next tokens.tail) := by
  obtain ⟨next, hnext⟩ := h.delivers
  rw [Lexer.expect_of_delivers hnext, Line.expect, h.currentPlace_eq hnext]
  by_cases hkind : (line.next tokens).kind = expected
  · right
    refine ⟨_, next, if_pos hkind, if_pos hkind, fun hne ↦ ?_⟩
    cases tokens with
    | nil => exact absurd hkind.symm hne
    | cons token rest =>
      obtain ⟨_, hnext', hrest⟩ := h.delivers_cons
      obtain ⟨-, rfl⟩ := hnext.unique hnext'
      exact hrest
  · exact .inl ⟨_, next, if_neg hkind, if_neg hkind⟩

theorem putBack (h : line.At lx tokens) (hnext : lx.Delivers token next) :
    line.At next.putBack tokens := by
  have hsame : lx.SameText next.putBack := hnext.sameText.trans ⟨rfl, rfl, rfl⟩
  exact h.of_sameText hsame (h.shows.congr hnext.advance_putBack hsame)

end Line.At

/-- The parse ends with the value or the fault of the reading; behind a value, the lexer has the
tokens ahead that the reading leaves. -/
def Agrees (line : Line) (parsed : Option (Parsed Symbol Int)) (reading : Reading) : Prop :=
  ∃ last, parsed = some (reading.map Prod.fst, last) ∧
    ∀ value rest, reading = .ok (value, rest) → line.At last rest

section

variable {line : Line} {lx last : Lexer Symbol} {tokens rest : List (Token Symbol)}

theorem agrees_error (line : Line) (last : Lexer Symbol) (fault : Fault Symbol) :
    Agrees line (some (.error fault, last)) (.error fault) :=
  ⟨last, rfl, by simp⟩

theorem agrees_ok (h : line.At last rest) (value : Int) :
    Agrees line (some (.ok value, last)) (.ok (value, rest)) := by
  refine ⟨last, rfl, ?_⟩
  rintro _ _ ⟨⟩
  exact h

theorem agrees_result (h : line.At last rest) (result : Except (Fault Symbol) Int) :
    Agrees line (some (result, last)) (result >>= fun value ↦ .ok (value, rest)) := by
  cases result with
  | error fault => exact agrees_error line last fault
  | ok value => exact agrees_ok h value

theorem Agrees.bind {parsed : Option (Parsed Symbol Int)} {reading : Reading}
    {next : Int → Lexer Symbol → Option (Parsed Symbol Int)}
    {next' : Int × List (Token Symbol) → Reading} (h : Agrees line parsed reading)
    (hnext : ∀ value rest last, reading = .ok (value, rest) → line.At last rest →
      Agrees line (next value last) (next' (value, rest))) :
    Agrees line (andThen parsed next) (reading >>= next') := by
  obtain ⟨last, rfl, hlast⟩ := h
  rcases reading with fault | ⟨value, rest⟩
  · exact agrees_error line last fault
  · exact hnext value rest last rfl (hlast value rest rfl)

/-- An operator that binds has its right operand parsed at its own level. -/
theorem climbLimit_of_level (h : line.At lx tokens) {token : Token Symbol} {next : Lexer Symbol}
    {min level : Level} (hnext : lx.Delivers token next) (hlevel : token.kind.level? = some level)
    (hlt : compare min level = .lt) (value : Int) :
    grammar.climbLimit min value lx =
      andThen (andThen (grammar.parseLimit level next) fun right lx ↦
        some (combine token.kind value right, lx)) (grammar.climbLimit min) := by
  have hbinds : operators.binds min token.kind = true := by
    simp [Operators.binds, operators, hlevel, hlt]
  have hfollowing : operators.following token.kind = some (.binary level) := by
    simp [operators, hlevel]
  have hne := h.inert_sentinel.ne_of_following hfollowing
  rw [← hnext.sameText.sentinel_eq] at hne
  exact realizes_operators.climbLimit_of_following min value hnext hbinds hfollowing hne

theorem Agrees.operate {parsed : Option (Parsed Symbol Int)} {reading : Reading}
    {f : Int → Except (Fault Symbol) Int} {next : Int → Lexer Symbol → Option (Parsed Symbol Int)}
    {next' : Int × List (Token Symbol) → Int → Reading} (h : Agrees line parsed reading)
    (hnext : ∀ operand rest value last, reading = .ok (operand, rest) → f operand = .ok value →
      line.At last rest → Agrees line (next value last) (next' (operand, rest) value)) :
    Agrees line (andThen (andThen parsed fun operand lx ↦ some (f operand, lx)) next)
      (reading >>= fun found ↦ f found.1 >>= next' found) := by
  obtain ⟨last, rfl, hlast⟩ := h
  rcases reading with fault | ⟨operand, rest⟩
  · exact agrees_error line last fault
  · change Agrees line (andThen (some (f operand, last)) next)
      (f operand >>= next' (operand, rest))
    rcases hvalue : f operand with fault | value
    · exact agrees_error line last fault
    · exact hnext operand rest value last rfl hvalue (hlast operand rest rfl)

/-! ## The loops -/

theorem agrees_climb_of_not_binds (h : line.At lx tokens) {min : Level}
    (hbinds : operators.binds min (line.next tokens).kind = false) (value : Int) :
    Agrees line (grammar.climbLimit min value lx) (.ok (value, tokens)) := by
  obtain ⟨next, hnext⟩ := h.delivers
  rw [realizes_operators.climbLimit_of_binds_eq_false _ value hnext hbinds]
  exact agrees_ok (h.putBack hnext) value

/-- Nothing binds at the level of products. -/
theorem agrees_climb_product (h : line.At lx tokens) (value : Int) :
    Agrees line (grammar.climbLimit .product value lx) (.ok (value, tokens)) := by
  apply agrees_climb_of_not_binds h
  cases (line.next tokens).kind <;> rfl

theorem level?_of_factor {kind : Symbol} (h : kind = .star ∨ kind = .slash) :
    kind.level? = some .product := by
  rcases h with rfl | rfl <;> rfl

theorem level?_of_sign {kind : Symbol} (h : kind = .plus ∨ kind = .minus) :
    kind.level? = some .sum := by
  rcases h with rfl | rfl <;> rfl

/-- Below the level of products, the loop begins as the loop over factors does. What it makes of the
tokens from which on no factor follows is what it makes of all of them. -/
theorem agrees_climb_factors {min : Level} (hmin : compare min .product = .lt) {bound : Nat}
    {after : Int × List (Token Symbol) → Reading}
    (hfactor : ∀ {lx : Lexer Symbol} {rest : List (Token Symbol)}, rest.length < bound →
      line.At lx rest → Agrees line (grammar.parseLimit .product lx) (forget (factor line rest)))
    (hstop : ∀ {lx : Lexer Symbol} {rest : List (Token Symbol)} (value : Int),
      rest.length ≤ bound → line.At lx rest →
      ¬((line.next rest).kind = .star ∨ (line.next rest).kind = .slash) →
        Agrees line (grammar.climbLimit min value lx) (after (value, rest)))
    (hbound : tokens.length ≤ bound) (h : line.At lx tokens) (value : Int) :
    Agrees line (grammar.climbLimit min value lx)
      (forget (moreFactors line value tokens) >>= after) := by
  obtain ⟨length, hlength⟩ : ∃ length, tokens.length = length := ⟨_, rfl⟩
  induction length using Nat.strongRecOn generalizing lx tokens value with
  | ind length ih =>
    by_cases hoperator : (line.next tokens).kind = .star ∨ (line.next tokens).kind = .slash
    · cases tokens with
      | nil => simp [Line.endToken] at hoperator
      | cons token rest =>
        rw [Line.next_cons] at hoperator
        obtain ⟨next, hnext, hrest⟩ := h.delivers_cons
        rw [climbLimit_of_level h hnext (level?_of_factor hoperator) hmin,
          forget_moreFactors_of_operator line value rest hoperator]
        simp only [bind_assoc]
        rw [List.length_cons] at hlength hbound
        apply Agrees.operate (hfactor (by omega) hrest)
        intro right rest' result last hright _ hlast
        have hlt := of_forget_eq_ok hright
        exact ih rest'.length (by omega) (by omega) hlast result rfl
    · rw [forget_moreFactors_of_stop line value tokens hoperator]
      exact hstop value hbound h hoperator

theorem agrees_climb_sum {bound : Nat}
    (hfactor : ∀ {lx : Lexer Symbol} {rest : List (Token Symbol)}, rest.length < bound →
      line.At lx rest → Agrees line (grammar.parseLimit .product lx) (forget (factor line rest)))
    (hbound : tokens.length ≤ bound) (h : line.At lx tokens) (value : Int) :
    Agrees line (grammar.climbLimit .sum value lx) (forget (moreFactors line value tokens)) := by
  rw [← bind_pure (forget (moreFactors line value tokens))]
  apply agrees_climb_factors rfl hfactor _ hbound h value
  intro lx rest value _ hrest hoperator
  apply agrees_climb_of_not_binds hrest
  cases hkind : (line.next rest).kind <;> simp [hkind] at hoperator <;> rfl

theorem agrees_climb_lowest {bound : Nat}
    (hfactor : ∀ {lx : Lexer Symbol} {rest : List (Token Symbol)}, rest.length < bound →
      line.At lx rest → Agrees line (grammar.parseLimit .product lx) (forget (factor line rest)))
    (hproduct : ∀ {lx : Lexer Symbol} {rest : List (Token Symbol)}, rest.length < bound →
      line.At lx rest → Agrees line (grammar.parseLimit .sum lx) (forget (product line rest)))
    (hbound : tokens.length ≤ bound) (h : line.At lx tokens) (value : Int) :
    Agrees line (grammar.climbLimit .lowest value lx)
      (forget (moreFactors line value tokens) >>= fun found ↦
        forget (moreProducts line found.1 found.2)) := by
  obtain ⟨length, hlength⟩ : ∃ length, tokens.length = length := ⟨_, rfl⟩
  induction length using Nat.strongRecOn generalizing lx tokens value with
  | ind length ih =>
    apply agrees_climb_factors rfl (fun hlt ↦ hfactor (Nat.lt_of_lt_of_le hlt hbound)) _
      (Nat.le_refl tokens.length) h value
    intro lx rest value hle h hoperator
    dsimp only
    by_cases hsign : (line.next rest).kind = .plus ∨ (line.next rest).kind = .minus
    · cases rest with
      | nil => simp [Line.endToken] at hsign
      | cons token rest =>
        rw [Line.next_cons] at hsign
        obtain ⟨next, hnext, hrest⟩ := h.delivers_cons
        rw [climbLimit_of_level h hnext (level?_of_sign hsign) rfl,
          forget_moreProducts_of_sign line value rest hsign]
        rw [List.length_cons] at hle
        apply Agrees.operate (hproduct (by omega) hrest)
        intro right rest' result last hright _ hlast
        have hlt := of_forget_eq_ok hright
        have hstop := stop_of_forget_product line _ rest' hright
        have hagrees := ih rest'.length (by omega) (by omega) hlast result rfl
        rwa [forget_moreFactors_of_stop line result rest' hstop] at hagrees
    · rw [forget_moreProducts_of_stop line value rest hsign]
      apply agrees_climb_of_not_binds h
      cases hkind : (line.next rest).kind <;> simp [hkind] at hoperator hsign <;> rfl

/-- What stands at the start of an expression is a factor, whatever level is asked for. -/
theorem exists_agrees_factor
    (hsum : ∀ {lx : Lexer Symbol} {rest : List (Token Symbol)}, rest.length < tokens.length →
      line.At lx rest → Agrees line (grammar.parseLimit .lowest lx) (forget (sum line rest)))
    (h : line.At lx tokens) :
    ∃ parsed, (∀ min, grammar.parseLimit min lx = andThen parsed (grammar.climbLimit min)) ∧
      Agrees line parsed (forget (factor line tokens)) := by
  obtain ⟨next, hnext⟩ := h.delivers
  cases hopening : opening (line.next tokens).kind with
  | none =>
    refine ⟨some (.error (line.refuse tokens), next), fun min ↦ ?_, ?_⟩
    · rw [realizes_operators.parseLimit_of_opening_eq_none min hnext hopening,
        h.currentPlace_eq hnext]
      rfl
    · rw [forget_factor_of_opening_eq_none line tokens hopening]
      exact agrees_error line next _
  | some kind =>
    cases tokens with
    | nil => cases hopening
    | cons token rest =>
      rw [Line.next_cons] at hopening hnext
      have hne := h.inert_sentinel.ne_of_opening hopening
      rw [← hnext.sameText.sentinel_eq] at hne
      refine ⟨kind.run grammar meaning token next, fun min ↦
        realizes_operators.parseLimit_of_opening min hnext hopening hne, ?_⟩
      obtain ⟨_, hnext', hrest⟩ := h.delivers_cons
      obtain ⟨-, rfl⟩ := hnext.unique hnext'
      have hagrees := hsum (Nat.lt_succ_self rest.length) hrest
      cases hkind : token.kind with
      | plus =>
        rw [hkind] at hopening
        cases hopening
        have hid (value : Int) : meaning.unary token value = .ok value := by
          simp only [meaning, hkind, reduceCtorEq, if_false]
        rw [forget_factor_of_plus line rest hkind, ← bind_pure (forget (sum line rest))]
        simp only [Opening.run, hid]
        exact hagrees.bind fun value rest last _ hlast ↦ agrees_ok hlast value
      | minus =>
        rw [hkind] at hopening
        cases hopening
        have hnegate (value : Int) : meaning.unary token value = negate value := by
          simp only [meaning, hkind, if_true]
        rw [forget_factor_of_minus line rest hkind]
        simp only [Opening.run, hnegate]
        exact hagrees.bind fun value rest last _ hlast ↦ agrees_result hlast (negate value)
      | leftParen =>
        rw [hkind] at hopening
        cases hopening
        rw [forget_factor_of_leftParen line rest hkind]
        apply hagrees.bind
        intro value rest' last _ hlast
        rcases hlast.expect .rightParen with ⟨fault, after, hline, hlexer⟩ |
          ⟨closer, after, hline, hlexer, hafter⟩
        · rw [hline, hlexer]
          exact agrees_error line after fault
        · rw [hline, hlexer]
          exact agrees_ok (hafter (by simp)) value
      | number =>
        rw [hkind] at hopening
        cases hopening
        rw [forget_factor_of_number line rest hkind]
        exact agrees_result hrest _
      | star => simp [hkind, opening] at hopening
      | slash => simp [hkind, opening] at hopening
      | rightParen => simp [hkind, opening] at hopening
      | eof => simp [hkind, opening] at hopening

/-! ## Lines -/

/-- Each of the three levels reads what one function of the descent reads. -/
theorem agrees_parseLimit (h : line.At lx tokens) :
    Agrees line (grammar.parseLimit .product lx) (forget (factor line tokens)) ∧
    Agrees line (grammar.parseLimit .sum lx) (forget (product line tokens)) ∧
    Agrees line (grammar.parseLimit .lowest lx) (forget (sum line tokens)) := by
  obtain ⟨length, hlength⟩ : ∃ length, tokens.length = length := ⟨_, rfl⟩
  induction length using Nat.strongRecOn generalizing lx tokens with
  | ind length ih =>
    have hbelow {lx : Lexer Symbol} {rest : List (Token Symbol)} (hlt : rest.length < length)
        (hrest : line.At lx rest) := ih rest.length hlt hrest rfl
    obtain ⟨parsed, hparse, hparsed⟩ :=
      exists_agrees_factor (fun hlt hrest ↦ (hbelow (hlength ▸ hlt) hrest).2.2) h
    refine ⟨?_, ?_, ?_⟩
    · rw [hparse, ← bind_pure (forget (factor line tokens))]
      exact hparsed.bind fun value rest last _ hlast ↦ agrees_climb_product hlast value
    · rw [hparse, forget_product]
      apply hparsed.bind
      intro value rest last hfactor hlast
      have hlt := of_forget_eq_ok hfactor
      exact agrees_climb_sum (fun hlt hrest ↦ (hbelow hlt hrest).1) (by omega) hlast value
    · rw [hparse, forget_sum, forget_product, bind_assoc]
      apply hparsed.bind
      intro value rest last hfactor hlast
      have hlt := of_forget_eq_ok hfactor
      exact agrees_climb_lowest (fun hlt hrest ↦ (hbelow hlt hrest).1)
        (fun hlt hrest ↦ (hbelow hlt hrest).2.1) (by omega) hlast value

end

theorem at_ofText (name text : String) {tokens : List (Token Symbol)}
    (h : (Lexer.ofText lexicon (some name) text).Shows tokens) :
    Line.At ⟨name, text⟩ (Lexer.ofText lexicon (some name) text) tokens where
  shows := h
  place_eq offset length := by
    simp [Lexer.place, Lexer.ofText, Lexer.ofChars, Cursor.text_start]
  endToken_eq := rfl

/-- A line has the outcome that the recursive descent over its tokens has, the fault and all. -/
theorem eval_eq_evaluate :
    ∃ calculator, Calculator.make? = .ok calculator ∧ ∀ name line, ∃ tokens,
      calculator.tokens name line = tokens.map .ok ∧
        calculator.eval name line = Line.evaluate ⟨name, line⟩ tokens := by
  refine ⟨_, make?_eq, fun name text ↦ ?_⟩
  have hsentinel : Symbol.eof ∉ patterns.map Prod.fst := by decide
  have hall : ∃ tokens, (Lexer.ofText lexicon (some name) text).Shows tokens :=
    Lexer.exists_shows separates_patterns hsentinel rfl
  obtain ⟨tokens, hshows⟩ := hall
  refine ⟨tokens, Lexer.drain_of_shows hshows, ?_⟩
  obtain ⟨last, hparse, hlast⟩ := (agrees_parseLimit (at_ofText name text hshows)).2.2
  rw [Line.evaluate_eq, Calculator.eval]
  simp only [Grammar.parseExpression_eq_some grammar .lowest hparse]
  rcases hsum : forget (sum ⟨name, text⟩ tokens) with fault | ⟨value, rest⟩
  · rfl
  · rcases (hlast value rest hsum).expect .eof with ⟨fault, next, hline, hlexer⟩ |
      ⟨token, next, hline, hlexer, -⟩ <;>
      simp only [Except.map, hlexer, hline, bind, Except.bind]

end OperatorGrammar.Calc
