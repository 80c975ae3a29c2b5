import OperatorGrammar.Proofs.Lexer.Unread
import OperatorGrammar.Proofs.Parse.Record
import OperatorGrammar.Proofs.Parselet.Notated

/-!
# Parses at lower levels

A level is lower than another one if more tokens bind at it. A parse at the lower level does what
the parse at the higher one does, and goes on from where that one stops.
-/

namespace OperatorGrammar.Grammar

variable {τ π ε : Type} {g : Grammar τ π ε} {a b : π}

/-- All tokens that bind at level `b` bind at level `a`. -/
def Lower (g : Grammar τ π ε) (a b : π) : Prop :=
  ∀ token, g.binds b token = true → g.binds a token = true

theorem lower_of_order (h : ∀ level, g.order b level = .lt → g.order a level = .lt) :
    g.Lower a b := by
  intro token hbinds
  rw [binds, Option.any_eq_true] at hbinds ⊢
  obtain ⟨level, hlevel, hlt⟩ := hbinds
  exact ⟨level, hlevel, beq_iff_eq.2 (h level (beq_iff_eq.1 hlt))⟩

theorem order_of_le [LinearOrder π] (horder : g.order = compare) (hle : a ≤ b) (level : π)
    (hlt : g.order b level = .lt) : g.order a level = .lt := by
  rw [horder, compare_lt_iff_lt] at hlt ⊢
  exact hle.trans_lt hlt

theorem exists_andThen {parsed : Option (Parsed τ ε)}
    {next later : ε → Lexer τ → Option (Parsed τ ε)}
    (h : ∀ {value lx found}, next value lx = some found → ∃ found', later value lx = some found')
    {found : Parsed τ ε} (hfound : andThen parsed next = some found) :
    ∃ found', andThen parsed later = some found' := by
  rcases andThen_eq_some_iff.1 hfound with ⟨fault, last, rfl, -⟩ | ⟨value, mid, rfl, hrest⟩
  · exact ⟨_, rfl⟩
  · exact h hrest

variable [DecidableEq τ]

/-! ## Where an expression is continued to -/

/-- An expression that is continued up to some token at the lower level is continued up to that
token or one before it at the higher level. -/
theorem exists_climb_of_lower (h : g.Lower a b) {depth : Nat} {left : ε} {lx : Lexer τ}
    {found : Parsed τ ε} (hclimb : g.climb depth a left lx = some found) :
    ∃ found', g.climb depth b left lx = some found' := by
  induction depth generalizing left lx found with
  | zero =>
    rw [climb] at hclimb
    cases hclimb
  | succ depth ih =>
    rw [climb_succ] at hclimb ⊢
    rcases hpeek : lx.peek with ⟨fault | token, next⟩
    · exact ⟨_, rfl⟩
    rw [hpeek] at hclimb
    dsimp only at hclimb ⊢
    by_cases hbinds : g.binds b token = true
    · rw [if_pos hbinds]
      rw [if_pos (h token hbinds)] at hclimb
      rcases hadvance : next.advance with ⟨fault | taken, next⟩
      · exact ⟨_, rfl⟩
      rw [hadvance] at hclimb
      dsimp only at hclimb ⊢
      cases hfollower : g.follower taken with
      | none => exact ⟨_, rfl⟩
      | some strategy =>
        rw [hfollower] at hclimb
        exact exists_andThen ih hclimb
    · exact ⟨_, if_neg hbinds⟩

theorem climbLimit_of_climb (h : g.Lower a b) {depth : Nat} {left : ε} {lx : Lexer τ}
    {found : Parsed τ ε} (hclimb : g.climb depth b left lx = some found) :
    g.climbLimit a left lx = andThen (some found) (g.climbLimit a) := by
  induction depth generalizing left lx with
  | zero =>
    rw [climb] at hclimb
    cases hclimb
  | succ depth ih =>
    rw [climb_succ] at hclimb
    rcases hadvance : lx.advance with ⟨fault | kind, next⟩
    · rw [Lexer.peek_of_advance_error hadvance] at hclimb
      obtain rfl := Option.some.inj hclimb
      exact g.climbLimit_of_error a left hadvance
    obtain ⟨token, rfl, hdelivers⟩ := Lexer.delivers_of_advance hadvance
    have hback := Lexer.delivers_putBack hdelivers
    simp only [hdelivers.peek_eq, hback.advance_eq, hdelivers.currentOrEnd_eq] at hclimb
    by_cases hbinds : g.binds b token.kind = true
    · rw [if_pos hbinds] at hclimb
      rw [g.climbLimit_of_delivers a left hdelivers, if_pos (h token.kind hbinds)]
      cases hfollower : g.follower token.kind with
      | none =>
        rw [hfollower] at hclimb
        obtain rfl := Option.some.inj hclimb
        rfl
      | some strategy =>
        rw [hfollower] at hclimb
        dsimp only
        rcases andThen_eq_some_iff.1 hclimb with
          ⟨fault, last, hact, rfl⟩ | ⟨value, mid, hact, hrest⟩
        · have hlimit : g.actLimit (strategy left) [] next = some (.error fault, last) :=
            (g.steady_act _ _ _).limit_eq_some_iff.2 ⟨depth, hact⟩
          rw [hlimit, andThen_error]
        · have hlimit : g.actLimit (strategy left) [] next = some (.ok value, mid) :=
            (g.steady_act _ _ _).limit_eq_some_iff.2 ⟨depth, hact⟩
          rw [hlimit, andThen_ok]
          exact ih hrest
    · -- the token is put back, and looked at once more at the lower level
      rw [if_neg hbinds] at hclimb
      obtain rfl := Option.some.inj hclimb
      exact g.climbLimit_congr a left (hadvance.trans hback.advance_eq.symm)

/-- To continue an expression at the lower level is to continue it at the higher one first. -/
theorem climbLimit_eq_andThen (h : g.Lower a b) (left : ε) (lx : Lexer τ) :
    g.climbLimit a left lx = andThen (g.climbLimit b left lx) (g.climbLimit a) := by
  cases hhigher : g.climbLimit b left lx with
  | some found =>
    obtain ⟨depth, hclimb⟩ := (g.steady_climb b left lx).limit_eq_some_iff.1 hhigher
    exact climbLimit_of_climb h hclimb
  | none =>
    refine Option.eq_none_iff_forall_ne_some.2 fun found hlower ↦ ?_
    obtain ⟨depth, hclimb⟩ := (g.steady_climb a left lx).limit_eq_some_iff.1 hlower
    obtain ⟨found', hclimb'⟩ := exists_climb_of_lower h hclimb
    have hlimit : g.climbLimit b left lx = some found' :=
      (g.steady_climb b left lx).limit_eq_some_iff.2 ⟨depth, hclimb'⟩
    rw [hhigher] at hlimit
    cases hlimit

theorem parseLimit_eq_andThen (h : g.Lower a b) (lx : Lexer τ) :
    g.parseLimit a lx = andThen (g.parseLimit b lx) (g.climbLimit a) := by
  rcases hadvance : lx.advance with ⟨fault | kind, next⟩
  · rw [g.parseLimit_of_error a hadvance, g.parseLimit_of_error b hadvance, andThen_error]
  · obtain ⟨token, rfl, hdelivers⟩ := Lexer.delivers_of_advance hadvance
    rw [g.parseLimit_of_delivers a hdelivers, g.parseLimit_of_delivers b hdelivers]
    cases g.starter token.kind with
    | none => rfl
    | some strategy =>
      calc
        andThen (g.actLimit strategy [] next) (g.climbLimit a) =
            andThen (g.actLimit strategy [] next) fun left lx ↦
              andThen (g.climbLimit b left lx) (g.climbLimit a) := by
          simp only [← climbLimit_eq_andThen h]
        _ = andThen (andThen (g.actLimit strategy [] next) (g.climbLimit b)) (g.climbLimit a) :=
          (andThen_assoc ..).symm

/-! ## What is done up to there -/

/-- The operations of the lexer that a parse is made of. -/
def calls {α : Type} (record : Record τ π α) : List (Lexer.Call τ) := record.events.map Event.call

omit [DecidableEq τ] in
theorem isPrefix_calls_andThenRecorded (record : Record τ π (Parsed τ ε))
    {next later : ε → Lexer τ → Record τ π (Parsed τ ε)}
    (h : ∀ value lx, calls (next value lx) <+: calls (later value lx)) :
    calls (andThenRecorded record next) <+: calls (andThenRecorded record later) := by
  rw [andThenRecorded, andThenRecorded, Record.bind, Record.bind]
  cases record.found with
  | none => exact List.prefix_rfl
  | some found =>
    simp only [calls, List.map_append]
    refine (List.prefix_append_right_inj _).2 ?_
    rcases found with ⟨fault | value, lx⟩
    · exact List.prefix_rfl
    · exact h value lx

/-- Up to where the higher level stops, the same is done at both levels. -/
theorem isPrefix_calls_climbRecorded (h : g.Lower a b) (depth : Nat) (left : ε) (lx : Lexer τ) :
    calls (g.climbRecorded depth b left lx) <+: calls (g.climbRecorded depth a left lx) := by
  induction depth generalizing left lx with
  | zero => rw [climbRecorded, climbRecorded]
  | succ depth ih =>
    rw [climbRecorded, climbRecorded]
    rcases lx.peek with ⟨fault | token, next⟩
    · exact List.prefix_rfl
    refine (List.prefix_cons_inj _).2 ?_
    by_cases hbinds : g.binds b token = true
    · rw [if_pos hbinds, if_pos (h token hbinds)]
      rcases next.advance with ⟨fault | taken, next⟩
      · exact List.prefix_rfl
      dsimp only
      cases g.follower taken with
      | none => exact List.prefix_rfl
      | some strategy => exact (List.prefix_cons_inj _).2 (isPrefix_calls_andThenRecorded _ ih)
    · rw [if_neg hbinds]
      exact List.nil_prefix

theorem isPrefix_calls_parseRecorded (h : g.Lower a b) (depth : Nat) (lx : Lexer τ) :
    calls (g.parseRecorded depth b lx) <+: calls (g.parseRecorded depth a lx) := by
  cases depth with
  | zero => rw [parseRecorded, parseRecorded]
  | succ depth =>
    rw [parseRecorded, parseRecorded]
    rcases lx.advance with ⟨fault | token, next⟩
    · exact List.prefix_rfl
    dsimp only
    cases g.starter token with
    | none => exact List.prefix_rfl
    | some strategy =>
      exact (List.prefix_cons_inj _).2
        (isPrefix_calls_andThenRecorded _ (isPrefix_calls_climbRecorded h depth))

/-! ## Parses at two levels -/

/-- From a lexer on, a parse at level `a` is a parse at level `b` that is continued at level `a`.
One of them is without end if the other is, and if the one at level `b` fails then both do. -/
structure Extends (g : Grammar τ π ε) (a b : π) (lx : Lexer τ) : Prop where
  parseLimit_eq : g.parseLimit a lx = andThen (g.parseLimit b lx) (g.climbLimit a)
  fault : ∀ depth fault last, g.parse depth b lx = some (.error fault, last) →
    g.parseExpression b lx = some (.error fault, last) ∧
      g.parseExpression a lx = some (.error fault, last)
  value : ∀ depth value mid, g.parse depth b lx = some (.ok value, mid) →
    g.parseExpression b lx = some (.ok value, mid) ∧
      ∀ depth' found, g.climb depth' a value mid = some found →
        g.parseExpression a lx = some found
  ends : ∀ depth found, g.parse depth a lx = some found →
    ∃ found', g.parse depth b lx = some found'
  consumed : ∀ depth, lx.consumed (calls (g.parseRecorded depth b lx)) <+:
    lx.consumed (calls (g.parseRecorded depth a lx))

theorem exists_parse_of_lower (h : g.Lower a b) {depth : Nat} {lx : Lexer τ} {found : Parsed τ ε}
    (hparse : g.parse depth a lx = some found) : ∃ found', g.parse depth b lx = some found' := by
  cases depth with
  | zero =>
    rw [parse] at hparse
    cases hparse
  | succ depth =>
    rw [parse_succ] at hparse ⊢
    rcases hadvance : lx.advance with ⟨fault | token, next⟩
    · exact ⟨_, rfl⟩
    rw [hadvance] at hparse
    dsimp only at hparse ⊢
    cases hstarter : g.starter token with
    | none => exact ⟨_, rfl⟩
    | some strategy =>
      rw [hstarter] at hparse
      exact exists_andThen (exists_climb_of_lower h) hparse

theorem extends_of_lower (h : g.Lower a b) (lx : Lexer τ) : g.Extends a b lx where
  parseLimit_eq := parseLimit_eq_andThen h lx
  fault depth fault last hparse := by
    have hlimit : g.parseLimit b lx = some (.error fault, last) :=
      (g.steady_parse b lx).limit_eq_some_iff.2 ⟨depth, hparse⟩
    refine ⟨g.parseExpression_of_parse b hparse, g.parseExpression_eq_some a ?_⟩
    rw [parseLimit_eq_andThen h lx, hlimit, andThen_error]
  value depth value mid hparse := by
    have hlimit : g.parseLimit b lx = some (.ok value, mid) :=
      (g.steady_parse b lx).limit_eq_some_iff.2 ⟨depth, hparse⟩
    refine ⟨g.parseExpression_of_parse b hparse, fun depth' found hclimb ↦ ?_⟩
    apply g.parseExpression_eq_some a
    rw [parseLimit_eq_andThen h lx, hlimit, andThen_ok]
    exact (g.steady_climb a value mid).limit_eq_some_iff.2 ⟨depth', hclimb⟩
  ends _ _ := exists_parse_of_lower h
  consumed depth := by
    obtain ⟨rest, hrest⟩ := isPrefix_calls_parseRecorded h depth lx
    rw [← hrest, Lexer.consumed_append]
    exact List.prefix_append ..

/-- Lowering the level only extends a parse. -/
theorem parse_extends (g : Grammar τ π ε) (a b : π) (lx : Lexer τ) :
    ((∀ level, g.order b level = .lt → g.order a level = .lt) → g.Extends a b lx) ∧
      ∀ [LinearOrder π], g.order = compare → a ≤ b → g.Extends a b lx :=
  ⟨fun h ↦ extends_of_lower (lower_of_order h) lx,
    fun horder hle ↦ extends_of_lower (lower_of_order (order_of_le horder hle)) lx⟩

/-- Above the level of sums a product is parsed, and then at the lowest level the sum that it is
part of. -/
theorem parse_extends_product_to_sum :
    ∃ lexicon, Lexicon.ofRules? "end" [⟨"n", "é"⟩, ⟨"+", "[+]"⟩, ⟨"*", "[*]"⟩] = .ok lexicon ∧
      let naming : Naming String := ⟨id, id⟩
      let table : KindTable String Int :=
        { precedence := fun token ↦ [("+", 1), ("*", 2)].lookup token
          order := compare
          starter := fun token ↦ [("n", .leaf)].lookup token
          follower := fun token ↦ [("+", .binary 1), ("*", .binary 2)].lookup token }
      let g := table.grammar naming "end"
      let lx := Lexer.ofText lexicon none "é * é + é"
      (∀ level, g.order 1 level = .lt → g.order 0 level = .lt) ∧
        ∃ mid last,
          g.parseExpression 1 lx = some (.ok "(* [n é] [n é])", mid) ∧
          g.parseExpression 0 lx = some (.ok "(+ (* [n é] [n é]) [n é])", last) ∧
          g.Extends 0 1 lx := by
  let lexicon : Lexicon String :=
    ⟨"end", .alt (.group 1 (.literal ['é']))
      (.alt (.group 2 (.literal ['+'])) (.group 3 (.literal ['*']))),
      [(1, "n"), (2, "+"), (3, "*")]⟩
  have hrules : Lexicon.ofRules? "end" [⟨"n", "é"⟩, ⟨"+", "[+]"⟩, ⟨"*", "[*]"⟩] = .ok lexicon := by
    cbv
  refine ⟨lexicon, hrules, ?_⟩
  intro naming table g lx
  have hlower (level : Int) : g.order 1 level = .lt → g.order 0 level = .lt :=
    order_of_le rfl (by decide) level
  have hproduct : (g.parse 12 1 lx).map Prod.fst = some (.ok "(* [n é] [n é])") := by
    dsimp only [g, table, lx, naming, lexicon]
    cbv
  have hsum : ((g.parse 12 1 lx).bind fun found ↦ g.climb 12 0 "(* [n é] [n é])" found.2).map
      Prod.fst = some (.ok "(+ (* [n é] [n é]) [n é])") := by
    dsimp only [g, table, lx, naming, lexicon]
    cbv
  obtain ⟨⟨_, mid⟩, hmid, rfl⟩ := Option.map_eq_some_iff.1 hproduct
  rw [hmid, Option.bind_some] at hsum
  obtain ⟨⟨_, last⟩, hlast, rfl⟩ := Option.map_eq_some_iff.1 hsum
  obtain ⟨hhigher, hcontinued⟩ := ((g.parse_extends 0 1 lx).1 hlower).value 12 _ mid hmid
  exact ⟨hlower, mid, last, hhigher, hcontinued 12 _ hlast,
    (g.parse_extends 0 1 lx).2 rfl (by decide)⟩

end OperatorGrammar.Grammar
