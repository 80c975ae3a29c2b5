import Mathlib
import OperatorGrammar.Proofs.Parse.Equations

/-!
# Corresponding parsers

Two parsers side by side, with grammars over different levels, say, or with lexers for different
texts. If their strategies make like moves after hearing like answers, and like lexers give like
answers, then the two parsers find like results at every depth.
-/

namespace OperatorGrammar

variable {τ π π' ε α β : Type}

/-- What counts as alike when two parsers are compared. -/
structure Likeness (τ π π' : Type) where
  level : π → π' → Prop
  fault : Fault τ → Fault τ → Prop
  token : Token τ → Token τ → Prop

namespace Likeness

variable (like : Likeness τ π π')

inductive Results (value : α → β → Prop) : Except (Fault τ) α → Except (Fault τ) β → Prop where
  | ok {a : α} {b : β} : value a b → Results value (.ok a) (.ok b)
  | error {fault fault' : Fault τ} : like.fault fault fault' →
      Results value (.error fault) (.error fault')

inductive Replies : Lexer.Reply τ → Lexer.Reply τ → Prop where
  | kind (kind : τ) : Replies (.kind kind) (.kind kind)
  | token {token token' : Option (Token τ)} : Option.Rel like.token token token' →
      Replies (.token token) (.token token')
  | fault {fault fault' : Fault τ} : like.fault fault fault' →
      Replies (.fault fault) (.fault fault')

inductive Answers : Answer τ ε → Answer τ ε → Prop where
  | parsed {result result' : Except (Fault τ) ε} : like.Results Eq result result' →
      Answers (.parsed result) (.parsed result')
  | reply {reply reply' : Lexer.Reply τ} : like.Replies reply reply' →
      Answers (.reply reply) (.reply reply')

inductive Moves : Move τ π ε → Move τ π' ε → Prop where
  | parse {level : π} {level' : π'} : like.level level level' →
      Moves (.ask (.parse level)) (.ask (.parse level'))
  | call (call : Lexer.Call τ) : Moves (.ask (.call call)) (.ask (.call call))
  | done {result result' : Except (Fault τ) ε} : like.Results Eq result result' →
      Moves (.done result) (.done result')

def Strategies (strategy : Strategy τ π ε) (strategy' : Strategy τ π' ε) : Prop :=
  ∀ ⦃heard heard'⦄, List.Forall₂ like.Answers heard heard' →
    like.Moves (strategy heard) (strategy' heard')

structure Grammars (g : Grammar τ π ε) (g' : Grammar τ π' ε) : Prop where
  binds_eq : ∀ level level', like.level level level' →
    ∀ token, g.binds level token = g'.binds level' token
  starter : ∀ token, Option.Rel like.Strategies (g.starter token) (g'.starter token)
  follower : ∀ token, Option.Rel (fun strategy strategy' ↦
    ∀ left, like.Strategies (strategy left) (strategy' left)) (g.follower token) (g'.follower token)

variable [DecidableEq τ]

/-- A relation between lexers that every operation keeps, and under which the reports of a parser
about the current tokens are alike. -/
structure Lexers (related : Lexer τ → Lexer τ → Prop) : Prop where
  call : ∀ lx lx', related lx lx' → ∀ call,
    like.Replies (lx.call call).1 (lx'.call call).1 ∧ related (lx.call call).2 (lx'.call call).2
  noStarter : ∀ lx lx', related lx lx' → ∀ token,
    like.fault (.noStarter token lx.currentOrEnd.literal lx.currentPlace)
      (.noStarter token lx'.currentOrEnd.literal lx'.currentPlace)
  noFollower : ∀ lx lx', related lx lx' → ∀ token,
    like.fault (.noFollower token lx.currentOrEnd.literal lx.currentPlace)
      (.noFollower token lx'.currentOrEnd.literal lx'.currentPlace)

/-- What two computations find is alike, and so are the lexers that they leave. -/
def Parses (related : Lexer τ → Lexer τ → Prop) (parsed parsed' : Except (Fault τ) α × Lexer τ) :
    Prop :=
  like.Results Eq parsed.1 parsed'.1 ∧ related parsed.2 parsed'.2

variable {like} {related : Lexer τ → Lexer τ → Prop}

omit [DecidableEq τ] in
theorem Parses.cases {parsed parsed' : Except (Fault τ) α × Lexer τ}
    (h : like.Parses related parsed parsed') :
    (∃ value last last', parsed = (.ok value, last) ∧ parsed' = (.ok value, last') ∧
      related last last') ∨
    ∃ fault fault' last last', parsed = (.error fault, last) ∧ parsed' = (.error fault', last') ∧
      like.fault fault fault' ∧ related last last' := by
  obtain ⟨result, last⟩ := parsed
  obtain ⟨result', last'⟩ := parsed'
  obtain ⟨hresult, hlast⟩ := h
  cases hresult with
  | ok hvalue =>
    cases hvalue
    exact .inl ⟨_, last, last', rfl, rfl, hlast⟩
  | error hfault => exact .inr ⟨_, _, last, last', rfl, rfl, hfault, hlast⟩

theorem rel_cases {rel : α → β → Prop} {a : Option α} {b : Option β} (h : Option.Rel rel a b) :
    (a = none ∧ b = none) ∨ ∃ x y, a = some x ∧ b = some y ∧ rel x y := by
  cases h with
  | none => exact .inl ⟨rfl, rfl⟩
  | some hrel => exact .inr ⟨_, _, rfl, rfl, hrel⟩

omit [DecidableEq τ] in
theorem results_of_replies {result result' : Except (Fault τ) τ}
    (h : like.Replies (.ofKind result) (.ofKind result')) : like.Results Eq result result' := by
  rcases result with fault | kind <;> rcases result' with fault' | kind'
  · obtain _ | _ | hfault := h
    exact .error hfault
  · cases h
  · cases h
  · cases h
    exact .ok rfl

theorem Lexers.advance (hlexers : like.Lexers related) {lx lx' : Lexer τ} (h : related lx lx') :
    like.Parses related lx.advance lx'.advance :=
  (hlexers.call lx lx' h .advance).imp_left results_of_replies

theorem Lexers.peek (hlexers : like.Lexers related) {lx lx' : Lexer τ} (h : related lx lx') :
    like.Parses related lx.peek lx'.peek :=
  (hlexers.call lx lx' h .peek).imp_left results_of_replies

omit [DecidableEq τ] in
/-- Both computations pass a fault on, or go on with the same value. -/
theorem rel_andThen {parsed parsed' : Option (Grammar.Parsed τ ε)}
    (h : Option.Rel (like.Parses related) parsed parsed')
    {next next' : ε → Lexer τ → Option (Grammar.Parsed τ ε)}
    (hnext : ∀ value lx lx', related lx lx' →
      Option.Rel (like.Parses related) (next value lx) (next' value lx')) :
    Option.Rel (like.Parses related) (Grammar.andThen parsed next)
      (Grammar.andThen parsed' next') := by
  cases h with
  | none => exact .none
  | some hparsed =>
    rcases hparsed.cases with ⟨value, last, last', rfl, rfl, hlast⟩ |
      ⟨fault, fault', last, last', rfl, rfl, hfault, hlast⟩
    · exact hnext value last last' hlast
    · exact .some ⟨.error hfault, hlast⟩

variable {g : Grammar τ π ε} {g' : Grammar τ π' ε}

/-- The two parsers take their tokens, play their strategies and stop in step. -/
theorem Grammars.rel (hg : like.Grammars g g') (hlexers : like.Lexers related) (depth : Nat) :
    (∀ min min' lx lx', like.level min min' → related lx lx' →
      Option.Rel (like.Parses related) (g.parse depth min lx) (g'.parse depth min' lx')) ∧
    (∀ min min' left lx lx', like.level min min' → related lx lx' →
      Option.Rel (like.Parses related) (g.climb depth min left lx) (g'.climb depth min' left lx')) ∧
    ∀ strategy strategy' heard heard' lx lx', like.Strategies strategy strategy' →
      List.Forall₂ like.Answers heard heard' → related lx lx' →
      Option.Rel (like.Parses related) (g.act depth strategy heard lx)
        (g'.act depth strategy' heard' lx') := by
  induction depth with
  | zero =>
    refine ⟨fun min min' lx lx' _ _ ↦ ?parse, fun min min' left lx lx' _ _ ↦ ?climb,
      fun strategy strategy' heard heard' lx lx' _ _ _ ↦ ?act⟩
    case parse =>
      rw [Grammar.parse, Grammar.parse]
      exact .none
    case climb =>
      rw [Grammar.climb, Grammar.climb]
      exact .none
    case act =>
      rw [Grammar.act, Grammar.act]
      exact .none
  | succ depth ih =>
    obtain ⟨hparse, hclimb, hact⟩ := ih
    have hcontinue {strategy : Strategy τ π ε} {strategy' : Strategy τ π' ε} {min : π} {min' : π'}
        {lx lx' : Lexer τ} (hstrategy : like.Strategies strategy strategy')
        (hlevel : like.level min min') (hlx : related lx lx') :
        Option.Rel (like.Parses related)
          (Grammar.andThen (g.act depth strategy [] lx) (g.climb depth min))
          (Grammar.andThen (g'.act depth strategy' [] lx') (g'.climb depth min')) :=
      rel_andThen (hact _ _ [] [] lx lx' hstrategy .nil hlx) fun value lx lx' ↦
        hclimb min min' value lx lx' hlevel
    refine ⟨fun min min' lx lx' hlevel hlx ↦ ?parse,
      fun min min' left lx lx' hlevel hlx ↦ ?climb,
      fun strategy strategy' heard heard' lx lx' hstrategy hheard hlx ↦ ?act⟩
    case parse =>
      rw [Grammar.parse_succ, Grammar.parse_succ]
      rcases (hlexers.advance hlx).cases with ⟨token, next, next', hadvance, hadvance', hnext⟩ |
        ⟨fault, fault', next, next', hadvance, hadvance', hfault, hnext⟩
      · simp only [hadvance, hadvance']
        rcases rel_cases (hg.starter token) with
          ⟨hnone, hnone'⟩ | ⟨strategy, strategy', hsome, hsome', hstrategy⟩
        · simp only [hnone, hnone']
          exact .some ⟨.error (hlexers.noStarter next next' hnext token), hnext⟩
        · simp only [hsome, hsome']
          exact hcontinue hstrategy hlevel hnext
      · simp only [hadvance, hadvance']
        exact .some ⟨.error hfault, hnext⟩
    case climb =>
      rw [Grammar.climb_succ, Grammar.climb_succ]
      rcases (hlexers.peek hlx).cases with ⟨token, peeked, peeked', hpeek, hpeek', hpeeked⟩ |
        ⟨fault, fault', peeked, peeked', hpeek, hpeek', hfault, hpeeked⟩
      · simp only [hpeek, hpeek', hg.binds_eq min min' hlevel token]
        split
        case isFalse => exact .some ⟨.ok rfl, hpeeked⟩
        case isTrue =>
          rcases (hlexers.advance hpeeked).cases with
            ⟨token, next, next', hadvance, hadvance', hnext⟩ |
            ⟨fault, fault', next, next', hadvance, hadvance', hfault, hnext⟩
          · simp only [hadvance, hadvance']
            rcases rel_cases (hg.follower token) with
              ⟨hnone, hnone'⟩ | ⟨strategy, strategy', hsome, hsome', hstrategy⟩
            · simp only [hnone, hnone']
              exact .some ⟨.error (hlexers.noFollower next next' hnext token), hnext⟩
            · simp only [hsome, hsome']
              exact hcontinue (hstrategy left) hlevel hnext
          · simp only [hadvance, hadvance']
            exact .some ⟨.error hfault, hnext⟩
      · simp only [hpeek, hpeek']
        exact .some ⟨.error hfault, hpeeked⟩
    case act =>
      -- the same move on both sides, so that what is heard after it is alike again
      have hmove := hstrategy hheard
      rw [Grammar.act, Grammar.act]
      generalize strategy heard = move at hmove ⊢
      generalize strategy' heard' = move' at hmove ⊢
      cases hmove with
      | done hresult => exact .some ⟨hresult, hlx⟩
      | @parse level level' hasked =>
        dsimp only
        rcases rel_cases (hparse level level' lx lx' hasked hlx) with
          ⟨hnone, hnone'⟩ | ⟨parsed, parsed', hsome, hsome', hparsed⟩
        · rw [hnone, hnone']
          exact .none
        · rw [hsome, hsome']
          have hlonger := List.rel_append hheard (.cons (.parsed hparsed.1) .nil)
          exact hact _ _ _ _ _ _ hstrategy hlonger hparsed.2
      | call call =>
        obtain ⟨hreply, hnext⟩ := hlexers.call lx lx' hlx call
        have hlonger := List.rel_append hheard (.cons (.reply hreply) .nil)
        exact hact _ _ _ _ _ _ hstrategy hlonger hnext

end Likeness

end OperatorGrammar
