import OperatorGrammar.Parselet.Notated
import OperatorGrammar.Proofs.Parselet.Routines

/-!
# Parselets that write an expression down always end

Each kind of starter and follower ends wherever the expressions that it asks for do, also the two
that repeat something: a list needs an expression in each round, and skipping stops at the end of the
text. Hence every parse with such parselets ends.
-/

namespace OperatorGrammar

namespace Notated

open Routine

variable {τ π : Type} [DecidableEq τ] {g : Grammar τ π String} {lexicon : Lexicon τ}
  {text : List Char} {bound : Nat}

theorem halts_ownName (naming : Naming τ) :
    Halts g lexicon text bound (ownName naming : Writing τ π String) :=
  halts_current.bind fun _ ↦ halts_pure _

theorem halts_leaf (naming : Naming τ) :
    Halts g lexicon text bound (leaf naming : Writing τ π String) :=
  halts_current.bind fun _ ↦ halts_pure _

theorem halts_int : Halts g lexicon text bound (int : Writing τ π String) := by
  refine halts_current.bind fun token ↦ ?_
  cases token.bind Token.literal with
  | none => exact halts_fail _
  | some literal =>
    dsimp only
    cases Signed.read literal.toList with
    | error e => exact halts_fail _
    | ok value => exact halts_pure _

/-- The sentinel ends the skipping, and every other token is a match. -/
theorem halts_skip (stop : τ) :
    Halts g lexicon text bound (skip lexicon.sentinel stop : Writing τ π Nat) := by
  refine halts_loop (fun count ↦ ?hears) (fun left _ count lx h ↦ ?round) 0
  case hears => exact hears_advance.bind fun _ ↦ hears_pure _
  case round =>
    refine (ends_advance h).bind (fun kind mid hmid ↦ ?_) fun fault last hlast ↦ ⟨hlast.1, nofun⟩
    refine ends_pure ⟨hmid.1, fun next hnext ↦ hmid.2 kind rfl ?_⟩
    rintro rfl
    rw [if_pos (.inr rfl)] at hnext
    cases hnext

section

variable (hidle : g.IsIdle lexicon.sentinel) (hparses : g.ParsesWithin lexicon text bound)

include hidle hparses

/-- Each round of a list starts with an expression, which takes a match. -/
theorem halts_items (level : π) (separator close : τ) :
    Halts g lexicon text bound (items level separator close : Writing τ π String) := by
  refine halts_peek.bind fun kind ↦ ?_
  split
  case isTrue => exact halts_advance.bind fun _ ↦ halts_pure _
  case isFalse =>
    refine (halts_loop (fun texts ↦ ?hears) (fun left hle texts lx h ↦ ?round) []).bind fun _ ↦
      halts_pure _
    case hears =>
      refine (hears_operand level).bind fun value ↦ (hears_peek.mono (Nat.zero_le 1)).bind fun kind ↦ ?_
      split
      · exact (hears_advance.mono (Nat.zero_le 1)).bind fun _ ↦ hears_pure _
      · exact ((hears_expect close).mono (Nat.zero_le 1)).bind fun _ ↦ hears_pure _
    case round =>
      refine (ends_operand_bind hidle (hparses.mono hle) level (fun value left ↦ ?_) h).mono
        fun _ _ hlast ↦ ⟨hlast.1, fun next ↦ hlast.2 (.inl next)⟩
      refine halts_peek.bind fun kind ↦ ?_
      split
      · exact halts_advance.bind fun _ ↦ halts_pure _
      · exact (halts_expect close).bind fun _ ↦ halts_pure _

theorem halts_starter (naming : Naming τ) (kind : StarterKind τ π) :
    Halts g lexicon text bound (starter naming lexicon.sentinel kind) := by
  have hoperand (level : π) := halts_operand hidle hparses level
  have hattempt (level : π) := halts_attempt hidle hparses level
  cases kind with
  | leaf => exact halts_leaf naming
  | int => exact halts_int
  | unary level =>
    exact (halts_ownName naming).bind fun name ↦ (hoperand level).bind fun value ↦ halts_pure _
  | group level close =>
    exact (hoperand level).bind fun value ↦ (halts_expect close).bind fun _ ↦ halts_pure _
  | list level separator close => exact halts_items hidle hparses level separator close
  | maybe level stop =>
    refine (halts_ownName naming).bind fun name ↦ halts_peek.bind fun kind ↦ ?_
    split
    · exact halts_pure _
    · exact (hoperand level).bind fun value ↦ halts_pure _
  | context level message =>
    refine (hattempt level).bind fun result ↦ ?_
    cases result with
    | error fault => exact halts_fail _
    | ok value => exact halts_pure _
  | attempt level =>
    refine (halts_ownName naming).bind fun name ↦ (hattempt level).bind fun result ↦ ?_
    cases result with
    | error fault => exact halts_pure _
    | ok value => exact halts_pure _
  | skip stop =>
    exact (halts_ownName naming).bind fun name ↦ (halts_skip stop).bind fun count ↦ halts_pure _
  | fail message => exact halts_fail _

theorem halts_follower (naming : Naming τ) (left : String) (kind : FollowerKind τ π) :
    Halts g lexicon text bound (follower naming left kind) := by
  have hoperand (level : π) := halts_operand hidle hparses level
  cases kind with
  | binary level =>
    exact (halts_ownName naming).bind fun name ↦ (hoperand level).bind fun right ↦ halts_pure _
  | trailing => exact (halts_ownName naming).bind fun name ↦ halts_pure _
  | index level close =>
    exact (halts_ownName naming).bind fun name ↦ (hoperand level).bind fun value ↦
      (halts_expect close).bind fun _ ↦ halts_pure _
  | call level separator close =>
    exact (halts_ownName naming).bind fun name ↦
      (halts_items hidle hparses level separator close).bind fun list ↦ halts_pure _
  | ternary first middle second =>
    exact (halts_ownName naming).bind fun name ↦ (hoperand first).bind fun one ↦
      (halts_expect middle).bind fun _ ↦ (hoperand second).bind fun two ↦ halts_pure _
  | extend level => exact (hoperand level).bind fun right ↦ halts_pure _
  | nonassoc level =>
    refine halts_current.bind fun own ↦ (hoperand level).bind fun value ↦
      halts_peek.bind fun kind ↦ ?_
    dsimp only
    split
    · exact (halts_fail _).bind fun _ ↦ halts_pure _
    · exact halts_pure _
  | fail message => exact halts_fail _

end

end Notated

/-- What a grammar with starters and followers of the usual kinds consists of. -/
structure KindTable (τ π : Type) where
  precedence : τ → Option π
  order : π → π → Ordering
  starter : τ → Option (StarterKind τ π)
  follower : τ → Option (FollowerKind τ π)

def KindTable.grammar {τ π : Type} [DecidableEq τ] (naming : Naming τ) (sentinel : τ)
    (table : KindTable τ π) : Grammar τ π String where
  precedence := table.precedence
  order := table.order
  starter token := (table.starter token).map fun kind ↦
    (Notated.starter naming sentinel kind).toStrategy
  follower token := (table.follower token).map fun kind left ↦
    (Notated.follower naming left kind).toStrategy

namespace Grammar

variable {τ π : Type}

/-- A grammar whose starters and followers are of the usual kinds. -/
structure IsNotated (g : Grammar τ π String) (naming : Naming τ) (sentinel : τ)
    [DecidableEq τ] : Prop where
  starter : ∀ token strategy, g.starter token = some strategy →
    ∃ kind, strategy = (Notated.starter naming sentinel kind).toStrategy
  follower : ∀ token strategy, g.follower token = some strategy →
    ∃ kind, strategy = fun left ↦ (Notated.follower naming left kind).toStrategy

variable [DecidableEq τ] {g : Grammar τ π String} {naming : Naming τ} {lexicon : Lexicon τ}

theorem isNotated_grammar (naming : Naming τ) (sentinel : τ) (table : KindTable τ π) :
    (table.grammar naming sentinel).IsNotated naming sentinel := by
  constructor
  · intro token strategy h
    obtain ⟨kind, -, hkind⟩ := Option.map_eq_some_iff.1 h
    exact ⟨kind, hkind.symm⟩
  · intro token strategy h
    obtain ⟨kind, -, hkind⟩ := Option.map_eq_some_iff.1 h
    exact ⟨kind, hkind.symm⟩

theorem IsNotated.isSettled (hg : g.IsNotated naming lexicon.sentinel)
    (hidle : g.IsIdle lexicon.sentinel) (text : List Char) : g.IsSettled lexicon text where
  idle := hidle
  starter token strategy h bound hparses lx hlx := by
    obtain ⟨kind, rfl⟩ := hg.starter token strategy h
    exact (Notated.halts_starter hidle hparses naming kind lx hlx).actLimit
  follower token strategy left h bound hparses lx hlx := by
    obtain ⟨kind, rfl⟩ := hg.follower token strategy h
    exact (Notated.halts_follower hidle hparses naming left kind lx hlx).actLimit

/-- In every state that a lexer reaches and at every level, a parse with parselets of the usual kinds
ends if none is given for the sentinel, and it dispatches no more tokens than the lexer has matches
left, of which there are at most as many as positions in the text. -/
theorem parseExpression_ends (hg : g.IsNotated naming lexicon.sentinel)
    (hidle : g.IsIdle lexicon.sentinel) (name : Option String) (text : String)
    (calls : List (Lexer.Call τ)) (min : π) :
    let lx := (Lexer.ofText lexicon name text).after calls
    (∃ depth dispatches parsed, g.parseTraced depth min lx = some (dispatches, parsed) ∧
      g.parseExpression min lx = some parsed) ∧
    (∀ depth dispatches parsed, g.parseTraced depth min lx = some (dispatches, parsed) →
      g.parse depth min lx = some parsed ∧ dispatches.length ≤ lx.matchesLeft) ∧
    lx.matchesLeft ≤ text.length + 1 := by
  intro lx
  have h : lx.Within lexicon text.toList lx.matchesLeft :=
    ((Lexer.invariant_ofText lexicon name text).after calls).within
  refine ⟨?ends, fun depth dispatches parsed htraced ↦ ⟨?same, ?bounded⟩, ?left⟩
  case ends =>
    obtain ⟨parsed, hlimit⟩ := (hg.isSettled hidle text.toList).parsesWithin _ min lx h
    obtain ⟨depth, hdepth⟩ := (g.steady_parse min lx).limit_eq_some_iff.1 hlimit
    obtain ⟨dispatches, htraced⟩ := g.exists_parseTraced hdepth
    exact ⟨depth, dispatches, parsed, htraced, g.parseExpression_eq_some min hlimit⟩
  case same => rw [← (g.map_snd_traced depth).1, htraced, Option.map_some]
  case bounded =>
    obtain ⟨-, hle⟩ := (hidle.spends depth).1 min _ lx h dispatches parsed.1 parsed.2 htraced
    exact Nat.le_of_add_right_le hle
  case left =>
    exact (Lexer.matchesLeft_after_le _ calls).trans (Lexer.matchesLeft_ofText lexicon name text)

/-- The sentinel binds here, and one starter skips all the rest of the text. -/
theorem parseExpression_ends_where_sentinel_binds :
    ∃ lexicon, Lexicon.ofRules? "end" [⟨"a", "a"⟩, ⟨"+", "[+]"⟩, ⟨"~", "~"⟩] = .ok lexicon ∧
      let naming : Naming String := ⟨id, id⟩
      let g : Grammar String Int String :=
        { precedence := fun _ ↦ some 1
          order := compare
          starter := fun token ↦
            [("a", StarterKind.maybe 0 "+"), ("~", .skip ")")].lookup token |>.map fun kind ↦
              (Notated.starter naming "end" kind).toStrategy
          follower := fun token ↦
            [("+", FollowerKind.binary 0)].lookup token |>.map fun kind left ↦
              (Notated.follower naming left kind).toStrategy }
      let lx := (Lexer.ofText lexicon none "a+~aa").after [.peek]
      g.binds 0 "end" = true ∧
        (g.parseTraced 12 0 lx).map Prod.fst =
          some [.starter "a", .follower "+", .starter "~"] ∧
        (∃ parsed, g.parseExpression 0 lx = some parsed) ∧
        ∀ depth dispatches parsed, g.parseTraced depth 0 lx = some (dispatches, parsed) →
          dispatches.length ≤ 6 := by
  let lexicon : Lexicon String :=
    ⟨"end", .alt (.group 1 (.literal ['a']))
      (.alt (.group 2 (.literal ['+'])) (.group 3 (.literal ['~']))),
      [(1, "a"), (2, "+"), (3, "~")]⟩
  have hrules : Lexicon.ofRules? "end" [⟨"a", "a"⟩, ⟨"+", "[+]"⟩, ⟨"~", "~"⟩] = .ok lexicon := by cbv
  refine ⟨lexicon, hrules, ?_⟩
  intro naming g lx
  have hg : g.IsNotated naming lexicon.sentinel := by
    constructor
    · intro token strategy h
      obtain ⟨kind, -, hkind⟩ := Option.map_eq_some_iff.1 h
      exact ⟨kind, hkind.symm⟩
    · intro token strategy h
      obtain ⟨kind, -, hkind⟩ := Option.map_eq_some_iff.1 h
      exact ⟨kind, hkind.symm⟩
  have hidle : g.IsIdle lexicon.sentinel := ⟨rfl, rfl⟩
  obtain ⟨⟨depth, dispatches, parsed, -, hparsed⟩, hbounded, hleft⟩ :=
    parseExpression_ends hg hidle none "a+~aa" [.peek] 0
  have htrace : (g.parseTraced 12 0 lx).map Prod.fst =
      some [.starter "a", .follower "+", .starter "~"] := by
    dsimp only [g, lx, naming, lexicon]
    cbv
  exact ⟨rfl, htrace, ⟨parsed, hparsed⟩, fun depth dispatches parsed htraced ↦
    (hbounded depth dispatches parsed htraced).2.trans hleft⟩

end Grammar

end OperatorGrammar
