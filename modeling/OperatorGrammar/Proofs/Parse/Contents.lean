import OperatorGrammar.Proofs.Lexer.Contents
import OperatorGrammar.Proofs.Parselet.Correspondence
import OperatorGrammar.Proofs.Parselet.Notated

/-!
# A parser sees tokens, never text

What an expression is parsed to depends on the kinds and the literals of the tokens only. What was
skipped between them, where they stand and which patterns they match shows nowhere but in the places
of faults.
-/

namespace OperatorGrammar

variable {τ π ε : Type}

/-- The fault with a place that says nothing. -/
def Fault.unplaced : Fault τ → Fault τ
  | unidentified _ => unidentified ⟨"", "", 0, 0⟩
  | mismatch expected found literal _ => mismatch expected found literal ⟨"", "", 0, 0⟩
  | noStarter token literal _ => noStarter token literal ⟨"", "", 0, 0⟩
  | noFollower token literal _ => noFollower token literal ⟨"", "", 0, 0⟩
  | report message => report message
  | context message cause => context message cause.unplaced

/-- The wording of a fault does not depend on its place. -/
theorem Fault.messages_unplaced (label : τ → String) (fault : Fault τ) :
    fault.unplaced.messages label = fault.messages label := by
  induction fault with
  | context message cause ih => exact congrArg (message :: ·) ih
  | _ => rfl

theorem Fault.help?_unplaced (label : τ → String) (fault : Fault τ) :
    fault.unplaced.help? label = fault.help? label := by
  induction fault with
  | context message cause ih => exact ih
  | _ => rfl

namespace Likeness

/-- Only offsets and places may differ. -/
def ofContent : Likeness τ π π where
  level := Eq
  fault fault fault' := fault.unplaced = fault'.unplaced
  token token token' := token.content = token'.content

theorem plain_ofContent : (ofContent : Likeness τ π π).Plain where
  kind_eq _ _ := congrArg Prod.fst
  literal_eq _ _ := congrArg Prod.snd
  report _ := rfl
  context message _ _ := congrArg (Fault.context message)

theorem mapError_eq_of_results {result result' : Except (Fault τ) ε}
    (h : (ofContent : Likeness τ π π).Results Eq result result') :
    result.mapError Fault.unplaced = result'.mapError Fault.unplaced := by
  cases h with
  | ok hvalue => rw [hvalue]
  | error hfault => exact congrArg Except.error hfault

end Likeness

/-! ## Strategies that do not look at places -/

namespace Grammar

/-- What a strategy of the grammar does depends on what it has heard, but not on the offsets of
tokens and the places of faults in it. -/
structure Blind (g : Grammar τ π ε) : Prop where
  starter : ∀ token strategy, g.starter token = some strategy →
    Likeness.ofContent.Strategies strategy strategy
  follower : ∀ token strategy left, g.follower token = some strategy →
    Likeness.ofContent.Strategies (strategy left) (strategy left)

theorem Blind.grammars {g : Grammar τ π ε} (h : g.Blind) :
    (Likeness.ofContent : Likeness τ π π).Grammars g g where
  binds_eq level _ := by
    rintro rfl token
    rfl
  starter token := by
    cases hstarter : g.starter token with
    | none => exact .none
    | some strategy => exact .some (h.starter token strategy hstarter)
  follower token := by
    cases hfollower : g.follower token with
    | none => exact .none
    | some strategy => exact .some fun left ↦ h.follower token strategy left hfollower

theorem IsNotated.blind [DecidableEq τ] {g : Grammar τ π String} {naming : Naming τ} {sentinel : τ}
    (h : g.IsNotated naming sentinel) : g.Blind where
  starter token strategy hstarter := by
    obtain ⟨kind, rfl⟩ := h.starter token strategy hstarter
    exact Notated.strategies_starter Likeness.plain_ofContent (fun _ ↦ rfl) naming sentinel kind
  follower token strategy left hfollower := by
    obtain ⟨kind, rfl⟩ := h.follower token strategy hfollower
    exact Notated.strategies_follower Likeness.plain_ofContent (fun _ ↦ rfl) naming left kind

end Grammar

/-! ## Lexers that deliver the same -/

namespace Lexer

variable {contents : Stream' (τ × Option String)} {lx lx' : Lexer τ}

/-- Both lexers have the same tokens ahead, up to their offsets: the rest of some contents. -/
structure SameAhead (contents : Stream' (τ × Option String)) (lx lx' : Lexer τ) : Prop where
  invariant_left : lx.Invariant lx.lexicon lx.cursor.text
  invariant_right : lx'.Invariant lx'.lexicon lx'.cursor.text
  sentinel_eq : lx.sentinel = lx'.sentinel
  emits : ∃ n, lx.Emits (contents.drop n) ∧ lx'.Emits (contents.drop n)

/-- To a parser both lexers are the same, up to offsets. -/
structure SameSight (contents : Stream' (τ × Option String)) (lx lx' : Lexer τ) : Prop
    extends lx.SameAhead contents lx' where
  pending_eq : lx.pending = lx'.pending
  current_eq : lx.current.map Token.content = lx'.current.map Token.content

theorem SameSight.literal_eq (h : lx.SameSight contents lx') :
    lx.currentOrEnd.literal = lx'.currentOrEnd.literal := by
  have hcurrent := h.current_eq
  rw [currentOrEnd, currentOrEnd]
  cases hleft : lx.current <;> cases hright : lx'.current <;> rw [hleft, hright] at hcurrent
  · rfl
  · cases hcurrent
  · cases hcurrent
  · exact congrArg Prod.snd (Option.some.inj hcurrent)

theorem Invariant.self {lexicon : Lexicon τ} {text : List Char} (h : lx.Invariant lexicon text) :
    lx.Invariant lx.lexicon lx.cursor.text := by
  rwa [h.lexicon_eq, h.text_eq]

/-- Both lexers deliver the same token next, and to a parser they are the same from then on, also
if the token is put back. -/
theorem SameAhead.delivers (h : lx.SameAhead contents lx') :
    ∃ token token' next next', lx.Delivers token next ∧ lx'.Delivers token' next' ∧
      token.content = token'.content ∧ next.SameSight contents next' ∧
      next.putBack.SameSight contents next'.putBack := by
  obtain ⟨n, hemits, hemits'⟩ := h.emits
  obtain ⟨token, next, hdelivers, hhead, hnext⟩ := hemits.delivers
  obtain ⟨token', next', hdelivers', hhead', hnext'⟩ := hemits'.delivers
  have hcontent : token.content = token'.content := hhead.trans hhead'.symm
  have hcurrent := h.invariant_left.current_of_delivers hdelivers
  have hcurrent' := h.invariant_right.current_of_delivers hdelivers'
  have hinvariant := h.invariant_left.of_advance hdelivers.advance_eq
  have hinvariant' := h.invariant_right.of_advance hdelivers'.advance_eq
  have hsentinel : next.sentinel = next'.sentinel := by
    rw [hdelivers.sameText.sentinel_eq, h.sentinel_eq, hdelivers'.sameText.sentinel_eq]
  have hsame : next.current.map Token.content = next'.current.map Token.content := by
    rw [hcurrent, hcurrent', Option.map_some, Option.map_some, hcontent]
  refine ⟨token, token', next, next', hdelivers, hdelivers', hcontent, ?taken, ?putBack⟩
  case taken =>
    exact
      { invariant_left := hinvariant.self
        invariant_right := hinvariant'.self
        sentinel_eq := hsentinel
        emits := ⟨n + 1, by rwa [← Stream'.tail_drop'], by rwa [← Stream'.tail_drop']⟩
        pending_eq := hdelivers.pending_eq.trans hdelivers'.pending_eq.symm
        current_eq := hsame }
  case putBack =>
    exact
      { invariant_left := (hinvariant.putBack hcurrent).self
        invariant_right := (hinvariant'.putBack hcurrent').self
        sentinel_eq := hsentinel
        emits := ⟨n, hemits.congr hdelivers.advance_putBack,
          hemits'.congr hdelivers'.advance_putBack⟩
        pending_eq := rfl
        current_eq := hsame }

end Lexer

namespace Grammar

variable {contents : Stream' (τ × Option String)}

/-- Two parses found the same up to places, and left tokens that are the same to a parser. -/
structure SameFinds (contents : Stream' (τ × Option String)) (parsed parsed' : Parsed τ ε) :
    Prop where
  result_eq : parsed.1.mapError Fault.unplaced = parsed'.1.mapError Fault.unplaced
  pending_eq : parsed.2.pending = parsed'.2.pending
  emits : ∃ n, parsed.2.Emits (contents.drop n) ∧ parsed'.2.Emits (contents.drop n)

theorem SameFinds.of_parses {parsed parsed' : Parsed τ ε}
    (h : (Likeness.ofContent : Likeness τ π π).Parses (Lexer.SameSight contents) parsed parsed') :
    SameFinds contents parsed parsed' :=
  ⟨Likeness.mapError_eq_of_results h.1, h.2.pending_eq, h.2.emits⟩

theorem SameFinds.messages_eq {fault fault' : Fault τ} {last last' : Lexer τ}
    (h : SameFinds contents ((.error fault, last) : Parsed τ ε) (.error fault', last'))
    (label : τ → String) :
    fault.messages label = fault'.messages label ∧ fault.help? label = fault'.help? label := by
  have hsame : fault.unplaced = fault'.unplaced := Except.error.inj h.result_eq
  rw [← fault.messages_unplaced, ← fault.help?_unplaced, hsame, fault'.messages_unplaced,
    fault'.help?_unplaced]
  exact ⟨rfl, rfl⟩

end Grammar

variable [DecidableEq τ] {contents : Stream' (τ × Option String)}

theorem Likeness.lexers_sameSight :
    (ofContent : Likeness τ π π).Lexers (Lexer.SameSight contents) where
  noStarter lx lx' h token := by
    change Fault.noStarter _ _ _ = Fault.noStarter _ _ _
    rw [h.literal_eq]
  noFollower lx lx' h token := by
    change Fault.noFollower _ _ _ = Fault.noFollower _ _ _
    rw [h.literal_eq]
  call lx lx' h call := by
    obtain ⟨token, token', next, next', hdelivers, hdelivers', hcontent, hnext, hputBack⟩ :=
      h.delivers
    obtain ⟨hkind, hliteral⟩ := Prod.mk.inj hcontent
    cases call with
    | current =>
      refine ⟨.token ?_, h⟩
      have hcurrent := h.current_eq
      cases hleft : lx.current <;> cases hright : lx'.current <;> rw [hleft, hright] at hcurrent
      · exact .none
      · cases hcurrent
      · cases hcurrent
      · exact .some (Option.some.inj hcurrent)
    | advance =>
      simp only [Lexer.call, hdelivers.advance_eq, hdelivers'.advance_eq, hkind]
      exact ⟨.kind _, hnext⟩
    | peek =>
      simp only [Lexer.call, hdelivers.peek_eq, hdelivers'.peek_eq, hkind]
      exact ⟨.kind _, hputBack⟩
    | expect expected =>
      simp only [Lexer.call, Lexer.expect_of_delivers hdelivers,
        Lexer.expect_of_delivers hdelivers', hkind, hliteral]
      split
      · exact ⟨.token (.some hcontent), hnext⟩
      · exact ⟨.fault rfl, hnext⟩
    | next =>
      simp only [Lexer.call, Lexer.next, hdelivers.advance_eq, hdelivers'.advance_eq, hkind,
        hdelivers.currentOrEnd_eq, hdelivers'.currentOrEnd_eq, hnext.sentinel_eq]
      split
      · exact ⟨.token .none, hnext⟩
      · exact ⟨.token (.some hcontent), hnext⟩

namespace Grammar

variable {g : Grammar τ π ε}

theorem Blind.rel_parse (hg : g.Blind) {lx lx' : Lexer τ} (h : lx.SameAhead contents lx')
    (depth : Nat) (min : π) :
    Option.Rel ((Likeness.ofContent : Likeness τ π π).Parses (Lexer.SameSight contents))
      (g.parse depth min lx) (g.parse depth min lx') := by
  obtain ⟨token, token', next, next', hdelivers, hdelivers', -, -, hputBack⟩ := h.delivers
  -- the tokens taken before need not be the same, but a parse never looks at them: it may as well
  -- start from where the first token has been looked at
  rw [← g.parse_congr min hdelivers.advance_putBack, ← g.parse_congr min hdelivers'.advance_putBack]
  exact (hg.grammars.rel Likeness.lexers_sameSight depth).1 min min _ _ rfl hputBack

/-- Lexers for any texts, with any rules but the same sentinel, that deliver tokens of the same
kinds and literals from now on, whether or not the next one was looked at: all parses with parselets
that do not look at places find the same on both of them, up to places, and leave the same tokens,
looked at or not. -/
theorem parse_of_same_contents (hg : g.Blind) {lexicon lexicon' : Lexicon τ}
    (hsentinel : lexicon.sentinel = lexicon'.sentinel) (name name' : Option String)
    (text text' : String) (calls calls' : List (Lexer.Call τ)) (min : π) :
    let lx := (Lexer.ofText lexicon name text).after calls
    let lx' := (Lexer.ofText lexicon' name' text').after calls'
    lx.Emits contents → lx'.Emits contents →
      (∀ depth, Option.Rel (SameFinds contents) (g.parse depth min lx) (g.parse depth min lx')) ∧
      (∀ depth parsed, g.parse depth min lx = some parsed →
        g.parseExpression min lx = some parsed ∧
        ∃ parsed', g.parseExpression min lx' = some parsed' ∧ SameFinds contents parsed parsed') ∧
      ∀ depth fault fault' last last', g.parse depth min lx = some (.error fault, last) →
        g.parse depth min lx' = some (.error fault', last') → ∀ label,
          fault.messages label = fault'.messages label ∧
            fault.help? label = fault'.help? label := by
  intro lx lx' hemits hemits'
  have h := (Lexer.invariant_ofText lexicon name text).after calls
  have h' := (Lexer.invariant_ofText lexicon' name' text').after calls'
  have hsame : lx.SameAhead contents lx' :=
    ⟨h.self, h'.self, h.sentinel_eq.trans (hsentinel.trans h'.sentinel_eq.symm), 0, hemits, hemits'⟩
  have hrel (depth : Nat) :
      Option.Rel (SameFinds contents) (g.parse depth min lx) (g.parse depth min lx') := by
    rcases Likeness.rel_cases (hg.rel_parse hsame depth min) with
      ⟨hnone, hnone'⟩ | ⟨parsed, parsed', hsome, hsome', hparsed⟩
    · rw [hnone, hnone']
      exact .none
    · rw [hsome, hsome']
      exact .some (.of_parses hparsed)
  refine ⟨hrel, fun depth parsed hparsed ↦ ⟨g.parseExpression_of_parse min hparsed, ?_⟩,
    fun depth fault fault' last last' hparsed hparsed' ↦ ?_⟩
  · rcases Likeness.rel_cases (hrel depth) with ⟨hnone, -⟩ | ⟨_, parsed', hsome, hsome', hfinds⟩
    · cases hnone.symm.trans hparsed
    · obtain rfl := Option.some.inj (hsome.symm.trans hparsed)
      exact ⟨parsed', g.parseExpression_of_parse min hsome', hfinds⟩
  · have hfinds := hrel depth
    rw [hparsed, hparsed'] at hfinds
    cases hfinds with
    | some hfinds => exact hfinds.messages_eq

/-- The two texts end where an operand is missing, at different offsets. -/
theorem parse_of_same_contents_at_other_offsets :
    ∃ lexicon lexicon', Lexicon.ofRules? "end" [⟨"n", "1"⟩, ⟨"+", "[+]"⟩] = .ok lexicon ∧
      Lexicon.ofRules? "end" [⟨"+", "[+]"⟩, ⟨"n", "(1)"⟩] = .ok lexicon' ∧
      let naming : Naming String := ⟨id, id⟩
      let table : KindTable String Int :=
        { precedence := fun token ↦ [("+", 1)].lookup token
          order := compare
          starter := fun token ↦ [("n", .leaf)].lookup token
          follower := fun token ↦ [("+", .binary 1)].lookup token }
      let g := table.grammar naming "end"
      let contents := [("n", some "1"), ("+", some "+")] ++ₛ Stream'.const ("end", none)
      let lx := (Lexer.ofText lexicon none "1+").after [.peek]
      let lx' := (Lexer.ofText lexicon' none "é1 +").after []
      (lx.Emits contents ∧ lx'.Emits contents) ∧
        (g.parse 12 0 lx).map Prod.fst =
          some (.error (.noStarter "end" none ⟨"<input>", "1+", 2, 0⟩)) ∧
        (g.parse 12 0 lx').map Prod.fst =
          some (.error (.noStarter "end" none ⟨"<input>", "é1 +", 5, 0⟩)) ∧
        ∀ depth, Option.Rel (SameFinds contents) (g.parse depth 0 lx) (g.parse depth 0 lx') := by
  let lexicon : Lexicon String :=
    ⟨"end", .alt (.group 1 (.literal ['1'])) (.group 2 (.literal ['+'])), [(1, "n"), (2, "+")]⟩
  let lexicon' : Lexicon String :=
    ⟨"end", .alt (.group 1 (.literal ['+'])) (.group 2 (.group 3 (.literal ['1']))),
      [(1, "+"), (2, "n")]⟩
  have hrules : Lexicon.ofRules? "end" [⟨"n", "1"⟩, ⟨"+", "[+]"⟩] = .ok lexicon := by cbv
  have hrules' : Lexicon.ofRules? "end" [⟨"+", "[+]"⟩, ⟨"n", "(1)"⟩] = .ok lexicon' := by cbv
  refine ⟨lexicon, lexicon', hrules, hrules', ?_⟩
  intro naming table g contents lx lx'
  have hg : g.IsNotated naming "end" := isNotated_grammar naming "end" table
  have hemits : lx.Emits contents :=
    ((Lexer.invariant_ofText lexicon none "1+").after [.peek]).emits_of_transcript
      [⟨"n", some "1", 0⟩, ⟨"+", some "+", 1⟩] (by cbv) (by cbv)
  have hemits' : lx'.Emits contents :=
    ((Lexer.invariant_ofText lexicon' none "é1 +").after []).emits_of_transcript
      [⟨"n", some "1", 2⟩, ⟨"+", some "+", 4⟩] (by cbv) (by cbv)
  have hsentinel : lexicon.sentinel = lexicon'.sentinel := rfl
  obtain ⟨hrel, -, -⟩ := parse_of_same_contents hg.blind hsentinel none none "1+" "é1 +" [.peek] []
    0 hemits hemits'
  refine ⟨⟨hemits, hemits'⟩, ?_, ?_, hrel⟩
  · dsimp only [g, table, lx, naming, lexicon]
    cbv
  · dsimp only [g, table, lx', naming, lexicon']
    cbv

end Grammar

end OperatorGrammar
