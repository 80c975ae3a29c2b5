import OperatorGrammar.Proofs.Lexer.Unread
import OperatorGrammar.Proofs.Parse.Record
import OperatorGrammar.Proofs.Parselet.Notated

/-!
# What a parse leaves unread

A parse takes tokens one after the other, and of the first token that it does not use it takes no
more than a look. Whoever reads on reads the rest of the tokens, after a fault too.
-/

namespace OperatorGrammar.Grammar

variable {τ π ε : Type} [DecidableEq τ] {g : Grammar τ π ε}

/-- Before it takes a token a parse does nothing. -/
theorem exists_events_of_parseRecorded (g : Grammar τ π ε) (depth : Nat) (min : π) (lx : Lexer τ) :
    ∃ calls, (g.parseRecorded (depth + 1) min lx).events.map Event.call = .advance :: calls := by
  rw [parseRecorded]
  rcases lx.advance with ⟨fault | token, next⟩
  · exact ⟨_, rfl⟩
  · dsimp only
    cases g.starter token <;> exact ⟨_, rfl⟩

/-- An expression is continued up to a token that does not bind. -/
theorem delivers_of_climb_eq_ok {depth : Nat} {min : π} {left value : ε} {lx last : Lexer τ}
    (h : g.climb depth min left lx = some (.ok value, last)) :
    ∃ token next, last = next.putBack ∧ last.Delivers token next ∧
      g.binds min token.kind = false := by
  induction depth generalizing left lx with
  | zero =>
    rw [climb] at h
    cases h
  | succ depth ih =>
    rw [climb_succ] at h
    rcases hadvance : lx.advance with ⟨fault | kind, next⟩
    · rw [Lexer.peek_of_advance_error hadvance] at h
      cases h
    · obtain ⟨token, rfl, hdelivers⟩ := Lexer.delivers_of_advance hadvance
      have hback := Lexer.delivers_putBack hdelivers
      simp only [hdelivers.peek_eq, hback.advance_eq] at h
      split at h
      case isTrue =>
        cases hfollower : g.follower token.kind with
        | none =>
          rw [hfollower] at h
          cases h
        | some strategy =>
          rw [hfollower] at h
          rcases andThen_eq_some_iff.1 h with ⟨_, _, -, hfault⟩ | ⟨_, _, -, hclimb⟩
          · cases hfault
          · exact ih hclimb
      case isFalse hbinds =>
        obtain ⟨-, rfl⟩ := Prod.mk.inj (Option.some.inj h)
        exact ⟨token, next, rfl, hback, by simpa using hbinds⟩

theorem delivers_of_parse_eq_ok {depth : Nat} {min : π} {value : ε} {lx last : Lexer τ}
    (h : g.parse depth min lx = some (.ok value, last)) :
    ∃ token next, last = next.putBack ∧ last.Delivers token next ∧
      g.binds min token.kind = false := by
  cases depth with
  | zero =>
    rw [parse] at h
    cases h
  | succ depth =>
    rw [parse_succ] at h
    split at h
    case h_1 => cases h
    case h_2 =>
      split at h
      case h_1 => cases h
      case h_2 =>
        rcases andThen_eq_some_iff.1 h with ⟨_, _, -, hfault⟩ | ⟨_, _, -, hclimb⟩
        · cases hfault
        · exact delivers_of_climb_eq_ok hclimb

/-- A parse leaves the lexer where taking one or more tokens leaves it, faults of the lexer counted,
but for a look at the next token. It takes these tokens in order, and whatever reads on finds what
it would find there. A parse that succeeds has looked at the next token, which does not bind. -/
theorem parse_leaves_unread (g : Grammar τ π ε) (lexicon : Lexicon τ) (name : Option String)
    (text : String) (before : List (Lexer.Call τ)) (min : π) {depth : Nat}
    {result : Except (Fault τ) ε} {last : Lexer τ} :
    let lx := (Lexer.ofText lexicon name text).after before
    g.parse depth min lx = some (result, last) →
      g.parseExpression min lx = some (result, last) ∧
      ∃ n, 1 ≤ n ∧
        let unread := lx.after (Lexer.advances n)
        (last = unread ∨ last = (unread.call .peek).2 ∧ last.pending = true) ∧
        (∀ value, result = .ok value →
          last = (unread.call .peek).2 ∧ last.pending = true ∧
            ∃ token, last.current = some token ∧ (unread.call .peek).1 = .kind token.kind ∧
              g.binds min token.kind = false) ∧
        lx.consumed ((g.parseRecorded depth min lx).events.map Event.call) =
          lx.consumed (Lexer.advances n) ∧
        (∀ call, call.reads = true → last.call call = unread.call call) ∧
        ∀ depth' level, g.parse depth' level last = g.parse depth' level unread := by
  intro lx hparse
  refine ⟨g.parseExpression_of_parse min hparse, ?_⟩
  obtain ⟨depth, rfl⟩ : ∃ shallower, depth = shallower + 1 := by
    cases depth with
    | zero =>
      rw [parse] at hparse
      cases hparse
    | succ shallower => exact ⟨shallower, rfl⟩
  have hinvariant := (Lexer.invariant_ofText lexicon name text).after before
  have hfound : (g.parseRecorded (depth + 1) min lx).found = some (result, last) :=
    ((g.found_recorded (depth + 1)).1 min lx).trans hparse
  have hlast : last = lx.after ((g.parseRecorded (depth + 1) min lx).events.map Event.call) :=
    ((g.follows_recorded (depth + 1)).1 min lx).last_eq result last hfound
  obtain ⟨calls, hcalls⟩ := g.exists_events_of_parseRecorded depth min lx
  rw [hcalls] at hlast ⊢
  obtain ⟨n, hn, hstands, hconsumed⟩ := lx.exists_advances calls
  rw [← hlast] at hstands
  refine ⟨n, hn, hstands.eq_or_eq_peek, ?ok, hconsumed, fun call ↦ hstands.call_eq,
    fun depth' level ↦ g.parse_congr level hstands.advance_eq depth'⟩
  case ok =>
    rintro value rfl
    obtain ⟨token, next, hback, hdelivers, hbinds⟩ := delivers_of_parse_eq_ok hparse
    have hpeek : (lx.after (Lexer.advances n)).peek = (.ok token.kind, last) := by
      rw [← hstands.peek_eq, hdelivers.peek_eq, ← hback]
    have hcurrent : last.current = some token := by
      have htoken := hinvariant.after (.advance :: calls) |>.current_of_delivers (hlast ▸ hdelivers)
      rwa [hback]
    refine ⟨congrArg Prod.snd hpeek.symm, ?_, token, hcurrent, ?_, hbinds⟩
    · rw [hback]
      rfl
    · rw [Lexer.call, hpeek]
      rfl

/-- A sum ends at the separator, which is not taken. To parse on from there fails, and the separator
is gone then. -/
theorem parse_leaves_unread_at_separator :
    ∃ lexicon, Lexicon.ofRules? "end" [⟨"n", "é"⟩, ⟨"+", "[+]"⟩, ⟨";", ";"⟩] = .ok lexicon ∧
      let naming : Naming String := ⟨id, id⟩
      let table : KindTable String Int :=
        { precedence := fun token ↦ [("+", 1)].lookup token
          order := compare
          starter := fun token ↦ [("n", .leaf)].lookup token
          follower := fun token ↦ [("+", .binary 1)].lookup token }
      let g := table.grammar naming "end"
      let lx := (Lexer.ofText lexicon none "é + é; é").after [.peek]
      ∃ value last n fault last' m,
        g.parseExpression 0 lx = some (.ok value, last) ∧
        last = ((lx.after (Lexer.advances n)).call .peek).2 ∧
        last.call (.expect ";") = (lx.after (Lexer.advances n)).call (.expect ";") ∧
        g.parseExpression 0 (lx.after [.advance, .advance, .advance]) =
          some (.error fault, last') ∧
        1 ≤ m ∧
        last'.call .advance =
          ((lx.after [.advance, .advance, .advance]).after (Lexer.advances m)).call .advance := by
  let lexicon : Lexicon String :=
    ⟨"end", .alt (.group 1 (.literal ['é']))
      (.alt (.group 2 (.literal ['+'])) (.group 3 (.literal [';']))),
      [(1, "n"), (2, "+"), (3, ";")]⟩
  have hrules : Lexicon.ofRules? "end" [⟨"n", "é"⟩, ⟨"+", "[+]"⟩, ⟨";", ";"⟩] = .ok lexicon := by
    cbv
  refine ⟨lexicon, hrules, ?_⟩
  intro naming table g lx
  have hsum : (g.parse 12 0 lx).map Prod.fst = some (.ok "(+ [n é] [n é])") := by
    dsimp only [g, table, lx, naming, lexicon]
    cbv
  have hrest : (g.parse 12 0 (lx.after [.advance, .advance, .advance])).map Prod.fst =
      some (.error (.noStarter ";" (some ";") ⟨"<input>", "é + é; é", 7, 1⟩)) := by
    dsimp only [g, table, lx, naming, lexicon]
    cbv
  obtain ⟨⟨_, last⟩, hlast, rfl⟩ := Option.map_eq_some_iff.1 hsum
  obtain ⟨⟨_, last'⟩, hlast', rfl⟩ := Option.map_eq_some_iff.1 hrest
  obtain ⟨hparse, n, -, -, hok, -, hcalls, -⟩ :=
    g.parse_leaves_unread lexicon none "é + é; é" [.peek] 0 hlast
  obtain ⟨hparse', m, hm, -, -, -, hcalls', -⟩ :=
    g.parse_leaves_unread lexicon none "é + é; é" [.peek, .advance, .advance, .advance] 0 hlast'
  exact ⟨_, last, n, _, last', m, hparse, (hok _ rfl).1, hcalls _ rfl, hparse', hm, hcalls' _ rfl⟩

end OperatorGrammar.Grammar
