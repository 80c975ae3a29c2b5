import OperatorGrammar.Proofs.Parse.Dispatches

/-!
# Parses with an end

A parse has an end if every strategy of the grammar ends wherever the expressions that it may ask for
do, and none is given for the sentinel: an expression inside another one has fewer matches left.
-/

namespace OperatorGrammar.Grammar

variable {τ π ε : Type} [DecidableEq τ]

/-- Expressions have an end wherever there are at most so many matches left. -/
def ParsesWithin (g : Grammar τ π ε) (lexicon : Lexicon τ) (text : List Char) (bound : Nat) : Prop :=
  ∀ min lx, lx.Within lexicon text bound → ∃ parsed, g.parseLimit min lx = some parsed

/-- A strategy that ends, with no more matches left, wherever all expressions ahead of it do. -/
def Settles (g : Grammar τ π ε) (lexicon : Lexicon τ) (text : List Char) (strategy : Strategy τ π ε) :
    Prop :=
  ∀ bound, g.ParsesWithin lexicon text bound → ∀ lx, lx.Within lexicon text bound →
    ∃ result last, g.actLimit strategy [] lx = some (result, last) ∧ last.Within lexicon text bound

/-- A grammar with such strategies only, and with none for the sentinel. -/
structure IsSettled (g : Grammar τ π ε) (lexicon : Lexicon τ) (text : List Char) : Prop where
  idle : g.IsIdle lexicon.sentinel
  starter : ∀ token strategy, g.starter token = some strategy → g.Settles lexicon text strategy
  follower : ∀ token strategy left, g.follower token = some strategy →
    g.Settles lexicon text (strategy left)

variable {g : Grammar τ π ε} {lexicon : Lexicon τ} {text : List Char} {bound : Nat}

theorem ParsesWithin.mono {left : Nat} (h : g.ParsesWithin lexicon text bound)
    (hle : left ≤ bound) : g.ParsesWithin lexicon text left :=
  fun min lx hlx ↦ h min lx (hlx.mono hle)

namespace IsSettled

variable (hg : g.IsSettled lexicon text)

include hg

/-- Every token that continues an expression takes a match. -/
theorem climbLimit_ends (hparses : g.ParsesWithin lexicon text bound) (min : π) (left : ε)
    {lx : Lexer τ} (h : lx.Within lexicon text bound) :
    ∃ parsed, g.climbLimit min left lx = some parsed := by
  induction bound using Nat.strong_induction_on generalizing left lx with
  | _ bound ih =>
    rcases hadvance : lx.advance with ⟨fault | kind, next⟩
    · exact ⟨_, g.climbLimit_of_error min left hadvance⟩
    · obtain ⟨token, rfl, hdelivers⟩ := Lexer.delivers_of_advance hadvance
      rw [g.climbLimit_of_delivers min left hdelivers]
      split
      case isFalse => exact ⟨_, rfl⟩
      case isTrue =>
        cases hfollower : g.follower token.kind with
        | none => exact ⟨_, rfl⟩
        | some strategy =>
          have hlt := h.matchesLeft_lt hdelivers (hg.idle.ne_of_follower hfollower)
          have hfewer := hparses.mono hlt.le
          obtain ⟨result, last, hact, hlast⟩ := hg.follower _ strategy left hfollower _ hfewer next
            (h.of_advance hadvance).invariant.within
          dsimp only
          rw [hact]
          cases result with
          | error fault => exact ⟨_, rfl⟩
          | ok value => exact ih _ hlt hfewer value hlast

/-- Every token that starts an expression takes a match. -/
theorem parsesWithin (bound : Nat) : g.ParsesWithin lexicon text bound := by
  induction bound using Nat.strong_induction_on with
  | _ bound ih =>
    intro min lx h
    rcases hadvance : lx.advance with ⟨fault | kind, next⟩
    · exact ⟨_, g.parseLimit_of_error min hadvance⟩
    · obtain ⟨token, rfl, hdelivers⟩ := Lexer.delivers_of_advance hadvance
      rw [g.parseLimit_of_delivers min hdelivers]
      cases hstarter : g.starter token.kind with
      | none => exact ⟨_, rfl⟩
      | some strategy =>
        have hfewer := ih _ (h.matchesLeft_lt hdelivers (hg.idle.ne_of_starter hstarter))
        obtain ⟨result, last, hact, hlast⟩ := hg.starter _ strategy hstarter _ hfewer next
          (h.of_advance hadvance).invariant.within
        dsimp only
        rw [hact]
        cases result with
        | error fault => exact ⟨_, rfl⟩
        | ok value => exact hg.climbLimit_ends hfewer min value hlast

end IsSettled

end OperatorGrammar.Grammar
