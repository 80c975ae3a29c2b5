import Mathlib
import OperatorGrammar.Proofs.Lexer.End

/-!
# What tokens contain

The kinds and the literals of the tokens that a lexer delivers, one after the other and without end,
since all tokens behind the end of the text are the sentinel. They say nothing of where the tokens
stand.
-/

namespace OperatorGrammar

variable {τ : Type}

/-- All that a token tells besides its offset. -/
def Token.content (token : Token τ) : τ × Option String := (token.kind, token.literal)

namespace Lexer

variable {lx next : Lexer τ} {contents : Stream' (τ × Option String)}

/-- The lexer delivers tokens with these contents, without a fault. -/
def Emits (lx : Lexer τ) (contents : Stream' (τ × Option String)) : Prop :=
  ∀ n, ∃ tokens last, lx.Takes tokens last ∧ tokens.map Token.content = contents.take n

theorem emits_of_delivers {token : Token τ} (h : lx.Delivers token next)
    (hnext : next.Emits contents) : lx.Emits (contents.cons token.content) := by
  intro n
  cases n with
  | zero => exact ⟨[], lx, .nil lx, rfl⟩
  | succ n =>
    obtain ⟨tokens, last, htakes, hcontents⟩ := hnext n
    refine ⟨token :: tokens, last, .cons h htakes, ?_⟩
    rw [List.map_cons, hcontents, Stream'.take_succ_cons]

theorem Emits.delivers (h : lx.Emits contents) :
    ∃ token next, lx.Delivers token next ∧ token.content = contents.head ∧
      next.Emits contents.tail := by
  obtain ⟨_, _, _ | ⟨hdelivers, _⟩, hfirst⟩ := h 1
  · cases hfirst
  · refine ⟨_, _, hdelivers, (List.cons.inj hfirst).1, fun n ↦ ?_⟩
    obtain ⟨_, last, _ | ⟨hdelivers', htakes⟩, hcontents⟩ := h (n + 1)
    · cases hcontents
    · obtain ⟨rfl, rfl⟩ := hdelivers.unique hdelivers'
      exact ⟨_, last, htakes, (List.cons.inj hcontents).2⟩

/-- What a lexer delivers is determined by what taking a token does. -/
theorem Emits.congr {lx' : Lexer τ} (h : lx.Emits contents) (hadvance : lx'.advance = lx.advance) :
    lx'.Emits contents := by
  obtain ⟨token, next, hdelivers, hhead, hnext⟩ := h.delivers
  rw [← Stream'.eta contents, ← hhead]
  exact emits_of_delivers (hdelivers.congr hadvance) hnext

theorem Invariant.emits_of_exhausted {lexicon : Lexicon τ} {text : List Char}
    (h : lx.Invariant lexicon text) (hexhausted : lx.exhausted = true) :
    lx.Emits (Stream'.const (lexicon.sentinel, none)) := by
  intro n
  induction n generalizing lx with
  | zero => exact ⟨[], lx, .nil lx, rfl⟩
  | succ n ih =>
    obtain ⟨next, hdelivers⟩ := h.delivers_end hexhausted
    have hnext : next.exhausted = true := by
      have hadvance := exhausted_advance hexhausted
      rwa [hdelivers.advance_eq] at hadvance
    obtain ⟨tokens, last, htakes, hcontents⟩ := ih (h.of_advance hdelivers.advance_eq) hnext
    refine ⟨lx.endToken :: tokens, last, .cons hdelivers htakes, ?_⟩
    have hend : lx.endToken.content = (lexicon.sentinel, none) := Prod.ext h.sentinel_eq rfl
    rw [List.map_cons, hcontents, hend, Stream'.take_succ]
    rfl

/-- A lexer that reaches the end of the text with its next token is there already. -/
theorem Invariant.emits_of_exhausted_advance {lexicon : Lexicon τ} {text : List Char}
    (h : lx.Invariant lexicon text) (hexhausted : lx.advance.2.exhausted = true) :
    lx.Emits (Stream'.const (lexicon.sentinel, none)) := by
  rcases lx.advance_cases with ⟨-, hadvance⟩ | ⟨hpending, hadvance⟩ |
    ⟨-, hmore, found, -, hadvance⟩
  · rw [hadvance] at hexhausted
    exact h.emits_of_exhausted hexhausted
  · have hdelivers : lx.Delivers lx.endToken lx.finish := ⟨hadvance, rfl, hpending⟩
    have hend : lx.endToken.content = (lexicon.sentinel, none) := Prod.ext h.sentinel_eq rfl
    rw [Stream'.const_eq, ← hend]
    exact emits_of_delivers hdelivers (hend ▸ h.finish.emits_of_exhausted rfl)
  · obtain ⟨current, hcurrent⟩ := lx.accept_snd found
    rw [hadvance, hcurrent, hmore] at hexhausted
    cases hexhausted

variable [DecidableEq τ]

/-- Tokens that are taken one after the other up to the end of the text are followed by the sentinel
for good. -/
theorem Invariant.emits_of_transcript {lexicon : Lexicon τ} {text : List Char}
    (h : lx.Invariant lexicon text) (tokens : List (Token τ))
    (htranscript : lx.transcript (tokens.map fun _ ↦ .next) =
      tokens.map fun token ↦ (.next, .token (some token)))
    (hend : (lx.after (tokens.map fun _ ↦ .next)).advance.2.exhausted = true) :
    lx.Emits (tokens.map Token.content ++ₛ Stream'.const (lexicon.sentinel, none)) := by
  induction tokens generalizing lx with
  | nil => exact h.emits_of_exhausted_advance hend
  | cons token tokens ih =>
    obtain ⟨hreply, htranscript⟩ := List.cons.inj htranscript
    have hnext : (lx.call .next).1 = .token (some token) := congrArg Prod.snd hreply
    have hdelivers : lx.Delivers token (lx.call .next).2 := by
      rcases hadvance : lx.advance with ⟨fault | kind, next⟩
      · simp [Lexer.call, Lexer.next, hadvance, Reply.ofToken?] at hnext
      · obtain ⟨found, rfl, hdelivers⟩ := delivers_of_advance hadvance
        have hlast : (lx.call .next).2 = next := lx.next_snd.trans (congrArg Prod.snd hadvance)
        simp only [Lexer.call, Lexer.next, hadvance, hdelivers.currentOrEnd_eq] at hnext
        split at hnext
        · cases hnext
        · cases hnext
          rwa [hlast]
    exact emits_of_delivers hdelivers (ih (h.call .next) htranscript hend)

end Lexer

end OperatorGrammar
