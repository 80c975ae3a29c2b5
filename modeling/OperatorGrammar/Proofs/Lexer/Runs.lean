import Mathlib
import OperatorGrammar.Proofs.Lexer.Tokens

/-!
# Runs of a lexer

Several operations in a row, what they reply and what they leave. Whatever an operation is, it
leaves the lexer as it was, takes one token, or takes one token and puts it back.
-/

namespace OperatorGrammar.Lexer

variable {τ : Type} [DecidableEq τ]

/-- The lexer after some operations. -/
def after : Lexer τ → List (Call τ) → Lexer τ
  | lx, [] => lx
  | lx, call :: calls => (lx.call call).2.after calls

/-- Some operations, each with its reply. -/
def transcript : Lexer τ → List (Call τ) → List (Call τ × Reply τ)
  | _, [] => []
  | lx, call :: calls => (call, (lx.call call).1) :: (lx.call call).2.transcript calls

theorem after_append (lx : Lexer τ) (first second : List (Call τ)) :
    lx.after (first ++ second) = (lx.after first).after second := by
  induction first generalizing lx with
  | nil => rfl
  | cons call first ih => exact ih _

/-! ## One operation -/

theorem call_advance {lx next : Lexer τ} {result : Except (Fault τ) τ}
    (h : lx.advance = (result, next)) : lx.call .advance = (.ofKind result, next) := by
  rw [call, h]

theorem call_peek {lx next : Lexer τ} {result : Except (Fault τ) τ}
    (h : lx.peek = (result, next)) : lx.call .peek = (.ofKind result, next) := by
  rw [call, h]

/-- Only one token is taken, whether it is the expected one or not. -/
theorem expect_snd (lx : Lexer τ) (expected : τ) : (lx.expect expected).2 = lx.advance.2 := by
  rw [expect]
  rcases lx.advance with ⟨fault | kind, next⟩
  · rfl
  · dsimp only
    split <;> rfl

theorem next_snd (lx : Lexer τ) : lx.next.2 = lx.advance.2 := by
  rw [next]
  rcases lx.advance with ⟨fault | kind, next⟩
  · rfl
  · dsimp only
    split <;> rfl

/-- All that an operation can leave. -/
theorem call_snd_cases (lx : Lexer τ) (call : Call τ) :
    (lx.call call).2 = lx ∨ (lx.call call).2 = lx.advance.2 ∨
      ∃ token next, lx.Delivers token next ∧ (lx.call call).2 = next.putBack := by
  cases call with
  | advance => exact .inr (.inl rfl)
  | peek =>
    rcases hadvance : lx.advance with ⟨fault | kind, next⟩
    · exact .inr (.inl (congrArg Prod.snd (peek_of_advance_error hadvance)))
    · obtain ⟨token, -, hdelivers⟩ := delivers_of_advance hadvance
      exact .inr (.inr ⟨token, next, hdelivers, congrArg Prod.snd hdelivers.peek_eq⟩)
  | expect expected => exact .inr (.inl (lx.expect_snd expected))
  | next => exact .inr (.inl lx.next_snd)
  | current => exact .inl rfl

/-- An operation fails if taking a token does, or if the token is not the expected one. -/
theorem fault_cases {lx : Lexer τ} {call : Call τ} {fault : Fault τ}
    (h : (lx.call call).1 = .fault fault) :
    (∃ next, lx.advance = (.error fault, next)) ∨
      ∃ expected token next, call = .expect expected ∧ lx.Delivers token next ∧
        token.kind ≠ expected ∧
        fault = .mismatch expected token.kind token.literal next.currentPlace := by
  rcases hadvance : lx.advance with ⟨fault' | kind, next⟩
  · left
    suffices hsame : fault' = fault by exact ⟨next, by rw [hsame]⟩
    cases call with
    | advance => simpa [Lexer.call, hadvance, Reply.ofKind] using h
    | peek => simpa [Lexer.call, peek_of_advance_error hadvance, Reply.ofKind] using h
    | expect expected => simpa [Lexer.call, expect, hadvance, Reply.ofToken] using h
    | next => simpa [Lexer.call, Lexer.next, hadvance, Reply.ofToken?] using h
    | current => cases h
  · right
    obtain ⟨token, rfl, hdelivers⟩ := delivers_of_advance hadvance
    cases call with
    | advance => simp [Lexer.call, hadvance, Reply.ofKind] at h
    | peek => simp [Lexer.call, hdelivers.peek_eq, Reply.ofKind] at h
    | expect expected =>
      rw [Lexer.call, expect_of_delivers hdelivers] at h
      split at h
      case isTrue => cases h
      case isFalse hne =>
        exact ⟨expected, token, next, rfl, hdelivers, hne, (Reply.fault.inj h).symm⟩
    | next =>
      simp only [Lexer.call, Lexer.next, hadvance] at h
      split at h <;> cases h
    | current => cases h

/-- What every operation keeps, a run keeps. -/
theorem after_induction {P : Lexer τ → Prop} (hcall : ∀ lx call, P lx → P (lx.call call).2)
    {lx : Lexer τ} (h : P lx) (calls : List (Call τ)) : P (lx.after calls) := by
  induction calls generalizing lx with
  | nil => exact h
  | cons call calls ih => exact ih (hcall lx call h)

end OperatorGrammar.Lexer
