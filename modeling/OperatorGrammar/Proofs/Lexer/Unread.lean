import Mathlib
import OperatorGrammar.Proofs.Lexer.Places
import OperatorGrammar.Proofs.Lexer.Progress

/-!
# What a run leaves unread

Whatever operations a run is made of, it comes down to taking some tokens or faults one after the
other: it leaves the lexer where that leaves it, but for the next token, which may have been looked
at. It consumes the same tokens, and all that reads on finds the same ones.
-/

namespace OperatorGrammar.Lexer

variable {τ : Type}

/-- The lexer is `mid`, or what `mid` becomes when its next token is looked at. -/
inductive StandsAt (mid : Lexer τ) : Lexer τ → Prop where
  | taken : StandsAt mid mid
  | lookedAhead {token : Token τ} {next : Lexer τ} : mid.Delivers token next →
      StandsAt mid next.putBack

theorem StandsAt.advance_eq {mid lx : Lexer τ} (h : mid.StandsAt lx) : lx.advance = mid.advance := by
  cases h with
  | taken => rfl
  | lookedAhead hdelivers => exact hdelivers.advance_putBack

theorem StandsAt.peek_eq {mid lx : Lexer τ} (h : mid.StandsAt lx) : lx.peek = mid.peek := by
  cases h with
  | taken => rfl
  | lookedAhead hdelivers => rw [(delivers_putBack hdelivers).peek_eq, hdelivers.peek_eq]

/-- Takes a token, or meets a fault, so many times. -/
def advances (n : Nat) : List (Call τ) := List.replicate n .advance

theorem advances_add (n m : Nat) : (advances (n + m) : List (Call τ)) = advances n ++ advances m :=
  List.replicate_add n m Call.advance

theorem consumes?_of_takes (lx : Lexer τ) {call : Call τ} (h : call.takes = true) :
    lx.consumes? call = lx.consumes? .advance := by
  rw [consumes?, consumes?, h]
  rfl

theorem consumes?_of_not_takes (lx : Lexer τ) {call : Call τ} (h : call.takes = false) :
    lx.consumes? call = none := by
  rw [consumes?, h]
  rcases lx.advance with ⟨fault | kind, next⟩ <;> rfl

variable [DecidableEq τ]

theorem StandsAt.call_eq {mid lx : Lexer τ} (h : mid.StandsAt lx) {call : Call τ}
    (hreads : call.reads = true) : lx.call call = mid.call call := by
  cases call with
  | peek => rw [Lexer.call, Lexer.call, h.peek_eq]
  | current => cases hreads
  | _ => exact call_congr h.advance_eq rfl

/-- A lexer whose next token was looked at is where a successful look leaves it. -/
theorem StandsAt.eq_or_eq_peek {mid lx : Lexer τ} (h : mid.StandsAt lx) :
    lx = mid ∨ lx = (mid.call .peek).2 ∧ lx.pending = true := by
  cases h with
  | taken => exact .inl rfl
  | lookedAhead hdelivers =>
    refine .inr ⟨?_, rfl⟩
    rw [Lexer.call, hdelivers.peek_eq]

theorem consumed_append (lx : Lexer τ) (first second : List (Call τ)) :
    lx.consumed (first ++ second) = lx.consumed first ++ (lx.after first).consumed second := by
  induction first generalizing lx with
  | nil => rfl
  | cons call first ih =>
    rw [List.cons_append, consumed, ih, consumed, List.append_assoc]
    rfl

theorem call_snd_of_takes (lx : Lexer τ) {call : Call τ} (h : call.takes = true) :
    (lx.call call).2 = lx.advance.2 := by
  cases call with
  | advance => rfl
  | expect expected => exact lx.expect_snd expected
  | next => exact lx.next_snd
  | peek => cases h
  | current => cases h

/-! ## Runs of advances -/

theorem consumed_advances_one (lx : Lexer τ) :
    lx.consumed (advances 1) = (lx.consumes? .advance).toList :=
  List.append_nil _

/-- One operation takes one token or fault, or none. -/
theorem standsAt_call (lx : Lexer τ) (call : Call τ) :
    ∃ n, (lx.after (advances n)).StandsAt (lx.call call).2 ∧
      (lx.consumes? call).toList = lx.consumed (advances n) := by
  cases htakes : call.takes with
  | true =>
    refine ⟨1, ?_, ?_⟩
    · rw [lx.call_snd_of_takes htakes]
      exact .taken
    · rw [consumed_advances_one, lx.consumes?_of_takes htakes]
  | false =>
    rw [lx.consumes?_of_not_takes htakes]
    cases call with
    | current => exact ⟨0, .taken, rfl⟩
    | peek =>
      rcases hadvance : lx.advance with ⟨fault | kind, next⟩
      -- a look that fails moves the lexer as taking a token would
      · refine ⟨1, ?_, ?_⟩
        · rw [Lexer.call, peek_of_advance_error hadvance, ← hadvance]
          exact .taken
        · rw [consumed_advances_one, consumes?, hadvance]
      · obtain ⟨token, -, hdelivers⟩ := delivers_of_advance hadvance
        refine ⟨0, ?_, rfl⟩
        rw [Lexer.call, hdelivers.peek_eq]
        exact .lookedAhead hdelivers
    | _ => cases htakes

theorem StandsAt.call {mid lx : Lexer τ} (h : mid.StandsAt lx) (call : Call τ) :
    ∃ n, (mid.after (advances n)).StandsAt (lx.call call).2 ∧
      (lx.consumes? call).toList = mid.consumed (advances n) := by
  cases hreads : call.reads with
  | true =>
    have hconsumes : lx.consumes? call = mid.consumes? call := by
      rw [consumes?, consumes?, h.advance_eq]
    rw [h.call_eq hreads, hconsumes]
    exact mid.standsAt_call call
  | false =>
    cases call with
    | current => exact ⟨0, h, by rw [lx.consumes?_of_not_takes rfl]; rfl⟩
    | _ => cases hreads

/-- What one operation comes down to, a run comes down to. -/
theorem StandsAt.after {mid lx : Lexer τ} (h : mid.StandsAt lx) (calls : List (Call τ)) :
    ∃ n, (mid.after (advances n)).StandsAt (lx.after calls) ∧
      lx.consumed calls = mid.consumed (advances n) := by
  induction calls generalizing mid lx with
  | nil => exact ⟨0, h, rfl⟩
  | cons call calls ih =>
    obtain ⟨n, hcall, hconsumes⟩ := h.call call
    obtain ⟨m, hcalls, hconsumed⟩ := ih hcall
    refine ⟨n + m, ?_, ?_⟩
    · rwa [advances_add, after_append]
    · rw [consumed, hconsumes, hconsumed, advances_add, consumed_append]

/-- A run that takes a token first takes one or more. -/
theorem exists_advances (lx : Lexer τ) (calls : List (Call τ)) :
    ∃ n, 1 ≤ n ∧ (lx.after (advances n)).StandsAt (lx.after (.advance :: calls)) ∧
      lx.consumed (.advance :: calls) = lx.consumed (advances n) := by
  obtain ⟨n, hstands, hconsumed⟩ := (StandsAt.taken : lx.advance.2.StandsAt _).after calls
  refine ⟨n + 1, Nat.le_add_left 1 n, hstands, ?_⟩
  exact congrArg ((lx.consumes? .advance).toList ++ ·) hconsumed

end OperatorGrammar.Lexer
