import Mathlib
import OperatorGrammar.Proofs.Lexer.Progress

/-!
# The matches ahead of a lexer

The matches that a lexer has still to deliver, one that was only looked at included. No operation
adds to them, each token besides the sentinel is one of them, and so is every match that belongs to
no rule.
-/

namespace OperatorGrammar.Lexer

variable {τ : Type}

/-- The matches that one scan after the other accepts, up to the end of the text. -/
def matchesAhead (lx : Lexer τ) : List Match :=
  match _h : lx.found? with
  | none => []
  | some found => found :: (lx.accept found).2.matchesAhead
termination_by lx.capacity
decreasing_by
  obtain ⟨hexhausted, hadmits⟩ := admits_of_found? _h
  exact hadmits.capacity_lt hexhausted

/-- How many matches a lexer has still to deliver. -/
def matchesLeft (lx : Lexer τ) : Nat :=
  (if lx.pending = true ∧ lx.exhausted = false then 1 else 0) + lx.taken.matchesAhead.length

theorem matchesAhead_of_found?_eq_none {lx : Lexer τ} (h : lx.found? = none) :
    lx.matchesAhead = [] := by
  unfold matchesAhead
  split
  case h_1 => rfl
  case h_2 found hfound => cases h.symm.trans hfound

theorem matchesAhead_of_found? {lx : Lexer τ} {found : Match} (h : lx.found? = some found) :
    lx.matchesAhead = found :: (lx.accept found).2.matchesAhead := by
  rw [matchesAhead]
  split
  case h_1 hfound => cases h.symm.trans hfound
  case h_2 found' hfound => rw [Option.some.inj (hfound.symm.trans h)]

theorem matchesAhead_of_exhausted {lx : Lexer τ} (h : lx.exhausted = true) :
    lx.matchesAhead = [] :=
  matchesAhead_of_found?_eq_none (by rw [found?, if_pos h])

theorem length_matchesAhead_le (lx : Lexer τ) : lx.matchesAhead.length ≤ lx.capacity := by
  fun_induction matchesAhead lx with
  | case1 lx => exact Nat.zero_le _
  | case2 lx found hfound ih =>
    obtain ⟨hexhausted, hadmits⟩ := admits_of_found? hfound
    exact Nat.lt_of_le_of_lt ih (hadmits.capacity_lt hexhausted)

theorem taken_of_pending_eq_false {lx : Lexer τ} (h : lx.pending = false) : lx.taken = lx := by
  rw [taken, ← h]

theorem matchesLeft_of_pending_eq_false {lx : Lexer τ} (h : lx.pending = false) :
    lx.matchesLeft = lx.matchesAhead.length := by
  rw [matchesLeft, if_neg (by simp [h]), taken_of_pending_eq_false h, Nat.zero_add]

theorem matchesLeft_ofText (lexicon : Lexicon τ) (name : Option String) (text : String) :
    (ofText lexicon name text).matchesLeft ≤ text.length + 1 := by
  calc
    (ofText lexicon name text).matchesLeft = (ofText lexicon name text).matchesAhead.length :=
      matchesLeft_of_pending_eq_false rfl
    _ ≤ (ofText lexicon name text).capacity := length_matchesAhead_le _
    _ = text.length + 1 := by
      rw [← String.length_toList]
      rfl

/-! ## What taking a token does to them -/

/-- A token that was put back is one more match, unless it stands for the end of the text. -/
theorem matchesLeft_putBack {lx : Lexer τ} (h : lx.pending = false) :
    lx.putBack.matchesLeft = lx.matchesLeft + if lx.exhausted then 0 else 1 := by
  have htaken : lx.putBack.taken = lx := taken_of_pending_eq_false h
  rw [matchesLeft_of_pending_eq_false h, matchesLeft, htaken, Nat.add_comm]
  cases hexhausted : lx.exhausted with
  | true => simp [putBack, hexhausted]
  | false => simp [putBack, hexhausted]

/-- Taking a token takes a match, or goes to the end of the text. -/
theorem matchesLeft_eq (lx : Lexer τ) :
    lx.matchesLeft = lx.advance.2.matchesLeft + if lx.advance.2.exhausted then 0 else 1 := by
  cases hpending : lx.pending with
  | true =>
    have hadvance : lx.advance.2 = lx.taken := by rw [advance, if_pos hpending, taken]
    have hback : lx = lx.taken.putBack := by rw [taken, putBack, ← hpending]
    rw [hadvance, ← matchesLeft_putBack rfl, ← hback]
  | false =>
    have hadvance : lx.advance = lx.scan := by rw [advance, if_neg (by simp [hpending])]
    rw [matchesLeft_of_pending_eq_false hpending, hadvance, scan_eq]
    cases hfound : lx.found? with
    | none =>
      have hfinish : lx.finish.pending = false := hpending
      dsimp only
      rw [matchesAhead_of_found?_eq_none hfound, matchesLeft_of_pending_eq_false hfinish,
        matchesAhead_of_exhausted rfl]
      rfl
    | some found =>
      obtain ⟨hexhausted, -⟩ := admits_of_found? hfound
      obtain ⟨current, haccept⟩ := lx.accept_snd found
      have hleft : (lx.accept found).2.matchesLeft = (lx.accept found).2.matchesAhead.length :=
        matchesLeft_of_pending_eq_false (by rw [haccept, hpending])
      rw [matchesAhead_of_found? hfound, hleft, List.length_cons, haccept]
      simp [hexhausted]

theorem matchesLeft_advance_le (lx : Lexer τ) : lx.advance.2.matchesLeft ≤ lx.matchesLeft := by
  rw [lx.matchesLeft_eq]
  exact Nat.le_add_right _ _

theorem Delivers.matchesLeft_putBack_eq {lx next : Lexer τ} {token : Token τ}
    (h : lx.Delivers token next) : next.putBack.matchesLeft = lx.matchesLeft := by
  rw [matchesLeft_putBack h.pending_eq, lx.matchesLeft_eq, h.advance_eq]

/-! ## Lexers with at most so many matches left -/

/-- A lexer for `text` with at most `bound` matches left. -/
structure Within (lexicon : Lexicon τ) (text : List Char) (bound : Nat) (lx : Lexer τ) : Prop where
  invariant : lx.Invariant lexicon text
  matchesLeft_le : lx.matchesLeft ≤ bound

theorem Invariant.within {lexicon : Lexicon τ} {text : List Char} {lx : Lexer τ}
    (h : lx.Invariant lexicon text) : lx.Within lexicon text lx.matchesLeft :=
  ⟨h, Nat.le_refl _⟩

namespace Within

variable {lexicon : Lexicon τ} {text : List Char} {bound : Nat} {lx next : Lexer τ}
  (h : lx.Within lexicon text bound)

include h

theorem mono {bound' : Nat} (hle : bound ≤ bound') : lx.Within lexicon text bound' :=
  ⟨h.invariant, h.matchesLeft_le.trans hle⟩

theorem of_advance {result : Except (Fault τ) τ} (hadvance : lx.advance = (result, next)) :
    next.Within lexicon text bound := by
  have hle := lx.matchesLeft_advance_le
  rw [hadvance] at hle
  exact ⟨h.invariant.of_advance hadvance, hle.trans h.matchesLeft_le⟩

theorem putBack {token : Token τ} (hdelivers : lx.Delivers token next) :
    next.putBack.Within lexicon text bound := by
  have hnext := h.invariant.of_advance hdelivers.advance_eq
  exact ⟨hnext.putBack (h.invariant.current_of_delivers hdelivers),
    hdelivers.matchesLeft_putBack_eq.trans_le h.matchesLeft_le⟩

/-- Every token besides the sentinel is a match. -/
theorem matchesLeft_lt {token : Token τ} (hdelivers : lx.Delivers token next)
    (hkind : token.kind ≠ lexicon.sentinel) : next.matchesLeft < bound := by
  have hnext := h.invariant.of_advance hdelivers.advance_eq
  have hexhausted : next.exhausted = false := by
    by_contra hyes
    -- the current token of an exhausted lexer is the sentinel
    have hcurrent := hnext.current_of_exhausted (by simpa using hyes)
    rw [h.invariant.current_of_delivers hdelivers] at hcurrent
    obtain rfl := Option.some.inj hcurrent
    exact hkind hnext.sentinel_eq
  calc
    next.matchesLeft < next.matchesLeft + 1 := Nat.lt_succ_self _
    _ = lx.matchesLeft := by simp [lx.matchesLeft_eq, hdelivers.advance_eq, hexhausted]
    _ ≤ bound := h.matchesLeft_le

end Within

section

variable [DecidableEq τ]

theorem matchesLeft_call_le (lx : Lexer τ) (call : Call τ) :
    (lx.call call).2.matchesLeft ≤ lx.matchesLeft := by
  rcases lx.call_snd_cases call with hcall | hcall | ⟨token, next, hdelivers, hcall⟩
  · rw [hcall]
  · rw [hcall]
    exact lx.matchesLeft_advance_le
  · rw [hcall, hdelivers.matchesLeft_putBack_eq]

theorem Within.call {lexicon : Lexicon τ} {text : List Char} {bound : Nat} {lx : Lexer τ}
    (h : lx.Within lexicon text bound) (call : Call τ) :
    (lx.call call).2.Within lexicon text bound :=
  ⟨h.invariant.call call, (lx.matchesLeft_call_le call).trans h.matchesLeft_le⟩

theorem matchesLeft_after_le (lx : Lexer τ) (calls : List (Call τ)) :
    (lx.after calls).matchesLeft ≤ lx.matchesLeft := by
  induction calls generalizing lx with
  | nil => exact Nat.le_refl _
  | cons call calls ih => exact (ih (lx.call call).2).trans (lx.matchesLeft_call_le call)

end

end OperatorGrammar.Lexer
