import Mathlib
import OperatorGrammar.Lexer
import OperatorGrammar.Proofs.Lexicon.Numbers

/-!
# Scanning as a sequence of attempts

A scan takes the first position at which some rule matches, and there the first rule that matches
on its own. Only an empty match where the last match ended is passed over, one character on.
-/

namespace OperatorGrammar.Lexer

variable {τ : Type}

/-- The lexer behind the token that a rule found. -/
def deliver (lx : Lexer τ) (kind : τ) (extent : Extent) : Lexer τ :=
  { lx with
    cursor := extent.last
    lastMatch := some extent.last.offset
    current := some (tokenOf kind extent) }

theorem seek_eq (lx : Lexer τ) :
    lx.seek =
      match lx.lexicon.pattern.search? lx.cursor with
      | none => (.ok lx.sentinel, lx.finish)
      | some found =>
        if lx.stalls found then
          match lx.cursor.advance? with
          | none => (.ok lx.sentinel, lx.finish)
          | some (_, next) => seek { lx with cursor := next }
        else lx.accept found := by
  rw [seek]
  cases lx.lexicon.pattern.search? lx.cursor with
  | none => rfl
  | some found =>
    dsimp only
    congr 1
    unfold Cursor.advance?
    split <;> simp_all

theorem accept_of_identify? {lx : Lexer τ} {found : Match} {kind : τ} {extent : Extent}
    (h : lx.lexicon.identify? found = some (kind, extent)) :
    lx.accept found = (.ok kind,
      { lx with
        cursor := found.extent.last
        lastMatch := some found.extent.last.offset
        current := some (tokenOf kind extent) }) := by
  rw [accept, h]

/-- A token's literal is the slice of the text between the ends of its match. -/
theorem tokenOf_eq (kind : τ) {extent : Extent} (h : extent.last ∈ extent.first.positions) :
    tokenOf kind extent =
      { kind := kind
        literal := if extent.text = [] then none else some (String.ofList extent.text)
        offset := extent.first.offset } := by
  have hoffset : extent.last.offset = extent.first.offset + width extent.text :=
    Cursor.offset_eq_add_width_upTo h
  by_cases htext : extent.text = []
  · have hle : ¬ extent.first.offset < extent.last.offset := by
      rw [htext, width_nil] at hoffset
      omega
    rw [tokenOf, if_neg hle, if_pos htext]
  · have hlt : extent.first.offset < extent.last.offset := by
      have hpos : 0 < width extent.text := width_pos htext
      omega
    rw [tokenOf, if_pos hlt, if_neg htext]

section

variable {lx : Lexer τ} {patterns : List (τ × Pattern)}

theorem seek_of_forall_eq_none (h : lx.lexicon.Separates patterns)
    (hnone : lx.cursor.positions.findSome? (Lexicon.attempt? patterns) = none) :
    lx.seek = (.ok lx.sentinel, lx.finish) := by
  have hsearch := h.search? lx.cursor
  rw [hnone] at hsearch
  dsimp only at hsearch
  rw [seek_eq, hsearch]

/-- What the first attempt that succeeds makes of a lexer. -/
theorem seek_of_findSome? (h : lx.lexicon.Separates patterns) {kind : τ} {extent : Extent}
    (hsome : lx.cursor.positions.findSome? (Lexicon.attempt? patterns) = some (kind, extent)) :
    lx.seek =
      if extent.first.offset = extent.last.offset ∧ lx.lastMatch = some extent.last.offset then
        match lx.cursor.advance? with
        | none => (.ok lx.sentinel, lx.finish)
        | some (_, next) => seek { lx with cursor := next }
      else (.ok kind, lx.deliver kind extent) := by
  have hsearch := h.search? lx.cursor
  rw [hsome] at hsearch
  obtain ⟨found, hfound, rfl, hidentify⟩ := hsearch
  rw [seek_eq, hfound]
  simp only [stalls, Bool.and_eq_true, beq_iff_eq, accept_of_identify? hidentify, deliver]

end

end OperatorGrammar.Lexer
