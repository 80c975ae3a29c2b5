import Mathlib
import OperatorGrammar.Proofs.Lexer.Lookahead

/-!
# The places of tokens and faults

The place of a token that is delivered is where its literal stands in the text, and the place of a
match that belongs to no rule is that match. Both start and end between two characters.
-/

namespace OperatorGrammar

variable {τ : Type}

namespace Place

/-- The place is a slice of the text, and its line counts the line breaks in front of it. -/
structure Within (place : Place) (text : String) (slice : List Char) : Prop where
  text_eq : place.text = text
  isSlice : IsSlice text.toList place.offset (place.offset + place.length) slice
  line_eq : ∃ before, IsSlice text.toList 0 place.offset before ∧
    place.line = 1 + before.count '\n'

/-- The place is where the literal of the token stands. It is empty if there is no literal. -/
structure Shows (place : Place) (text : String) (token : Token τ) : Prop where
  offset_eq : place.offset = token.offset
  length_eq : place.length = token.length
  literal_eq_none_iff : token.literal = none ↔ place.length = 0
  within : ∃ slice, place.Within text slice ∧
    (0 < place.length → token.literal = some (String.ofList slice))

theorem within_of_isSlice {place : Place} {text : String} {slice : List Char}
    (htext : place.text = text)
    (h : IsSlice text.toList place.offset (place.offset + place.length) slice) :
    place.Within text slice := by
  refine ⟨htext, h, ?_⟩
  obtain ⟨before, after, hchars, hoffset, -⟩ := h
  rw [List.append_assoc] at hchars
  refine ⟨before, ⟨[], slice ++ after, hchars, rfl, hoffset.trans (Nat.zero_add _).symm⟩, ?_⟩
  rw [line, htext, hchars, hoffset, takeWidth_width_append]

end Place

namespace Lexer

variable {lexicon : Lexicon τ} {text : String} {lx next : Lexer τ} {token : Token τ}

theorem Delivers.currentPlace_eq (h : lx.Delivers token next) :
    next.currentPlace = lx.place token.offset token.length := by
  rw [currentPlace, h.currentOrEnd_eq, h.sameText.place_eq]

theorem Invariant.place_text_eq (h : lx.Invariant lexicon text.toList) (offset length : Nat) :
    (lx.place offset length).text = text := by
  rw [place, h.text_eq, String.ofList_toList]

theorem Invariant.shows_of_delivers (h : lx.Invariant lexicon text.toList)
    (hdelivers : lx.Delivers token next) : next.currentPlace.Shows text token := by
  rw [hdelivers.currentPlace_eq]
  obtain ⟨slice, hslice, hliteral⟩ := (h.of_advance hdelivers.advance_eq).covers_of_current token
    (h.current_of_delivers hdelivers)
  have hlength : token.length = width slice := Token.length_eq hliteral
  have hempty : token.length = 0 ↔ slice = [] := by
    rw [hlength]
    refine ⟨fun hzero ↦ ?_, fun hslice ↦ by rw [hslice, width_nil]⟩
    by_contra hne
    exact absurd hzero (width_pos hne).ne'
  refine ⟨rfl, rfl, ?_, slice, Place.within_of_isSlice (h.place_text_eq _ _) hslice, ?_⟩
  · rw [hliteral]
    refine Iff.trans ?_ hempty.symm
    split <;> simp_all
  · intro hpos
    rw [hliteral, if_neg fun hslice ↦ absurd (hempty.2 hslice) (Nat.ne_of_gt hpos)]

theorem Invariant.within_of_advance_error {fault : Fault τ}
    (h : lx.Invariant lexicon text.toList) (hadvance : lx.advance = (.error fault, next)) :
    ∃ place slice, fault = .unidentified place ∧ place.Within text slice := by
  obtain ⟨-, found, hfound, -, rfl, -⟩ := advance_eq_error hadvance
  obtain ⟨-, hadmits⟩ := admits_of_found? hfound
  refine ⟨_, found.extent.text, rfl, Place.within_of_isSlice (h.place_text_eq _ _) ?_⟩
  have hslice := Cursor.isSlice_upTo hadmits.last_mem
  rw [Cursor.text_of_mem_positions hadmits.first_mem, h.text_eq] at hslice
  have hstop : found.extent.first.offset + (found.extent.last.offset - found.extent.first.offset) =
      found.extent.last.offset := Nat.add_sub_cancel' (Cursor.offset_le hadmits.last_mem)
  rw [place, hstop]
  exact hslice

/-! ## What is consumed -/

/-- The token that an operation consumes. -/
def consumes? (lx : Lexer τ) (call : Call τ) : Option (Token τ) :=
  match lx.advance with
  | (.error _, _) => none
  | (.ok _, next) => if call.takes then some next.currentOrEnd else none

theorem Delivers.consumes?_eq (h : lx.Delivers token next) {call : Call τ}
    (htakes : call.takes = true) : lx.consumes? call = some token := by
  simp only [consumes?, h.advance_eq, h.currentOrEnd_eq, htakes, if_true]

variable [DecidableEq τ]

/-- The tokens that some operations consume, in order. -/
def consumed : Lexer τ → List (Call τ) → List (Token τ)
  | _, [] => []
  | lx, call :: calls => (lx.consumes? call).toList ++ (lx.call call).2.consumed calls

/-- The token that the last operation consumes is consumed last. -/
theorem getLast?_consumed {before : List (Call τ)} {call : Call τ}
    (h : (lx.after before).consumes? call = some token) :
    (lx.consumed (before ++ [call])).getLast? = some token := by
  induction before generalizing lx with
  | nil =>
    have hlast : lx.consumes? call = some token := h
    simp [consumed, hlast]
  | cons first before ih =>
    rw [List.cons_append, consumed, List.getLast?_append, ih h, Option.some_or]

end Lexer

end OperatorGrammar
