import OperatorGrammar.Proofs.Lexer.End
import OperatorGrammar.Proofs.Lexer.Shows

/-!
# Taking all tokens of a text

What a lexer replies whose tokens are known, when they are taken one by one: first these tokens, and
then the end of the text for good.
-/

namespace OperatorGrammar.Lexer

variable {τ : Type} [DecidableEq τ] {lx : Lexer τ} {tokens : List (Token τ)}

/-- Takes as many tokens as the list has. -/
def takesOf (tokens : List (Token τ)) : List (Call τ) := tokens.map fun _ ↦ .next

theorem call_next_of_delivers {next : Lexer τ} {token : Token τ} (h : lx.Delivers token next)
    (hkind : token.kind ≠ lx.sentinel) : lx.call .next = (.token (some token), next) := by
  rw [call, next_of_delivers h, if_neg hkind]
  rfl

theorem Shows.transcript_eq (h : lx.Shows tokens) :
    lx.transcript (takesOf tokens) = tokens.map fun token ↦ (.next, .token (some token)) := by
  induction tokens generalizing lx with
  | nil => rfl
  | cons token tokens ih =>
    obtain ⟨next, hnext, hshows⟩ := h.delivers_cons
    have hcall := call_next_of_delivers hnext (h.kind_ne token List.mem_cons_self)
    rw [takesOf, List.map_cons, transcript, hcall, List.map_cons]
    exact congrArg _ (ih hshows)

theorem Shows.after_takesOf (h : lx.Shows tokens) : (lx.after (takesOf tokens)).Shows [] := by
  induction tokens generalizing lx with
  | nil => exact h
  | cons token tokens ih =>
    obtain ⟨next, hnext, hshows⟩ := h.delivers_cons
    have hcall := call_next_of_delivers hnext (h.kind_ne token List.mem_cons_self)
    rw [takesOf, List.map_cons, after, hcall]
    exact ih hshows

/-- Behind its tokens the text has ended. -/
theorem Shows.ended {lexicon : Lexicon τ} {text : List Char} (h : lx.Shows tokens)
    (hinvariant : lx.Invariant lexicon text) (hends : lx.EndsAtSentinel)
    (hmarks : lexicon.sentinel ∉ lexicon.marks.map Prod.snd) (calls : List (Call τ)) :
    (lx.after (takesOf tokens ++ .next :: calls)).Ended lexicon.sentinel text := by
  have hlast := hinvariant.after (takesOf tokens)
  have htold : TellsEnd lexicon.sentinel .next ((lx.after (takesOf tokens)).call .next).1 := by
    rw [call, h.after_takesOf.next_eq]
    rfl
  have hexhausted := hlast.exhausted_of_tellsEnd
    (hinvariant.endsAtSentinel_after hends hmarks _) hmarks htold
  rw [after_append]
  exact ((hlast.call .next).after calls).ended (exhausted_after hexhausted calls)

/-- A lexer that separates its rules fails only if it is asked to expect something else. -/
theorem exists_expect_of_fault {patterns : List (τ × Pattern)}
    (hseparates : lx.lexicon.Separates patterns) {call : Call τ} {fault : Fault τ}
    (hfault : (lx.call call).1 = .fault fault) :
    ∃ expected found literal place, call = .expect expected ∧ found ≠ expected ∧
      fault = .mismatch expected found literal place := by
  rcases fault_cases hfault with ⟨next, hadvance⟩ | ⟨expected, token, next, hcall, -, hne, heq⟩
  · exact absurd hadvance (advance_ne_error hseparates fault next)
  · exact ⟨expected, token.kind, token.literal, _, hcall, hne, heq⟩

end OperatorGrammar.Lexer
