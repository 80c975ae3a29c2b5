import OperatorGrammar.Proofs.Lexer.Tokens

/-!
# All tokens of a text

A lexer whose pattern is the choice between its rules meets no faults: it delivers finitely many
tokens and then the end of the text.
-/

namespace OperatorGrammar.Lexer

variable {τ : Type}

/-- The lexer delivers `tokens` and then the end of the text. -/
structure Shows (lx : Lexer τ) (tokens : List (Token τ)) : Prop where
  takes : ∃ last next, lx.Takes tokens last ∧ last.Delivers lx.endToken next
  kind_ne : ∀ token ∈ tokens, token.kind ≠ lx.sentinel

theorem Shows.nil_of_delivers {lx next : Lexer τ} (h : lx.Delivers lx.endToken next) :
    lx.Shows [] :=
  ⟨⟨lx, next, .nil lx, h⟩, by simp⟩

theorem Shows.cons_of_delivers {lx next : Lexer τ} {token : Token τ} {tokens : List (Token τ)}
    (h : lx.Delivers token next) (hkind : token.kind ≠ lx.sentinel) (hnext : next.Shows tokens) :
    lx.Shows (token :: tokens) := by
  obtain ⟨last, after, htakes, hdelivers⟩ := hnext.takes
  rw [h.sameText.endToken_eq] at hdelivers
  refine ⟨⟨last, after, .cons h htakes, hdelivers⟩, ?_⟩
  intro other hother
  rcases List.mem_cons.1 hother with rfl | hother
  · exact hkind
  · exact h.sameText.sentinel_eq ▸ hnext.kind_ne other hother

theorem Shows.delivers_end {lx : Lexer τ} (h : lx.Shows []) :
    ∃ next, lx.Delivers lx.endToken next := by
  obtain ⟨last, next, ⟨⟩, hdelivers⟩ := h.takes
  exact ⟨next, hdelivers⟩

theorem Shows.next_eq [DecidableEq τ] {lx : Lexer τ} (h : lx.Shows []) : lx.next.1 = .ok none := by
  obtain ⟨next, hnext⟩ := h.delivers_end
  rw [next_of_delivers hnext]
  exact congrArg Except.ok (if_pos rfl)

theorem Shows.delivers_cons {lx : Lexer τ} {token : Token τ} {tokens : List (Token τ)}
    (h : lx.Shows (token :: tokens)) : ∃ next, lx.Delivers token next ∧ next.Shows tokens := by
  obtain ⟨last, after, _ | ⟨hdelivers, htakes⟩, hend⟩ := h.takes
  rw [← hdelivers.sameText.endToken_eq] at hend
  refine ⟨_, hdelivers, ⟨last, after, htakes, hend⟩, ?_⟩
  intro other hother
  rw [hdelivers.sameText.sentinel_eq]
  exact h.kind_ne other (List.mem_cons_of_mem token hother)

theorem Shows.congr {lx lx' : Lexer τ} {tokens : List (Token τ)} (h : lx.Shows tokens)
    (hadvance : lx'.advance = lx.advance) (hsame : lx.SameText lx') : lx'.Shows tokens := by
  cases tokens with
  | nil =>
    obtain ⟨next, hnext⟩ := h.delivers_end
    rw [← hsame.endToken_eq] at hnext
    exact .nil_of_delivers (hnext.congr hadvance)
  | cons token tokens =>
    obtain ⟨next, hnext, hshows⟩ := h.delivers_cons
    have hkind := h.kind_ne token List.mem_cons_self
    rw [← hsame.sentinel_eq] at hkind
    exact .cons_of_delivers (hnext.congr hadvance) hkind hshows

/-! ## Lexers without faults -/

section

variable {patterns : List (τ × Pattern)}

/-- A match of a lexicon that separates its rules is the match of one of them on its own. -/
theorem Admits.exists_match {lx : Lexer τ} {found : Match} (h : lx.Admits found)
    (hseparates : lx.lexicon.Separates patterns) :
    ∃ rule ∈ patterns, (∃ own, rule.2.matchAt? found.extent.first = some own ∧
      own.extent = found.extent) ∧ lx.lexicon.identify? found = some (rule.1, found.extent) := by
  obtain ⟨cursor, hsearch⟩ := h.search_eq
  have hattempts := hseparates.search? cursor
  cases hfirst : cursor.positions.findSome? (Lexicon.attempt? patterns) with
  | none =>
    rw [hfirst] at hattempts
    dsimp only at hattempts
    rw [hattempts] at hsearch
    cases hsearch
  | some attempt =>
    rw [hfirst] at hattempts
    obtain ⟨found', hfound, hextent, hidentify⟩ := hattempts
    obtain rfl := Option.some.inj (hfound.symm.trans hsearch)
    obtain ⟨position, -, hattempt⟩ := List.exists_of_findSome?_eq_some hfirst
    obtain ⟨rule, hrule, hmatch⟩ := List.exists_of_findSome?_eq_some hattempt
    obtain ⟨own, hown, rfl⟩ := Option.map_eq_some_iff.1 hmatch
    obtain ⟨rfl, -, -⟩ := Pattern.matchAt?_eq_some hown
    rw [hextent]
    exact ⟨rule, hrule, ⟨own, hown, rfl⟩, hidentify⟩

theorem advance_ne_error {lx : Lexer τ} (hseparates : lx.lexicon.Separates patterns)
    (fault : Fault τ) (next : Lexer τ) : lx.advance ≠ (.error fault, next) := by
  intro hadvance
  obtain ⟨-, found, hfound, hnone, -⟩ := advance_eq_error hadvance
  obtain ⟨-, hadmits⟩ := admits_of_found? hfound
  obtain ⟨rule, -, -, hidentify⟩ := hadmits.exists_match hseparates
  cases hnone.symm.trans hidentify

theorem exists_delivers {lx : Lexer τ} (hseparates : lx.lexicon.Separates patterns)
    (hpending : lx.pending = false) :
    (∃ next, lx.Delivers lx.endToken next) ∨
      ∃ token next, token.kind ∈ patterns.map Prod.fst ∧ lx.Delivers token next := by
  rcases lx.advance_cases with ⟨h, -⟩ | ⟨-, hadvance⟩ | ⟨-, -, found, hadmits, hadvance⟩
  · rw [hpending] at h
    cases h
  · exact .inl ⟨lx.finish, hadvance, rfl, hpending⟩
  · obtain ⟨rule, hrule, -, hidentify⟩ := hadmits.exists_match hseparates
    rw [accept_of_identify? hidentify] at hadvance
    obtain ⟨token, hkind, hdelivers⟩ := delivers_of_advance hadvance
    exact .inr ⟨token, _, hkind ▸ List.mem_map_of_mem hrule, hdelivers⟩

variable [DecidableEq τ]

theorem exists_shows {lx : Lexer τ} (hseparates : lx.lexicon.Separates patterns)
    (hsentinel : lx.sentinel ∉ patterns.map Prod.fst) (hpending : lx.pending = false) :
    ∃ tokens, lx.Shows tokens := by
  induction hremaining : lx.remaining using Nat.strongRecOn generalizing lx with
  | ind remaining ih =>
    rcases exists_delivers hseparates hpending with ⟨next, hnext⟩ | ⟨token, next, hkind, hnext⟩
    · exact ⟨[], .nil_of_delivers hnext⟩
    · have hne : token.kind ≠ lx.sentinel := fun heq ↦ hsentinel (heq ▸ hkind)
      have hlt := hnext.remaining_lt hne
      have hsame := hnext.sameText
      obtain ⟨tokens, hshows⟩ := ih next.remaining (hremaining ▸ hlt)
        (hsame.lexicon_eq ▸ hseparates) (hsame.sentinel_eq ▸ hsentinel) hnext.pending_eq rfl
      exact ⟨token :: tokens, .cons_of_delivers hnext hne hshows⟩

end

/-! ## Draining a lexer -/

section

variable [DecidableEq τ]

theorem Shows.length_le_remaining {lx : Lexer τ} {tokens : List (Token τ)}
    (h : lx.Shows tokens) : tokens.length ≤ lx.remaining := by
  induction tokens generalizing lx with
  | nil => exact Nat.zero_le _
  | cons token tokens ih =>
    obtain ⟨next, hnext, hshows⟩ := h.delivers_cons
    have hlt := hnext.remaining_lt (h.kind_ne token List.mem_cons_self)
    calc
      tokens.length + 1 ≤ next.remaining + 1 := Nat.succ_le_succ (ih hshows)
      _ ≤ lx.remaining := hlt

theorem takeAll_of_shows {lx : Lexer τ} {tokens : List (Token τ)} (h : lx.Shows tokens)
    {fuel : Nat} (hfuel : tokens.length < fuel) :
    (takeAll fuel lx).1 = tokens.map .ok := by
  induction fuel generalizing lx tokens with
  | zero => exact absurd hfuel (Nat.not_lt_zero _)
  | succ fuel ih =>
    cases tokens with
    | nil =>
      have hend : lx.next = (.ok none, lx.next.2) := Prod.ext h.next_eq rfl
      rw [takeAll, hend]
      rfl
    | cons token tokens =>
      obtain ⟨next, hnext, hshows⟩ := h.delivers_cons
      rw [takeAll, next_of_delivers hnext, if_neg (h.kind_ne token List.mem_cons_self),
        List.map_cons]
      exact congrArg (Except.ok token :: ·) (ih hshows (Nat.lt_of_succ_lt_succ hfuel))

theorem drain_of_shows {lx : Lexer τ} {tokens : List (Token τ)} (h : lx.Shows tokens) :
    lx.drain.1 = tokens.map .ok := by
  apply takeAll_of_shows h
  calc
    tokens.length ≤ lx.remaining := h.length_le_remaining
    _ ≤ lx.cursor.after.length + 2 := by
      unfold remaining room
      split <;> split <;> (try split) <;> omega
    _ < lx.cursor.after.length + 3 := Nat.lt_succ_self _

end

end OperatorGrammar.Lexer
