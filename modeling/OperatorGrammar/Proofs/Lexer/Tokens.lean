import OperatorGrammar.Proofs.Lexer.Steps

/-!
# The tokens ahead of a lexer

To look at the next token is to take it and put it back, so that all that a parser learns from a
lexer is what taking tokens one by one tells. Taking any token but the sentinel uses up some of what
remains, and no operation ever adds to it.
-/

namespace OperatorGrammar.Lexer

variable {τ : Type}

/-! ## Taking one token -/

/-- Goes back to before the token that was taken last. -/
def putBack (lx : Lexer τ) : Lexer τ := { lx with pending := true }

/-- Taking the next token delivers `token` and leaves `next`. -/
structure Delivers (lx : Lexer τ) (token : Token τ) (next : Lexer τ) : Prop where
  advance_eq : lx.advance = (.ok token.kind, next)
  currentOrEnd_eq : next.currentOrEnd = token
  pending_eq : next.pending = false

/-- All that taking the next token can do. -/
theorem advance_cases (lx : Lexer τ) :
    (lx.pending = true ∧ lx.advance = (.ok lx.currentOrEnd.kind, { lx with pending := false })) ∨
      (lx.pending = false ∧ lx.advance = (.ok lx.sentinel, lx.finish)) ∨
      (lx.pending = false ∧ lx.exhausted = false ∧
        ∃ found, lx.Admits found ∧ lx.advance = lx.accept found) := by
  unfold advance
  by_cases hpending : lx.pending
  · exact .inl ⟨hpending, if_pos hpending⟩
  · right
    rw [if_neg hpending, Bool.not_eq_true] at *
    rcases lx.scan_cases with hscan | ⟨hexhausted, found, hadmits, hscan⟩
    · exact .inl ⟨hpending, hscan⟩
    · exact .inr ⟨hpending, hexhausted, found, hadmits, hscan⟩

/-- Taking a token fails only if a match belongs to no rule. The lexer then stands behind the match
and is else as it was. -/
theorem advance_eq_error {lx next : Lexer τ} {fault : Fault τ} (h : lx.advance = (.error fault, next)) :
    lx.pending = false ∧ ∃ found, lx.found? = some found ∧ lx.lexicon.identify? found = none ∧
      fault = .unidentified (lx.place found.extent.first.offset
        (found.extent.last.offset - found.extent.first.offset)) ∧
      next = { lx with cursor := found.extent.last, lastMatch := some found.extent.last.offset } := by
  rw [advance] at h
  split at h
  case isTrue => cases h
  case isFalse hpending =>
    refine ⟨by simpa using hpending, ?_⟩
    rw [scan_eq] at h
    cases hfound : lx.found? with
    | none =>
      rw [hfound] at h
      cases h
    | some found =>
      rw [hfound] at h
      dsimp only at h
      cases hidentify : lx.lexicon.identify? found with
      | none =>
        rw [accept_of_identify?_eq_none hidentify] at h
        obtain ⟨hfault, hnext⟩ := Prod.mk.inj h
        exact ⟨found, rfl, hidentify, (Except.error.inj hfault).symm, hnext.symm⟩
      | some rule =>
        rw [accept_of_identify? hidentify] at h
        cases h

theorem delivers_of_advance {lx next : Lexer τ} {kind : τ} (h : lx.advance = (.ok kind, next)) :
    ∃ token, token.kind = kind ∧ lx.Delivers token next := by
  have hnext : next.currentOrEnd.kind = kind ∧ next.pending = false := by
    rcases lx.advance_cases with ⟨-, hadvance⟩ | ⟨hpending, hadvance⟩ |
      ⟨hpending, -, found, -, hadvance⟩
    · rw [hadvance, Prod.mk.injEq, Except.ok.injEq] at h
      obtain ⟨rfl, rfl⟩ := h
      exact ⟨rfl, rfl⟩
    · rw [hadvance, Prod.mk.injEq, Except.ok.injEq] at h
      obtain ⟨rfl, rfl⟩ := h
      exact ⟨rfl, hpending⟩
    · rcases lx.accept_cases found with ⟨place, haccept⟩ | ⟨found, extent, -, haccept⟩
      · simp [hadvance, haccept] at h
      · rw [hadvance, haccept, Prod.mk.injEq, Except.ok.injEq] at h
        obtain ⟨rfl, rfl⟩ := h
        exact ⟨rfl, hpending⟩
  exact ⟨next.currentOrEnd, hnext.1, by rw [h, hnext.1], rfl, hnext.2⟩

theorem delivers_advance {lx : Lexer τ} {token : Token τ} (hkind : lx.advance.1 = .ok token.kind)
    (htoken : lx.advance.2.currentOrEnd = token) : lx.Delivers token lx.advance.2 := by
  obtain ⟨_, -, hdelivers⟩ := delivers_of_advance (Prod.ext hkind rfl : lx.advance = (_, _))
  exact ⟨Prod.ext hkind rfl, htoken, hdelivers.pending_eq⟩

theorem Delivers.unique {lx next next' : Lexer τ} {token token' : Token τ}
    (h : lx.Delivers token next) (h' : lx.Delivers token' next') :
    token = token' ∧ next = next' := by
  have hnext : next = next' := congrArg Prod.snd (h.advance_eq.symm.trans h'.advance_eq)
  have htoken : token = token' := calc
    token = next.currentOrEnd := h.currentOrEnd_eq.symm
    _ = next'.currentOrEnd := by rw [hnext]
    _ = token' := h'.currentOrEnd_eq
  exact ⟨htoken, hnext⟩

theorem Delivers.congr {lx lx' next : Lexer τ} {token : Token τ} (h : lx.Delivers token next)
    (hadvance : lx'.advance = lx.advance) : lx'.Delivers token next :=
  ⟨hadvance.trans h.advance_eq, h.currentOrEnd_eq, h.pending_eq⟩

/-- A token without a current one is the sentinel. -/
theorem Delivers.current_eq {lx next : Lexer τ} {token : Token τ} (h : lx.Delivers token next)
    (hkind : token.kind ≠ next.sentinel) : next.current = some token := by
  have htoken := h.currentOrEnd_eq
  cases hcurrent : next.current with
  | none =>
    rw [currentOrEnd, hcurrent] at htoken
    exact absurd (htoken ▸ rfl) hkind
  | some current =>
    rw [currentOrEnd, hcurrent] at htoken
    exact congrArg some htoken

theorem Delivers.advance_putBack {lx next : Lexer τ} {token : Token τ}
    (h : lx.Delivers token next) : next.putBack.advance = lx.advance := by
  have hpending : next.putBack.pending = true := rfl
  have hlast : { next.putBack with pending := false } = next := by
    rw [← h.pending_eq]
    rfl
  calc
    next.putBack.advance = (.ok next.putBack.currentOrEnd.kind, next) := by
      rw [advance, if_pos hpending, hlast]
    _ = (.ok token.kind, next) := by
      rw [← h.currentOrEnd_eq]
      rfl
    _ = lx.advance := h.advance_eq.symm

theorem delivers_putBack {lx next : Lexer τ} {token : Token τ} (h : lx.Delivers token next) :
    next.putBack.Delivers token next :=
  h.congr h.advance_putBack

theorem Delivers.peek_eq {lx next : Lexer τ} {token : Token τ} (h : lx.Delivers token next) :
    lx.peek = (.ok token.kind, next.putBack) := by
  have hadvance := h.advance_eq
  by_cases hpending : lx.pending
  · rw [advance, if_pos hpending, Prod.mk.injEq] at hadvance
    rw [peek, if_pos hpending, hadvance.1, ← hadvance.2, putBack, ← hpending]
  · rw [advance, if_neg hpending] at hadvance
    rw [peek, if_neg hpending, hadvance]
    rfl

theorem peek_of_advance_error {lx next : Lexer τ} {fault : Fault τ}
    (h : lx.advance = (.error fault, next)) : lx.peek = (.error fault, next) := by
  by_cases hpending : lx.pending
  · simp [advance, hpending] at h
  · rw [advance, if_neg hpending] at h
    rw [peek, if_neg hpending, h]

theorem expect_of_delivers [DecidableEq τ] {lx next : Lexer τ} {token : Token τ}
    (h : lx.Delivers token next) (expected : τ) :
    lx.expect expected =
      if token.kind = expected then (.ok token, next)
      else (.error (.mismatch expected token.kind token.literal next.currentPlace), next) := by
  rw [expect, h.advance_eq]
  simp only [h.currentOrEnd_eq]

/-! ## Taking several tokens -/

/-- Taking tokens one by one delivers `tokens` and leaves `last`. -/
inductive Takes : Lexer τ → List (Token τ) → Lexer τ → Prop where
  | nil (lx : Lexer τ) : Takes lx [] lx
  | cons {lx next last : Lexer τ} {token : Token τ} {tokens : List (Token τ)} :
      lx.Delivers token next → Takes next tokens last → Takes lx (token :: tokens) last

theorem takes_append {lx last : Lexer τ} {first second : List (Token τ)} :
    lx.Takes (first ++ second) last ↔ ∃ mid, lx.Takes first mid ∧ mid.Takes second last := by
  induction first generalizing lx with
  | nil =>
    refine ⟨fun h ↦ ⟨lx, .nil lx, h⟩, ?_⟩
    rintro ⟨mid, ⟨⟩, h⟩
    exact h
  | cons token first ih =>
    constructor
    · rintro (_ | ⟨hdelivers, htakes⟩)
      obtain ⟨mid, hfirst, hsecond⟩ := ih.1 htakes
      exact ⟨mid, .cons hdelivers hfirst, hsecond⟩
    · rintro ⟨mid, _ | ⟨hdelivers, hfirst⟩, hsecond⟩
      exact .cons hdelivers (ih.2 ⟨mid, hfirst, hsecond⟩)

theorem Takes.unique {lx last last' : Lexer τ} {tokens : List (Token τ)}
    (h : lx.Takes tokens last) (h' : lx.Takes tokens last') : last = last' := by
  induction h with
  | nil lx =>
    cases h'
    rfl
  | cons hdelivers _ ih =>
    obtain _ | ⟨hdelivers', htakes'⟩ := h'
    obtain ⟨-, rfl⟩ := hdelivers.unique hdelivers'
    exact ih htakes'

/-- Of two runs from one lexer on, one goes on from where the other ends. -/
theorem Takes.append_or_append {lx last last' : Lexer τ} {tokens tokens' : List (Token τ)}
    (h : lx.Takes tokens last) (h' : lx.Takes tokens' last') :
    (∃ rest, tokens' = tokens ++ rest ∧ last.Takes rest last') ∨
      ∃ rest, tokens = tokens' ++ rest ∧ last'.Takes rest last := by
  induction h generalizing tokens' with
  | nil lx => exact .inl ⟨tokens', rfl, h'⟩
  | @cons lx next last token tokens hdelivers htakes ih =>
    obtain _ | ⟨hdelivers', htakes'⟩ := h'
    · exact .inr ⟨token :: tokens, rfl, .cons hdelivers htakes⟩
    · obtain ⟨rfl, rfl⟩ := hdelivers.unique hdelivers'
      rcases ih htakes' with ⟨rest, rfl, hrest⟩ | ⟨rest, rfl, hrest⟩
      · exact .inl ⟨rest, rfl, hrest⟩
      · exact .inr ⟨rest, rfl, hrest⟩

/-! ## What stays and what remains -/

/-- Two states of one lexer: they read one text with one lexicon. -/
structure SameText (lx next : Lexer τ) : Prop where
  lexicon_eq : next.lexicon = lx.lexicon
  name_eq : next.name = lx.name
  text_eq : next.cursor.text = lx.cursor.text

theorem SameText.trans {lx mid last : Lexer τ} (h : lx.SameText mid) (h' : mid.SameText last) :
    lx.SameText last :=
  ⟨h'.1.trans h.1, h'.2.trans h.2, h'.3.trans h.3⟩

theorem SameText.sentinel_eq {lx next : Lexer τ} (h : lx.SameText next) :
    next.sentinel = lx.sentinel :=
  congrArg Lexicon.sentinel h.lexicon_eq

theorem SameText.place_eq {lx next : Lexer τ} (h : lx.SameText next) : next.place = lx.place := by
  funext offset length
  rw [place, place, h.name_eq, h.text_eq]

theorem SameText.endToken_eq {lx next : Lexer τ} (h : lx.SameText next) :
    next.endToken = lx.endToken := by
  rw [endToken, endToken, h.sentinel_eq, h.text_eq]

theorem Admits.text_eq {lx : Lexer τ} {found : Match} (h : lx.Admits found) :
    found.extent.last.text = lx.cursor.text :=
  Cursor.text_of_mem_positions (Cursor.mem_positions_trans h.first_mem h.last_mem)

theorem sameText_advance (lx : Lexer τ) : lx.SameText lx.advance.2 := by
  rcases lx.advance_cases with ⟨-, hadvance⟩ | ⟨-, hadvance⟩ | ⟨-, -, found, hadmits, hadvance⟩
  · rw [hadvance]
    exact ⟨rfl, rfl, rfl⟩
  · rw [hadvance]
    exact ⟨rfl, rfl, Cursor.text_toEnd lx.cursor⟩
  · rcases lx.accept_cases found with ⟨place, haccept⟩ | ⟨kind, extent, -, haccept⟩
    · rw [hadvance, haccept]
      exact ⟨rfl, rfl, hadmits.text_eq⟩
    · rw [hadvance, haccept]
      exact ⟨rfl, rfl, hadmits.text_eq⟩

theorem Delivers.sameText {lx next : Lexer τ} {token : Token τ} (h : lx.Delivers token next) :
    lx.SameText next := by
  have hsame := lx.sameText_advance
  rwa [h.advance_eq] at hsame

theorem next_of_delivers [DecidableEq τ] {lx next : Lexer τ} {token : Token τ}
    (h : lx.Delivers token next) :
    lx.next = (.ok (if token.kind = lx.sentinel then none else some token), next) := by
  simp only [Lexer.next, h.advance_eq, h.currentOrEnd_eq, h.sameText.sentinel_eq]
  split <;> rfl

theorem Takes.sameText {lx last : Lexer τ} {tokens : List (Token τ)} (h : lx.Takes tokens last) :
    lx.SameText last := by
  induction h with
  | nil lx => exact ⟨rfl, rfl, rfl⟩
  | cons hdelivers _ ih => exact hdelivers.sameText.trans ih

section

variable [DecidableEq τ]

/-- A bound on how many tokens remain, the sentinels at the end of the text aside. -/
def remaining (lx : Lexer τ) : Nat :=
  (if lx.pending = true ∧ lx.currentOrEnd.kind ≠ lx.sentinel then 1 else 0) +
    if lx.exhausted then 0 else lx.room

theorem remaining_pending_false (lx : Lexer τ) :
    { lx with pending := false }.remaining = if lx.exhausted then 0 else lx.room := by
  simp only [remaining, Bool.false_eq_true, false_and, if_false, Nat.zero_add]
  rfl

theorem remaining_finish (lx : Lexer τ) (h : lx.pending = false) : lx.finish.remaining = 0 := by
  simp [remaining, finish, h]

theorem remaining_accept_lt {lx : Lexer τ} {found : Match} (h : lx.Admits found)
    (hpending : lx.pending = false) (hexhausted : lx.exhausted = false) :
    (lx.accept found).2.remaining < lx.remaining := by
  have hlt := h.lt_room
  rcases lx.accept_cases found with ⟨place, haccept⟩ | ⟨kind, extent, -, haccept⟩
  · simpa [haccept, remaining, hpending, hexhausted, room] using hlt
  · simpa [haccept, remaining, hpending, hexhausted, room] using hlt

theorem remaining_advance_le (lx : Lexer τ) : lx.advance.2.remaining ≤ lx.remaining := by
  rcases lx.advance_cases with ⟨-, hadvance⟩ | ⟨hpending, hadvance⟩ |
    ⟨hpending, hexhausted, found, hadmits, hadvance⟩
  · rw [hadvance, remaining_pending_false, remaining]
    exact Nat.le_add_left _ _
  · rw [hadvance, remaining_finish lx hpending]
    exact Nat.zero_le _
  · rw [hadvance]
    exact Nat.le_of_lt (remaining_accept_lt hadmits hpending hexhausted)

/-- Every token besides the sentinel uses up some of what remains. -/
theorem Delivers.remaining_lt {lx next : Lexer τ} {token : Token τ} (h : lx.Delivers token next)
    (hkind : token.kind ≠ lx.sentinel) : next.remaining < lx.remaining := by
  have hnext := h.advance_eq
  rcases lx.advance_cases with ⟨hpending, hadvance⟩ | ⟨hpending, hadvance⟩ |
    ⟨hpending, hexhausted, found, hadmits, hadvance⟩
  · obtain ⟨hcurrent, rfl⟩ := Prod.mk.inj (hadvance.symm.trans hnext)
    rw [← Except.ok.inj hcurrent] at hkind
    have hremaining : lx.remaining = 1 + if lx.exhausted then 0 else lx.room := by
      rw [remaining, if_pos ⟨hpending, hkind⟩]
    calc
      { lx with pending := false }.remaining = if lx.exhausted then 0 else lx.room :=
        remaining_pending_false lx
      _ < 1 + if lx.exhausted then 0 else lx.room := Nat.lt_add_of_pos_left Nat.one_pos
      _ = lx.remaining := hremaining.symm
  · obtain ⟨hsentinel, -⟩ := Prod.mk.inj (hadvance.symm.trans hnext)
    exact absurd (Except.ok.inj hsentinel).symm hkind
  · have hlt := remaining_accept_lt hadmits hpending hexhausted
    rwa [← hadvance, hnext] at hlt

theorem Delivers.remaining_le {lx next : Lexer τ} {token : Token τ} (h : lx.Delivers token next) :
    next.remaining ≤ lx.remaining := by
  have hle := lx.remaining_advance_le
  rwa [h.advance_eq] at hle

theorem Takes.remaining_le {lx last : Lexer τ} {tokens : List (Token τ)}
    (h : lx.Takes tokens last) : last.remaining ≤ lx.remaining := by
  induction h with
  | nil lx => exact Nat.le_refl _
  | cons hdelivers _ ih => exact Nat.le_trans ih hdelivers.remaining_le

end

end OperatorGrammar.Lexer
