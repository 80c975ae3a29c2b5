import Mathlib
import OperatorGrammar.Proofs.Lexer.Lookahead
import OperatorGrammar.Proofs.Lexer.Progress

/-!
# The end of the text

A lexer that has run out of matches stays at the end of its text, and every operation tells so. If
no rule stands for the sentinel, nothing else ever looks like the end.
-/

namespace OperatorGrammar.Lexer

variable {τ : Type}

/-! ## Running out of matches -/

/-- A search from `cur` gives no further match: it finds none at all, or at the end of the text only
an empty one where the last match ended. -/
def Fails (lx : Lexer τ) (cur : Cursor) : Prop :=
  lx.lexicon.pattern.search? cur = none ∨
    cur.after = [] ∧ ∃ found, lx.lexicon.pattern.search? cur = some found ∧ lx.stalls found = true

theorem hunt_snd_eq_none_iff (lx : Lexer τ) :
    lx.hunt.2 = none ↔ ∃ cur ∈ lx.hunt.1, lx.Fails cur := by
  fun_induction hunt lx with
  | case1 lx hsearch =>
    refine ⟨fun _ ↦ ⟨lx.cursor, List.mem_singleton_self _, .inl hsearch⟩, fun _ ↦ rfl⟩
  | case2 lx found hsearch hstalls hend =>
    refine ⟨fun _ ↦ ⟨lx.cursor, List.mem_singleton_self _, .inr ⟨hend, found, hsearch, hstalls⟩⟩,
      fun _ ↦ rfl⟩
  | case3 lx found hsearch _ c rest hafter later ih =>
    have hfirst : ¬ lx.Fails lx.cursor := by
      rintro (hnone | ⟨hend, -⟩)
      · cases hnone.symm.trans hsearch
      · cases hend.symm.trans hafter
    refine ih.trans ⟨?_, ?_⟩
    · rintro ⟨cur, hcur, hfails⟩
      exact ⟨cur, List.mem_cons_of_mem _ hcur, hfails⟩
    · rintro ⟨cur, hcur, hfails⟩
      rcases List.mem_cons.1 hcur with rfl | hcur
      · exact absurd hfails hfirst
      · exact ⟨cur, hcur, hfails⟩
  | case4 lx found hsearch hstalls =>
    refine ⟨fun h ↦ absurd h (Option.some_ne_none found), ?_⟩
    rintro ⟨cur, hcur, hfails⟩
    obtain rfl := List.mem_singleton.1 hcur
    rcases hfails with hnone | ⟨-, found', hfound', hstalls'⟩
    · cases hnone.symm.trans hsearch
    · obtain rfl := Option.some.inj (hfound'.symm.trans hsearch)
      exact absurd hstalls' hstalls

theorem found?_eq_none_iff {lx : Lexer τ} (h : lx.exhausted = false) :
    lx.found? = none ↔ ∃ cur ∈ lx.searches, lx.Fails cur := by
  rw [found?, searches, h]
  exact lx.hunt_snd_eq_none_iff

theorem exhausted_scan {lx : Lexer τ} (h : lx.found? = none) : lx.scan.2.exhausted = true := by
  rw [scan_eq, h]
  rfl

/-! ## Staying at the end -/

theorem exhausted_advance {lx : Lexer τ} (h : lx.exhausted = true) :
    lx.advance.2.exhausted = true := by
  rcases lx.advance_cases with ⟨-, hadvance⟩ | ⟨-, hadvance⟩ | ⟨-, hexhausted, -⟩
  · rw [hadvance]
    exact h
  · rw [hadvance]
    rfl
  · cases h.symm.trans hexhausted

/-- The end of the text is what an exhausted lexer delivers. -/
theorem Invariant.delivers_end {lexicon : Lexicon τ} {text : List Char} {lx : Lexer τ}
    (h : lx.Invariant lexicon text) (hexhausted : lx.exhausted = true) :
    ∃ next, lx.Delivers lx.endToken next := by
  have hcurrent := h.current_of_exhausted hexhausted
  rcases lx.advance_cases with ⟨-, hadvance⟩ | ⟨hpending, hadvance⟩ | ⟨-, hmore, -⟩
  · have htoken : lx.currentOrEnd = lx.endToken := by rw [currentOrEnd, hcurrent, Option.getD_some]
    rw [htoken] at hadvance
    exact ⟨_, hadvance, htoken, rfl⟩
  · exact ⟨lx.finish, hadvance, rfl, hpending⟩
  · cases hexhausted.symm.trans hmore

variable [DecidableEq τ]

theorem exhausted_call {lx : Lexer τ} (h : lx.exhausted = true) (call : Call τ) :
    (lx.call call).2.exhausted = true := by
  rcases lx.call_snd_cases call with hcall | hcall | ⟨token, next, hdelivers, hcall⟩
  · rwa [hcall]
  · rw [hcall]
    exact exhausted_advance h
  · rw [hcall, putBack]
    have hnext := exhausted_advance h
    rwa [hdelivers.advance_eq] at hnext

theorem exhausted_after {lx : Lexer τ} (h : lx.exhausted = true) (calls : List (Call τ)) :
    (lx.after calls).exhausted = true :=
  after_induction (P := fun lx ↦ lx.exhausted = true) (fun _ call hlx ↦ exhausted_call hlx call) h
    calls

/-- A scan that accepts no match exhausts the lexer, and nothing undoes that. -/
theorem exhausted_of_mem_scans {lx : Lexer τ} {calls : List (Call τ)} {scan : Scanning τ}
    (hscan : scan ∈ lx.scans calls) (hfound : scan.found = none) :
    (lx.after calls).exhausted = true := by
  induction calls generalizing lx with
  | nil => cases hscan
  | cons call calls ih =>
    rw [scans, List.mem_append] at hscan
    rcases hscan with hscan | hscan
    · rcases lx.scanning?_cases call with ⟨hscanning, -⟩ | ⟨hscanning, -, htaken⟩
      · simp [hscanning] at hscan
      · obtain rfl : scan = lx.scanning := by simpa [hscanning] using hscan
        have hcall : (lx.call call).2.exhausted = true := calc
          (lx.call call).2.exhausted = lx.scan.2.exhausted := congrArg (·.exhausted) htaken
          _ = true := exhausted_scan hfound
        exact exhausted_after hcall calls
    · exact ih hscan

/-- The lexer stands at the end of its text, and this is what all operations tell. -/
structure Ended (lx : Lexer τ) (sentinel : τ) (text : List Char) : Prop where
  offset_eq : lx.cursor.offset = width text
  current_eq : lx.current = some ⟨sentinel, none, width text⟩
  advance_eq : lx.advance.1 = .ok sentinel
  peek_eq : lx.peek.1 = .ok sentinel
  next_eq : lx.next.1 = .ok none
  expect_eq : ∀ expected, (lx.expect expected).1 =
    if sentinel = expected then .ok ⟨sentinel, none, width text⟩
    else .error (.mismatch expected sentinel none (lx.place (width text) 0))

theorem Invariant.ended {lexicon : Lexicon τ} {text : List Char} {lx : Lexer τ}
    (h : lx.Invariant lexicon text) (hexhausted : lx.exhausted = true) :
    lx.Ended lexicon.sentinel text := by
  have hend : lx.endToken = ⟨lexicon.sentinel, none, width text⟩ := by
    rw [endToken, h.sentinel_eq, h.text_eq]
  obtain ⟨next, hdelivers⟩ := h.delivers_end hexhausted
  obtain ⟨token, -, hanswers⟩ := h.answers hdelivers.advance_eq
  obtain rfl : token = lx.endToken :=
    Option.some.inj (hanswers.current_eq.symm.trans (h.current_of_delivers hdelivers))
  rw [hend] at hanswers
  exact
    { offset_eq := h.offset_of_exhausted hexhausted
      current_eq := hend ▸ h.current_of_exhausted hexhausted
      advance_eq := congrArg Prod.fst hanswers.advance_eq
      peek_eq := congrArg Prod.fst hanswers.peek_eq
      next_eq := by rw [hanswers.next_eq, if_pos h.sentinel_eq.symm]
      expect_eq := fun expected ↦ by
        rw [hanswers.expect_eq, apply_ite Prod.fst]
        rfl }

theorem Ended.ne_unidentified {lx : Lexer τ} {sentinel : τ} {text : List Char}
    (h : lx.Ended sentinel text) (call : Call τ) (place : Place) :
    (lx.call call).1 ≠ .fault (.unidentified place) := by
  cases call with
  | advance => simp [Lexer.call, h.advance_eq, Reply.ofKind]
  | peek => simp [Lexer.call, h.peek_eq, Reply.ofKind]
  | expect expected =>
    rw [Lexer.call, h.expect_eq]
    split <;> simp [Reply.ofToken]
  | next => simp [Lexer.call, h.next_eq, Reply.ofToken?]
  | current => simp [Lexer.call]

/-! ## What looks like the end -/

/-- Only an exhausted lexer has the sentinel as its current token. -/
def EndsAtSentinel (lx : Lexer τ) : Prop :=
  ∀ token ∈ lx.current, token.kind = lx.sentinel → lx.exhausted = true

/-- The operation found the sentinel. -/
def TellsEnd (sentinel : τ) : Call τ → Reply τ → Prop
  | .advance, .kind kind => kind = sentinel
  | .peek, .kind kind => kind = sentinel
  | .expect _, .token (some token) => token.kind = sentinel
  | .expect _, .fault (.mismatch _ found _ _) => found = sentinel
  | .next, .token token => token = none
  | _, _ => False

omit [DecidableEq τ] in
theorem EndsAtSentinel.advance {lx : Lexer τ} (h : lx.EndsAtSentinel)
    (hmarks : lx.sentinel ∉ lx.lexicon.marks.map Prod.snd) : lx.advance.2.EndsAtSentinel := by
  rcases lx.advance_cases with ⟨-, hadvance⟩ | ⟨-, hadvance⟩ | ⟨-, -, found, hadmits, hadvance⟩
  · rw [hadvance]
    exact h
  · rw [hadvance]
    exact fun _ _ _ ↦ rfl
  · rw [hadvance]
    rcases lx.accept_cases found with ⟨place, haccept⟩ | ⟨kind, extent, hidentify, haccept⟩
    · rw [haccept]
      exact h
    · rw [haccept]
      intro token htoken hkind
      obtain rfl := Option.some.inj htoken
      obtain ⟨hmem, -⟩ := hadmits.inside_of_identify? hidentify
      exact absurd ((hkind : kind = lx.sentinel) ▸ hmem) hmarks

theorem EndsAtSentinel.call {lx : Lexer τ} (h : lx.EndsAtSentinel)
    (hmarks : lx.sentinel ∉ lx.lexicon.marks.map Prod.snd) (call : Call τ) :
    (lx.call call).2.EndsAtSentinel := by
  rcases lx.call_snd_cases call with hcall | hcall | ⟨token, next, hdelivers, hcall⟩
  · rwa [hcall]
  · rw [hcall]
    exact h.advance hmarks
  · have hnext := h.advance hmarks
    rw [hdelivers.advance_eq] at hnext
    rw [hcall]
    exact hnext

theorem Invariant.endsAtSentinel_after {lexicon : Lexicon τ} {text : List Char} {lx : Lexer τ}
    (h : lx.Invariant lexicon text) (hends : lx.EndsAtSentinel)
    (hmarks : lexicon.sentinel ∉ lexicon.marks.map Prod.snd) (calls : List (Call τ)) :
    (lx.after calls).EndsAtSentinel := by
  induction calls generalizing lx with
  | nil => exact hends
  | cons call calls ih =>
    refine ih (h.call call) (hends.call ?_ call)
    rwa [h.sentinel_eq, h.lexicon_eq]

/-- An operation that finds the sentinel takes it, or looks at it. -/
theorem Invariant.exhausted_of_tellsEnd {lexicon : Lexicon τ} {text : List Char} {lx : Lexer τ}
    (h : lx.Invariant lexicon text) (hends : lx.EndsAtSentinel)
    (hmarks : lexicon.sentinel ∉ lexicon.marks.map Prod.snd) {call : Call τ}
    (htells : TellsEnd lexicon.sentinel call (lx.call call).1) :
    (lx.call call).2.exhausted = true := by
  rw [← h.sentinel_eq, ← h.lexicon_eq] at hmarks
  rcases hadvance : lx.advance with ⟨fault | kind, next⟩
  · obtain ⟨-, ⟨found, -, -, rfl, -⟩, -, -, hpeek, hexpect, hnext⟩ := refuses_of_advance hadvance
    cases call with
    | advance => simp [Lexer.call, hadvance, Reply.ofKind, TellsEnd] at htells
    | peek => simp [Lexer.call, hpeek, Reply.ofKind, TellsEnd] at htells
    | expect expected => simp [Lexer.call, hexpect, Reply.ofToken, TellsEnd] at htells
    | next => simp [Lexer.call, hnext, Reply.ofToken?, TellsEnd] at htells
    | current => exact htells.elim
  · obtain ⟨token, rfl, hanswers⟩ := h.answers hadvance
    have hnext := hends.advance hmarks
    rw [hadvance] at hnext
    have hlater : token.kind = lexicon.sentinel → next.exhausted = true := by
      rw [← (h.of_advance hadvance).sentinel_eq]
      exact hnext token hanswers.current_eq
    cases call with
    | advance =>
      rw [Lexer.call, hadvance] at htells ⊢
      exact hlater htells
    | peek =>
      rw [Lexer.call, hanswers.peek_eq] at htells ⊢
      exact hlater htells
    | expect expected =>
      rw [Lexer.call, hanswers.expect_eq] at htells ⊢
      split at htells
      case isTrue heq =>
        rw [if_pos heq]
        exact hlater htells
      case isFalse hne =>
        rw [if_neg hne]
        exact hlater htells
    | next =>
      rw [Lexer.call, hanswers.next_eq] at htells ⊢
      split at htells
      case isTrue heq => exact hlater (heq.trans h.sentinel_eq)
      case isFalse => cases htells
    | current => exact htells.elim

/-- Once a scan of a run accepts no match, since there is none or only an empty one at the very end
where the last match ended, the lexer stays at the end of its text, and all operations tell so. If
no mark stands for the sentinel, the first one that finds it does so at the end for good. The marks
of a lexicon that was read from rules stand for the tokens of the rules. -/
theorem ended_of_failed_scan (lexicon : Lexicon τ) (name : Option String) (text : String)
    (before : List (Call τ)) :
    let first := ofText lexicon name text
    let lx := first.after before
    let chars := text.toList
    (lx.exhausted = false → (lx.scanning.found = none ↔ ∃ cur ∈ lx.searches, lx.Fails cur)) ∧
    ((∃ scan ∈ first.scans before, scan.found = none) → ∀ calls,
      (lx.after calls).Ended lexicon.sentinel chars ∧
        ∀ call place, ((lx.after calls).call call).1 ≠ .fault (.unidentified place)) ∧
    (lexicon.sentinel ∉ lexicon.marks.map Prod.snd →
      ∀ call, TellsEnd lexicon.sentinel call (lx.call call).1 →
        (lx.call call).2.exhausted = true ∧
          ∀ calls, ((lx.call call).2.after calls).Ended lexicon.sentinel chars) ∧
    ∀ properties sentinel rules, Lexicon.ofRules? sentinel rules properties = .ok lexicon →
      lexicon.sentinel = sentinel ∧ lexicon.marks.map Prod.snd = rules.map Rule.token := by
  intro first lx chars
  have h (calls : List (Call τ)) : (first.after calls).Invariant lexicon chars :=
    (invariant_ofText lexicon name text).after calls
  refine ⟨found?_eq_none_iff, ?failed, ?told, fun _ _ _ ↦ Lexicon.tokens_of_ofRules?⟩
  case failed =>
    rintro ⟨scan, hscan, hfound⟩ calls
    have hexhausted := exhausted_after (exhausted_of_mem_scans hscan hfound) calls
    have hended := ((h before).after calls).ended hexhausted
    exact ⟨hended, hended.ne_unidentified⟩
  case told =>
    intro hmarks call htells
    have hends := (invariant_ofText lexicon name text).endsAtSentinel_after nofun hmarks before
    have hexhausted := (h before).exhausted_of_tellsEnd hends hmarks htells
    refine ⟨hexhausted, fun calls ↦ ?_⟩
    exact (((h before).call call).after calls).ended (exhausted_after hexhausted calls)

/-- The third scan meets the empty match behind the two letters once more, at the end. -/
theorem ended_of_repeated_empty_match :
    ∃ lexicon, Lexicon.ofRules? "end" [⟨"a", "a*"⟩] = .ok lexicon ∧
      let lx := (ofText lexicon none "baa").after [.next, .next]
      lx.exhausted = false ∧ (∃ cur ∈ lx.searches, lx.Fails cur) ∧
        (∀ calls, ((lx.call .next).2.after calls).Ended "end" "baa".toList) ∧
        TellsEnd "end" .peek (lx.call .peek).1 ∧
        ∀ calls, ((lx.call .peek).2.after calls).Ended "end" "baa".toList := by
  let lexicon : Lexicon String :=
    ⟨"end", .group 1 (.rep true 0 none (.literal ['a'])), [(1, "a")]⟩
  have hrules : Lexicon.ofRules? "end" [⟨"a", "a*"⟩] = .ok lexicon := by cbv
  have hfound : ((ofText lexicon none "baa").after [.next, .next]).scanning.found = none := by cbv
  have hscan : ∃ scan ∈ (ofText lexicon none "baa").scans [.next, .next, .next],
      scan.found = none := by
    have hany : (((ofText lexicon none "baa").scans [.next, .next, .next]).any fun scan ↦
        scan.found.isNone) = true := by cbv
    simpa using hany
  have htells : TellsEnd "end" .peek
      (((ofText lexicon none "baa").after [.next, .next]).call .peek).1 := by cbv
  have hexhausted : ((ofText lexicon none "baa").after [.next, .next]).exhausted = false := by cbv
  obtain ⟨hfails, -, htold, -⟩ := ended_of_failed_scan lexicon none "baa" [.next, .next]
  obtain ⟨-, hended, -, -⟩ := ended_of_failed_scan lexicon none "baa" [.next, .next, .next]
  refine ⟨lexicon, hrules, hexhausted, (hfails hexhausted).1 hfound,
    fun calls ↦ (hended hscan calls).1, htells, (htold ?_ .peek htells).2⟩
  decide

end OperatorGrammar.Lexer
