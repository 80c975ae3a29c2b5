import Mathlib
import OperatorGrammar.Proofs.Lexer.Invariant

/-!
# Looking ahead

To look at the next token changes nothing that a later operation could tell: every operation comes
down to the same next token, or to the same fault if there is none.
-/

namespace OperatorGrammar.Lexer

variable {τ : Type} [DecidableEq τ]

/-- Whether an operation takes a token. -/
def Call.takes : Call τ → Bool
  | advance => true
  | peek => false
  | expect _ => true
  | next => true
  | current => false

/-- All operations find `token`. It is the current token afterwards and remains to be taken after a
mere look at it; otherwise they leave `next`. -/
structure Answers (lx : Lexer τ) (token : Token τ) (next : Lexer τ) : Prop where
  current_eq : next.current = some token
  advance_eq : lx.advance = (.ok token.kind, next)
  peek_eq : lx.peek = (.ok token.kind, next.putBack)
  expect_eq : ∀ expected, lx.expect expected =
    if token.kind = expected then (.ok token, next)
    else (.error (.mismatch expected token.kind token.literal (lx.place token.offset token.length)),
      next)
  next_eq : lx.next = (.ok (if token.kind = lx.sentinel then none else some token), next)
  advance_putBack : next.putBack.advance = lx.advance
  peek_putBack : next.putBack.peek = lx.peek

/-- The match that a scan finds belongs to no rule. All operations fail with one fault and leave one
lexer, which stands behind the match and is else as it was. -/
structure Refuses (lx : Lexer τ) (fault : Fault τ) (next : Lexer τ) : Prop where
  pending_eq : lx.pending = false
  next_lexer_eq : ∃ found, lx.found? = some found ∧ lx.lexicon.identify? found = none ∧
    fault = .unidentified (lx.place found.extent.first.offset
      (found.extent.last.offset - found.extent.first.offset)) ∧
    next = { lx with cursor := found.extent.last, lastMatch := some found.extent.last.offset }
  scan_eq : lx.scan = (.error fault, next)
  advance_eq : lx.advance = (.error fault, next)
  peek_eq : lx.peek = (.error fault, next)
  expect_eq : ∀ expected, lx.expect expected = (.error fault, next)
  next_eq : lx.next = (.error fault, next)

theorem Invariant.answers {lexicon : Lexicon τ} {text : List Char} {lx next : Lexer τ} {kind : τ}
    (h : lx.Invariant lexicon text) (hadvance : lx.advance = (.ok kind, next)) :
    ∃ token, token.kind = kind ∧ lx.Answers token next := by
  obtain ⟨token, rfl, hdelivers⟩ := delivers_of_advance hadvance
  have hcurrent := h.current_of_delivers hdelivers
  refine ⟨token, rfl, hcurrent, hadvance, hdelivers.peek_eq, ?expect, next_of_delivers hdelivers,
    hdelivers.advance_putBack, ?peek⟩
  case expect =>
    intro expected
    rw [expect_of_delivers hdelivers, currentPlace, hdelivers.currentOrEnd_eq,
      hdelivers.sameText.place_eq]
  case peek => rw [(delivers_putBack hdelivers).peek_eq, hdelivers.peek_eq]

theorem refuses_of_advance {lx next : Lexer τ} {fault : Fault τ}
    (h : lx.advance = (.error fault, next)) : lx.Refuses fault next := by
  obtain ⟨hpending, hfound⟩ := advance_eq_error h
  refine ⟨hpending, hfound, ?scan, h, peek_of_advance_error h, ?expect, ?next⟩
  case scan => rwa [advance, if_neg (by simp [hpending])] at h
  case expect =>
    intro expected
    rw [expect, h]
  case next => rw [Lexer.next, h]

/-- Of a lexer, an operation that takes a token uses only what taking one gives. -/
theorem call_congr {lx lx' : Lexer τ} (h : lx'.advance = lx.advance) {call : Call τ}
    (htakes : call.takes = true) : lx'.call call = lx.call call := by
  cases call with
  | advance => rw [Lexer.call, Lexer.call, h]
  | peek => cases htakes
  | expect expected => rw [Lexer.call, Lexer.call, expect, expect, h]
  | next => rw [Lexer.call, Lexer.call, Lexer.next, Lexer.next, h]
  | current => cases htakes

theorem advance_peek {lx : Lexer τ} (h : ∀ fault, (lx.call .peek).1 ≠ .fault fault) :
    (lx.call .peek).2.advance = lx.advance := by
  rcases hadvance : lx.advance with ⟨fault | kind, next⟩
  · exact absurd (by rw [call, peek_of_advance_error hadvance]; rfl) (h fault)
  · obtain ⟨token, -, hdelivers⟩ := delivers_of_advance hadvance
    rw [call, hdelivers.peek_eq, hdelivers.advance_putBack, hadvance]

/-- Two lexers that take the same token next reply the same to the operations that take tokens,
whether or not one of them looks ahead in between. -/
theorem transcript_filter {lx lx' : Lexer τ} (h : lx'.advance = lx.advance) {calls : List (Call τ)}
    (hpeek : ∀ fault, (.peek, .fault fault) ∉ lx.transcript calls) :
    lx'.transcript (calls.filter Call.takes) =
      (lx.transcript calls).filter fun entry ↦ entry.1.takes := by
  induction calls generalizing lx lx' with
  | nil => rfl
  | cons call calls ih =>
    have hrest : ∀ fault, (.peek, .fault fault) ∉ (lx.call call).2.transcript calls :=
      fun fault hmem ↦ hpeek fault (List.mem_cons_of_mem _ hmem)
    cases htakes : call.takes with
    | true =>
      have hcall := call_congr h htakes
      simp only [List.filter_cons, transcript, htakes, if_true, hcall]
      rw [ih rfl hrest]
    | false =>
      have hadvance : lx'.advance = (lx.call call).2.advance := by
        cases call with
        | peek =>
          refine h.trans (advance_peek fun fault hfault ↦ hpeek fault ?_).symm
          rw [transcript, ← hfault]
          exact List.mem_cons_self
        | current => exact h
        | advance => cases htakes
        | expect => cases htakes
        | next => cases htakes
      simp only [List.filter_cons, transcript, htakes, Bool.false_eq_true, if_false]
      exact ih hadvance hrest

/-- In every state that a lexer reaches, looks at the next token that succeed may be left out: all
other operations reply the same. They find one and the same next token, or all fail alike. -/
theorem peek_transparent (lexicon : Lexicon τ) (name : Option String) (text : String)
    (before : List (Call τ)) :
    let lx := (ofText lexicon name text).after before
    (∀ calls, (∀ fault, (.peek, .fault fault) ∉ lx.transcript calls) →
      lx.transcript (calls.filter Call.takes) =
        (lx.transcript calls).filter fun entry ↦ entry.1.takes) ∧
    (∀ kind next, lx.advance = (.ok kind, next) →
      ∃ token, token.kind = kind ∧ lx.Answers token next) ∧
    (∀ fault next, lx.advance = (.error fault, next) → lx.Refuses fault next) ∧
    ∀ expected, (lx.expect expected).2 = lx.advance.2 := by
  intro lx
  have h : lx.Invariant lexicon text.toList := (invariant_ofText lexicon name text).after before
  exact ⟨fun calls hpeek ↦ transcript_filter rfl hpeek, fun kind next ↦ h.answers,
    fun fault next ↦ refuses_of_advance, lx.expect_snd⟩

/-- Looks at a token without a literal, twice at one token, and at the end of the text. -/
theorem peek_transparent_among_empty_matches :
    ∃ lexicon, Lexicon.ofRules? "end" [⟨"a", "a*"⟩] = .ok lexicon ∧
      let lx := ofText lexicon none "baa"
      let calls := [.peek, .advance, .peek, .peek, .next, .peek, .expect "a"]
      (∀ fault, (.peek, .fault fault) ∉ lx.transcript calls) ∧
        lx.transcript [.advance, .next, .expect "a"] =
          (lx.transcript calls).filter fun entry ↦ entry.1.takes := by
  let lexicon : Lexicon String :=
    ⟨"end", .group 1 (.rep true 0 none (.literal ['a'])), [(1, "a")]⟩
  have hrules : Lexicon.ofRules? "end" [⟨"a", "a*"⟩] = .ok lexicon := by cbv
  have htranscript : (ofText lexicon none "baa").transcript
      [.peek, .advance, .peek, .peek, .next, .peek, .expect "a"] =
        [(.peek, .kind "a"), (.advance, .kind "a"), (.peek, .kind "a"), (.peek, .kind "a"),
          (.next, .token (some ⟨"a", some "aa", 1⟩)), (.peek, .kind "end"),
          (.expect "a", .fault (.mismatch "a" "end" none ⟨"<input>", "baa", 3, 0⟩))] := by
    cbv
  have hpeek : ∀ fault, (.peek, .fault fault) ∉ (ofText lexicon none "baa").transcript
      [.peek, .advance, .peek, .peek, .next, .peek, .expect "a"] := by
    rw [htranscript]
    simp
  exact ⟨lexicon, hrules, hpeek, (peek_transparent lexicon none "baa" []).1 _ hpeek⟩

end OperatorGrammar.Lexer
