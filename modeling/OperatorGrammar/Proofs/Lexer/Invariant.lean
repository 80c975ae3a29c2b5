import Mathlib
import OperatorGrammar.Proofs.Lexer.Runs
import OperatorGrammar.Proofs.Lexicon.Marks
import OperatorGrammar.Proofs.Text.Slices

/-!
# What holds of a lexer in every state

A lexer's cursor never leaves its text and never splits a character, the match that ended last and
the current token lie behind the cursor, and an exhausted lexer stands at the end of its text with
the sentinel. Every operation keeps all this, also when it fails.
-/

namespace OperatorGrammar

variable {τ : Type}

/-- The span of a token is a slice of the text, which is its literal unless it is empty. -/
def Token.Covers (token : Token τ) (text : List Char) : Prop :=
  ∃ slice, IsSlice text token.offset token.stop slice ∧
    token.literal = if slice = [] then none else some (String.ofList slice)

theorem Token.length_eq {token : Token τ} {slice : List Char}
    (h : token.literal = if slice = [] then none else some (String.ofList slice)) :
    token.length = width slice := by
  rw [Token.length, h]
  split
  case isTrue hslice => rw [hslice, Option.map_none, Option.getD_none, width_nil]
  case isFalse => rw [Option.map_some, Option.getD_some, utf8ByteSize_ofList]

namespace Lexer

theorem stop_tokenOf (kind : τ) {extent : Extent} (h : extent.last ∈ extent.first.positions) :
    (tokenOf kind extent).stop = extent.last.offset := by
  rw [tokenOf_eq kind h, Token.stop, Token.length_eq rfl]
  exact (Cursor.offset_eq_add_width_upTo h).symm

theorem covers_tokenOf (kind : τ) {extent : Extent} (h : extent.last ∈ extent.first.positions) :
    (tokenOf kind extent).Covers extent.first.text := by
  refine ⟨extent.text, ?_, ?_⟩
  · rw [stop_tokenOf kind h]
    exact Cursor.isSlice_upTo h
  · rw [tokenOf_eq kind h]

theorem covers_endToken (lx : Lexer τ) : lx.endToken.Covers lx.cursor.text :=
  ⟨[], ⟨lx.cursor.text, [], by simp, rfl, rfl⟩, rfl⟩

/-- What holds of a lexer for `text` in every state. -/
structure Invariant (lexicon : Lexicon τ) (text : List Char) (lx : Lexer τ) : Prop where
  lexicon_eq : lx.lexicon = lexicon
  text_eq : lx.cursor.text = text
  lastMatch_le : ∀ last ∈ lx.lastMatch, last ≤ lx.cursor.offset
  offset_of_exhausted : lx.exhausted = true → lx.cursor.offset = width text
  current_of_exhausted : lx.exhausted = true → lx.current = some lx.endToken
  current_of_pending : lx.pending = true → ∃ token, lx.current = some token
  kind_of_current : ∀ token ∈ lx.current,
    token.kind = lexicon.sentinel ∨ token.kind ∈ lexicon.marks.map Prod.snd
  covers_of_current : ∀ token ∈ lx.current, token.Covers text
  stop_le_of_current : ∀ token ∈ lx.current, token.stop ≤ lx.cursor.offset

theorem invariant_ofText (lexicon : Lexicon τ) (name : Option String) (text : String) :
    (ofText lexicon name text).Invariant lexicon text.toList where
  lexicon_eq := rfl
  text_eq := rfl
  lastMatch_le := nofun
  offset_of_exhausted := nofun
  current_of_exhausted := nofun
  current_of_pending := nofun
  kind_of_current := nofun
  covers_of_current := nofun
  stop_le_of_current := nofun

namespace Invariant

variable {lexicon : Lexicon τ} {text : List Char} {lx : Lexer τ}
  (h : lx.Invariant lexicon text)

include h

theorem boundary : Boundary text lx.cursor.offset := h.text_eq ▸ lx.cursor.boundary

theorem sentinel_eq : lx.sentinel = lexicon.sentinel := congrArg Lexicon.sentinel h.lexicon_eq

theorem finish : lx.finish.Invariant lexicon text where
  lexicon_eq := h.lexicon_eq
  text_eq := (Cursor.text_toEnd lx.cursor).trans h.text_eq
  lastMatch_le last hlast := by
    calc
      last ≤ lx.cursor.offset := h.lastMatch_le last hlast
      _ ≤ width lx.cursor.text := lx.cursor.boundary.le_width
      _ = lx.finish.cursor.offset := (Cursor.offset_toEnd lx.cursor).symm
  offset_of_exhausted _ := by
    rw [Lexer.finish, Cursor.offset_toEnd, h.text_eq]
  current_of_exhausted _ := by
    simp only [Lexer.finish, endToken, sentinel, Cursor.text_toEnd]
  current_of_pending _ := ⟨lx.endToken, rfl⟩
  kind_of_current token htoken := by
    obtain rfl := Option.some.inj htoken
    exact .inl h.sentinel_eq
  covers_of_current token htoken := by
    obtain rfl := Option.some.inj htoken
    exact h.text_eq ▸ lx.covers_endToken
  stop_le_of_current token htoken := by
    obtain rfl := Option.some.inj htoken
    exact Nat.le_of_eq (Cursor.offset_toEnd lx.cursor).symm

theorem taken : { lx with pending := false }.Invariant lexicon text :=
  { h with current_of_pending := nofun }

theorem putBack {token : Token τ} (hcurrent : lx.current = some token) :
    lx.putBack.Invariant lexicon text :=
  { h with current_of_pending := fun _ ↦ ⟨token, hcurrent⟩ }

end Invariant

/-- The group that tells a match's rule lies inside the match. -/
theorem Admits.inside_of_identify? {lx : Lexer τ} {found : Match} (h : lx.Admits found) {kind : τ}
    {extent : Extent} (hidentify : lx.lexicon.identify? found = some (kind, extent)) :
    kind ∈ lx.lexicon.marks.map Prod.snd ∧ extent.Inside found.extent := by
  obtain ⟨mark, hmark, hgroup⟩ := List.exists_of_findSome?_eq_some hidentify
  obtain ⟨own, hown, hrule⟩ := Option.map_eq_some_iff.1 hgroup
  obtain ⟨rfl, rfl⟩ := Prod.mk.inj hrule
  obtain ⟨cursor, hsearch⟩ := h.search_eq
  exact ⟨List.mem_map_of_mem hmark, Pattern.group?_inside_of_search? hsearch hown⟩

theorem Admits.first_text_eq {lx : Lexer τ} {found : Match} (h : lx.Admits found) {extent : Extent}
    (hinside : extent.Inside found.extent) : extent.first.text = lx.cursor.text :=
  (Cursor.text_of_mem_positions hinside.first_mem).trans
    (Cursor.text_of_mem_positions h.first_mem)

namespace Invariant

variable {lexicon : Lexicon τ} {text : List Char} {lx : Lexer τ}
  (h : lx.Invariant lexicon text)

include h

theorem accept {found : Match} (hadmits : lx.Admits found) (hexhausted : lx.exhausted = false)
    (hpending : lx.pending = false) : (lx.accept found).2.Invariant lexicon text := by
  have htext : found.extent.last.text = text := hadmits.text_eq.trans h.text_eq
  have hahead := Cursor.mem_positions_trans hadmits.first_mem hadmits.last_mem
  rcases lx.accept_cases found with ⟨place, haccept⟩ | ⟨kind, extent, hidentify, haccept⟩
  · rw [haccept]
    exact
      { h with
        text_eq := htext
        lastMatch_le := fun last hlast ↦ Nat.le_of_eq (Option.some.inj hlast).symm
        offset_of_exhausted := fun hyes ↦ absurd hyes (by simp [hexhausted])
        current_of_exhausted := fun hyes ↦ absurd hyes (by simp [hexhausted])
        stop_le_of_current := fun token htoken ↦
          (h.stop_le_of_current token htoken).trans (Cursor.offset_le hahead) }
  · obtain ⟨hkind, hinside⟩ := hadmits.inside_of_identify? hidentify
    have hfirst : extent.first.text = text := (hadmits.first_text_eq hinside).trans h.text_eq
    rw [haccept]
    exact
      { lexicon_eq := h.lexicon_eq
        text_eq := htext
        lastMatch_le := fun last hlast ↦ Nat.le_of_eq (Option.some.inj hlast).symm
        offset_of_exhausted := fun hyes ↦ absurd hyes (by simp [hexhausted])
        current_of_exhausted := fun hyes ↦ absurd hyes (by simp [hexhausted])
        current_of_pending := fun hyes ↦ absurd hyes (by simp [hpending])
        kind_of_current := fun token htoken ↦ by
          obtain rfl := Option.some.inj htoken
          exact .inr (h.lexicon_eq ▸ hkind)
        covers_of_current := fun token htoken ↦ by
          obtain rfl := Option.some.inj htoken
          exact hfirst ▸ covers_tokenOf kind hinside.last_mem
        stop_le_of_current := fun token htoken ↦ by
          obtain rfl := Option.some.inj htoken
          rw [stop_tokenOf kind hinside.last_mem]
          exact Cursor.offset_le hinside.end_mem }

theorem advance : lx.advance.2.Invariant lexicon text := by
  rcases lx.advance_cases with ⟨-, hadvance⟩ | ⟨-, hadvance⟩ |
    ⟨hpending, hexhausted, found, hadmits, hadvance⟩
  · rw [hadvance]
    exact h.taken
  · rw [hadvance]
    exact h.finish
  · rw [hadvance]
    exact h.accept hadmits hexhausted hpending

theorem of_advance {result : Except (Fault τ) τ} {next : Lexer τ}
    (hadvance : lx.advance = (result, next)) : next.Invariant lexicon text := by
  have hnext := h.advance
  rwa [hadvance] at hnext

/-- A token that is delivered is the current one. -/
theorem current_of_delivers {token : Token τ} {next : Lexer τ} (hdelivers : lx.Delivers token next) :
    next.current = some token := by
  have hcurrent : ∃ current, next.current = some current := by
    have hadvance' := hdelivers.advance_eq
    rcases lx.advance_cases with ⟨hpending, hadvance⟩ | ⟨-, hadvance⟩ | ⟨-, -, found, -, hadvance⟩
    · obtain ⟨-, rfl⟩ := Prod.mk.inj (hadvance.symm.trans hadvance')
      exact h.current_of_pending hpending
    · obtain ⟨-, rfl⟩ := Prod.mk.inj (hadvance.symm.trans hadvance')
      exact ⟨_, rfl⟩
    · rcases lx.accept_cases found with ⟨place, haccept⟩ | ⟨kind, extent, -, haccept⟩
      · simp [hadvance, haccept] at hadvance'
      · obtain ⟨-, rfl⟩ := Prod.mk.inj ((hadvance.trans haccept).symm.trans hadvance')
        exact ⟨_, rfl⟩
  obtain ⟨current, hcurrent⟩ := hcurrent
  rw [hcurrent, ← hdelivers.currentOrEnd_eq, currentOrEnd, hcurrent, Option.getD_some]

variable [DecidableEq τ]

theorem call (call : Call τ) : (lx.call call).2.Invariant lexicon text := by
  rcases lx.call_snd_cases call with hcall | hcall | ⟨token, next, hdelivers, hcall⟩
  · rwa [hcall]
  · rw [hcall]
    exact h.advance
  · rw [hcall]
    exact (h.of_advance hdelivers.advance_eq).putBack (h.current_of_delivers hdelivers)

theorem after (calls : List (Call τ)) : (lx.after calls).Invariant lexicon text :=
  after_induction (fun _ call hlx ↦ hlx.call call) h calls

end Invariant

/-! ## Where the text is cut -/

/-- The offsets between which a scan cuts the text: what follows each position that it searches
from, and the literal of the token that it finds. -/
def cuts (lx : Lexer τ) : List (Nat × Nat) :=
  lx.searches.map (fun cur ↦ (cur.offset, width lx.cursor.text)) ++
    ((lx.found?.bind lx.lexicon.identify?).map fun rule ↦
      (rule.2.first.offset, rule.2.last.offset)).toList

theorem Invariant.isSlice_of_mem_cuts {lexicon : Lexicon τ} {text : List Char} {lx : Lexer τ}
    (h : lx.Invariant lexicon text) {cut : Nat × Nat} (hcut : cut ∈ lx.cuts) :
    ∃ slice, IsSlice text cut.1 cut.2 slice := by
  rcases List.mem_append.1 hcut with hcut | hcut
  · obtain ⟨cur, hcur, rfl⟩ := List.mem_map.1 hcut
    have hahead : cur ∈ lx.cursor.positions := by
      rw [searches] at hcur
      split at hcur
      · cases hcur
      · exact mem_positions_of_mem_hunt hcur
    rw [← h.text_eq, ← Cursor.text_of_mem_positions hahead]
    exact cur.boundary.isSlice_to_end
  · obtain ⟨rule, hrule, rfl⟩ := Option.map_eq_some_iff.1 (Option.mem_toList.1 hcut)
    obtain ⟨found, hfound, hidentify⟩ := Option.bind_eq_some_iff.1 hrule
    obtain ⟨-, hadmits⟩ := admits_of_found? hfound
    obtain ⟨-, hinside⟩ := hadmits.inside_of_identify? hidentify
    have htext : rule.2.first.text = text := (hadmits.first_text_eq hinside).trans h.text_eq
    exact ⟨rule.2.text, htext ▸ Cursor.isSlice_upTo hinside.last_mem⟩

/-- A fault of an operation has its place in the text, and starts between two characters. -/
theorem Invariant.boundary_of_fault [DecidableEq τ] {lexicon : Lexicon τ} {text : List Char}
    {lx : Lexer τ} (h : lx.Invariant lexicon text) {call : Call τ} {fault : Fault τ}
    (hfault : (lx.call call).1 = .fault fault) :
    ∃ place what, fault.label? = some (place, what) ∧ place.text = String.ofList text ∧
      Boundary text place.offset := by
  rcases fault_cases hfault with ⟨next, hadvance⟩ | ⟨expected, token, next, -, hdelivers, -, rfl⟩
  · obtain ⟨-, found, hfound, -, rfl, -⟩ := advance_eq_error hadvance
    have hfirst := (admits_of_found? hfound).2.first_mem
    refine ⟨_, _, rfl, congrArg String.ofList h.text_eq, ?_⟩
    rw [← h.text_eq, ← Cursor.text_of_mem_positions hfirst]
    exact found.extent.first.boundary
  · have hnext := h.of_advance hdelivers.advance_eq
    obtain ⟨slice, hslice, -⟩ := hnext.covers_of_current token (h.current_of_delivers hdelivers)
    refine ⟨_, _, rfl, congrArg String.ofList hnext.text_eq, ?_⟩
    rw [currentPlace, hdelivers.currentOrEnd_eq]
    exact hslice.boundary_first

/-- Whatever is done with a lexer, and whether or not the marks of its lexicon are in step with the
groups of its pattern, its state stays within the text, and the text is cut between two characters
only: in the next scan, and for the line of the next fault. The tokens of a lexicon that was read
from rules are those of the rules. -/
theorem within_text_after_run [DecidableEq τ] (lexicon : Lexicon τ) (name : Option String)
    (text : String) (calls : List (Call τ)) :
    let lx := (ofText lexicon name text).after calls
    let chars := text.toList
    (Boundary chars lx.cursor.offset ∧ lx.cursor.offset ≤ width chars) ∧
    (∀ last ∈ lx.lastMatch, last ≤ lx.cursor.offset) ∧
    (lx.exhausted = true →
      lx.cursor.offset = width chars ∧
        lx.current = some ⟨lexicon.sentinel, none, width chars⟩) ∧
    (lx.pending = true → ∃ token, lx.current = some token) ∧
    (∀ token ∈ lx.current,
      (token.kind = lexicon.sentinel ∨ token.kind ∈ lexicon.marks.map Prod.snd) ∧
      token.Covers chars ∧ token.stop ≤ lx.cursor.offset) ∧
    (∀ cut ∈ lx.cuts, ∃ slice, IsSlice chars cut.1 cut.2 slice) ∧
    (∀ call fault, (lx.call call).1 = .fault fault →
      ∃ place what slice, fault.label? = some (place, what) ∧ place.text = text ∧
        IsSlice chars 0 (min place.offset (width chars)) slice ∧
        place.line = 1 + slice.count '\n') ∧
    ∀ properties sentinel rules, Lexicon.ofRules? sentinel rules properties = .ok lexicon →
      lexicon.sentinel = sentinel ∧ lexicon.marks.map Prod.snd = rules.map Rule.token := by
  intro lx chars
  have h : lx.Invariant lexicon chars := (invariant_ofText lexicon name text).after calls
  refine ⟨⟨h.boundary, h.boundary.le_width⟩, h.lastMatch_le, ?atEnd, h.current_of_pending, ?current,
    fun cut ↦ h.isSlice_of_mem_cuts, ?faults, fun _ _ _ ↦ Lexicon.tokens_of_ofRules?⟩
  case atEnd =>
    intro hexhausted
    refine ⟨h.offset_of_exhausted hexhausted, (h.current_of_exhausted hexhausted).trans ?_⟩
    rw [endToken, h.sentinel_eq, h.text_eq]
  case current =>
    intro token htoken
    exact ⟨h.kind_of_current token htoken, h.covers_of_current token htoken,
      h.stop_le_of_current token htoken⟩
  case faults =>
    intro call fault hfault
    obtain ⟨place, what, hlabel, htext, hboundary⟩ := h.boundary_of_fault hfault
    have hmin : min place.offset (width chars) = place.offset :=
      Nat.min_eq_left hboundary.le_width
    obtain ⟨before, behind, hchars, hoffset⟩ := hboundary
    refine ⟨place, what, before, hlabel, htext.trans String.ofList_toList, ?_, ?_⟩
    · rw [hmin, hoffset]
      exact ⟨[], behind, hchars, rfl, (Nat.zero_add _).symm⟩
    · rw [Place.line, htext, String.toList_ofList, hchars, hoffset, takeWidth_width_append]

/-- The comment that ends the first pattern takes up the start of the second one, so that the last
rule's mark is the number of no group. Its match is a fault, behind a character of two bytes. -/
theorem within_text_after_unmarked_match :
    ∃ lexicon, Lexicon.ofRules? "end" [⟨"A", "(?x)a#"⟩, ⟨"B", "#\n|(q)"⟩, ⟨"C", "c"⟩] =
        .ok lexicon ∧
      let lx := (ofText lexicon none "\néqc").after [.peek, .next]
      Boundary "\néqc".toList lx.cursor.offset ∧
      (∀ token ∈ lx.current, token.Covers "\néqc".toList ∧ token.stop ≤ lx.cursor.offset) ∧
      ∃ place what, (lx.call .advance).1 = .fault (.unidentified place) ∧
        (Fault.unidentified place : Fault String).label? = some (place, what) ∧ place.line = 2 := by
  let lexicon : Lexicon String :=
    ⟨"end", .alt (.group 1 (.alt (.literal ['a']) (.group 2 (.literal ['q']))))
      (.group 3 (.literal ['c'])), [(1, "A"), (2, "B"), (4, "C")]⟩
  have hrules : Lexicon.ofRules? "end" [⟨"A", "(?x)a#"⟩, ⟨"B", "#\n|(q)"⟩, ⟨"C", "c"⟩] =
      .ok lexicon := by cbv
  obtain ⟨⟨hboundary, -⟩, -, -, -, hcurrent, -, hfaults, -⟩ :=
    within_text_after_run lexicon none "\néqc" [.peek, .next]
  have hfault : (((ofText lexicon none "\néqc").after [.peek, .next]).call .advance).1 =
      .fault (.unidentified ⟨"<input>", "\néqc", 4, 1⟩) := by cbv
  obtain ⟨place, what, slice, hlabel, -⟩ := hfaults .advance _ hfault
  obtain ⟨rfl, -⟩ := Prod.mk.inj (Option.some.inj hlabel)
  exact ⟨lexicon, hrules, hboundary, fun token htoken ↦ (hcurrent token htoken).2, _, what, hfault,
    hlabel, by cbv⟩

end Lexer

end OperatorGrammar
