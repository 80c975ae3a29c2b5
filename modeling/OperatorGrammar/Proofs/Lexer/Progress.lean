import Mathlib
import OperatorGrammar.Proofs.Lexer.Invariant

/-!
# Progress

Of the matches that the scans of a run accept, each one ends behind the one before it, and a scan
that meets an empty match without progress meets no second one. Hence a text has no more matches than
positions, and no two tokens overlap.
-/

namespace OperatorGrammar.Lexer

variable {τ : Type}

/-- What one scan does: the positions that it searches from, the match that it accepts, if any, and
the token or the fault that comes of it. -/
structure Scanning (τ : Type) where
  searches : List Cursor
  found : Option Match
  result : Except (Fault τ) (Token τ)

def scanning (lx : Lexer τ) : Scanning τ where
  searches := lx.searches
  found := lx.found?
  result := lx.scan.1.map fun _ ↦ lx.scan.2.currentOrEnd

/-- Whether an operation asks for the next token. -/
def Call.reads : Call τ → Bool
  | advance => true
  | peek => true
  | expect _ => true
  | next => true
  | current => false

/-- The scan that an operation makes. It makes none if the token at hand is still to be taken. -/
def scanning? (lx : Lexer τ) (call : Call τ) : Option (Scanning τ) :=
  if call.reads && !lx.pending then some lx.scanning else none

/-- The scans that a run makes, in order. -/
def scans [DecidableEq τ] : Lexer τ → List (Call τ) → List (Scanning τ)
  | _, [] => []
  | lx, call :: calls => (lx.scanning? call).toList ++ (lx.call call).2.scans calls

/-- Where the accepted matches end. -/
def ends (scans : List (Scanning τ)) : List Nat :=
  scans.filterMap fun scan ↦ scan.found.map fun found ↦ found.extent.last.offset

def tokens (scans : List (Scanning τ)) : List (Token τ) :=
  scans.filterMap fun scan ↦ scan.result.toOption

/-! ## One scan -/

/-- How many more matches the scans of a lexer may accept. -/
def capacity (lx : Lexer τ) : Nat := if lx.exhausted then 0 else lx.room

theorem capacity_of_exhausted_eq_false {lx : Lexer τ} (h : lx.exhausted = false) :
    lx.capacity = lx.room := by
  rw [capacity, h, if_neg Bool.false_ne_true]

/-- What the scan of `lx` makes of it. -/
structure ScansTo (lx : Lexer τ) (scan : Scanning τ) (next : Lexer τ) : Prop where
  searches_le : scan.searches.length ≤ 2
  lastMatch_eq : next.lastMatch = (scan.found.map fun found ↦ found.extent.last.offset).or lx.lastMatch
  lastMatch_lt : ∀ found ∈ scan.found, ∀ last ∈ lx.lastMatch, last < found.extent.last.offset
  capacity_lt : ∀ found ∈ scan.found, next.capacity < lx.capacity
  capacity_le : next.capacity ≤ lx.capacity
  offset_le : lx.cursor.offset ≤ next.cursor.offset
  token_ahead : ∀ token, scan.result = .ok token →
    lx.cursor.offset ≤ token.offset ∧ token.stop ≤ next.cursor.offset
  result_of_found_eq_none : scan.found = none → scan.result = .ok lx.endToken

theorem Admits.lastMatch_lt {lx : Lexer τ} {found : Match} (h : lx.Admits found)
    (hle : ∀ last ∈ lx.lastMatch, last ≤ lx.cursor.offset) :
    ∀ last ∈ lx.lastMatch, last < found.extent.last.offset := by
  intro last hlast
  have hahead := Cursor.mem_positions_trans h.first_mem h.last_mem
  have hcursor := Cursor.offset_le hahead
  refine Nat.lt_of_le_of_ne ((hle last hlast).trans hcursor) fun heq ↦ ?_
  -- the match would end at the cursor, where the last one ended, and leave as much room
  have hoffset : found.extent.last.offset = lx.cursor.offset :=
    Nat.le_antisymm (heq ▸ hle last hlast) hcursor
  have hroom := h.lt_room
  rw [Cursor.eq_of_offset_eq hahead hoffset, room, if_pos] at hroom
  · exact Nat.lt_irrefl _ hroom
  · rw [Option.mem_def.1 hlast, heq, hoffset]

theorem Admits.capacity_lt {lx : Lexer τ} {found : Match} (h : lx.Admits found)
    (hexhausted : lx.exhausted = false) : (lx.accept found).2.capacity < lx.capacity := by
  obtain ⟨current, haccept⟩ := lx.accept_snd found
  rw [haccept, capacity_of_exhausted_eq_false hexhausted]
  simpa [capacity, hexhausted, room] using h.lt_room

/-- The token of a match lies in it. -/
theorem Admits.token_ahead {lx next : Lexer τ} {found : Match} {kind : τ} (h : lx.Admits found)
    (haccept : lx.accept found = (.ok kind, next)) :
    lx.cursor.offset ≤ next.currentOrEnd.offset ∧
      next.currentOrEnd.stop ≤ found.extent.last.offset := by
  rcases lx.accept_cases found with ⟨place, hfault⟩ | ⟨_, extent, hidentify, htoken⟩
  · cases hfault.symm.trans haccept
  · obtain ⟨-, hfirst, hlast, hend⟩ := h.inside_of_identify? hidentify
    obtain ⟨-, rfl⟩ := Prod.mk.inj (htoken.symm.trans haccept)
    constructor
    · exact Cursor.offset_le (Cursor.mem_positions_trans h.first_mem hfirst)
    · exact (stop_tokenOf _ hlast).trans_le (Cursor.offset_le hend)

section

variable {lexicon : Lexicon τ} {text : List Char} {lx : Lexer τ}
  (h : lx.Invariant lexicon text)

include h

theorem Invariant.length_searches_le : lx.scanning.searches.length ≤ 2 := by
  rw [scanning, searches]
  split
  · exact Nat.zero_le 2
  · exact length_hunt_le h.lastMatch_le

theorem Invariant.scansTo_of_finish (hfound : lx.found? = none) :
    lx.ScansTo lx.scanning lx.scan.2 := by
  have hscan : lx.scan = (.ok lx.sentinel, lx.finish) := by rw [scan_eq, hfound]
  have hresult : lx.scanning.result = .ok lx.endToken := by
    rw [scanning, hscan]
    rfl
  have hend : lx.cursor.offset ≤ width lx.cursor.text := lx.cursor.boundary.le_width
  have hfinish : lx.finish.cursor.offset = width lx.cursor.text := Cursor.offset_toEnd lx.cursor
  rw [hscan]
  exact
    { searches_le := h.length_searches_le
      lastMatch_eq := by
        rw [scanning, hfound]
        rfl
      lastMatch_lt := by simp [scanning, hfound]
      capacity_lt := by simp [scanning, hfound]
      capacity_le := Nat.zero_le _
      offset_le := hfinish ▸ hend
      token_ahead := fun token htoken ↦ by
        obtain rfl := Except.ok.inj (hresult.symm.trans htoken)
        exact ⟨hend, Nat.le_of_eq hfinish.symm⟩
      result_of_found_eq_none := fun _ ↦ hresult }

theorem Invariant.scansTo_of_accept {found : Match} (hfound : lx.found? = some found) :
    lx.ScansTo lx.scanning lx.scan.2 := by
  have hscan : lx.scan = lx.accept found := by rw [scan_eq, hfound]
  obtain ⟨hexhausted, hadmits⟩ := admits_of_found? hfound
  have hcapacity := hadmits.capacity_lt hexhausted
  obtain ⟨current, hnext⟩ := lx.accept_snd found
  have hcursor : (lx.accept found).2.cursor = found.extent.last := by rw [hnext]
  rw [hscan]
  exact
    { searches_le := h.length_searches_le
      lastMatch_eq := by
        rw [scanning, hfound, hnext]
        rfl
      lastMatch_lt := by simpa [scanning, hfound] using hadmits.lastMatch_lt h.lastMatch_le
      capacity_lt := fun _ _ ↦ hcapacity
      capacity_le := Nat.le_of_lt hcapacity
      offset_le := by
        rw [hcursor]
        exact Cursor.offset_le (Cursor.mem_positions_trans hadmits.first_mem hadmits.last_mem)
      token_ahead := fun token htoken ↦ by
        rw [scanning, hscan] at htoken
        rcases haccept : lx.accept found with ⟨fault | kind, next⟩
        · rw [haccept] at htoken
          cases htoken
        · rw [haccept] at htoken
          obtain rfl := Except.ok.inj htoken
          rw [← haccept, hcursor, haccept]
          exact hadmits.token_ahead haccept
      result_of_found_eq_none := by simp [scanning, hfound] }

/-- Every scan makes progress. -/
theorem Invariant.scansTo : lx.ScansTo lx.scanning lx.scan.2 := by
  cases hfound : lx.found? with
  | none => exact h.scansTo_of_finish hfound
  | some found => exact h.scansTo_of_accept hfound

end

/-! ## The scans of a run -/

theorem ends_cons (scan : Scanning τ) (scans : List (Scanning τ)) :
    ends (scan :: scans) =
      (scan.found.map fun found ↦ found.extent.last.offset).toList ++ ends scans := by
  rw [ends, List.filterMap_cons]
  cases scan.found <;> rfl

theorem tokens_cons (scan : Scanning τ) (scans : List (Scanning τ)) :
    tokens (scan :: scans) = scan.result.toOption.toList ++ tokens scans := by
  rw [tokens, List.filterMap_cons]
  cases scan.result <;> rfl

/-- What holds of the scans that start from `lx`. -/
structure Progresses (lx : Lexer τ) (scans : List (Scanning τ)) : Prop where
  searches_le : ∀ scan ∈ scans, scan.searches.length ≤ 2
  lastMatch_lt : ∀ stop ∈ ends scans, ∀ last ∈ lx.lastMatch, last < stop
  ends_increasing : (ends scans).Pairwise (· < ·)
  length_ends_le : (ends scans).length ≤ lx.capacity
  offset_le : ∀ token ∈ tokens scans, lx.cursor.offset ≤ token.offset
  tokens_apart : (tokens scans).Pairwise fun token later ↦ token.stop ≤ later.offset
  result_of_found_eq_none : ∀ scan ∈ scans, scan.found = none → scan.result = .ok lx.endToken

theorem progresses_nil (lx : Lexer τ) : lx.Progresses [] where
  searches_le := by simp
  lastMatch_lt := by simp [ends]
  ends_increasing := .nil
  length_ends_le := Nat.zero_le _
  offset_le := by simp [tokens]
  tokens_apart := .nil
  result_of_found_eq_none := by simp

theorem Progresses.cons {lx next : Lexer τ} {scan : Scanning τ} {scans : List (Scanning τ)}
    (hscans : next.Progresses scans) (h : lx.ScansTo scan next) (hsame : lx.SameText next) :
    lx.Progresses (scan :: scans) where
  searches_le := List.forall_mem_cons.2 ⟨h.searches_le, hscans.searches_le⟩
  lastMatch_lt := by
    intro stop hstop last hlast
    rw [ends_cons, List.mem_append] at hstop
    have hnext := h.lastMatch_eq
    cases hfound : scan.found with
    | none =>
      rw [hfound] at hstop hnext
      exact hscans.lastMatch_lt stop (by simpa using hstop) last (hnext ▸ hlast)
    | some found =>
      rw [hfound] at hstop hnext
      have hlt := h.lastMatch_lt found hfound last hlast
      rcases hstop with hstop | hstop
      · obtain rfl : found.extent.last.offset = stop := by simpa [eq_comm] using hstop
        exact hlt
      · exact hlt.trans (hscans.lastMatch_lt stop hstop _ hnext)
  ends_increasing := by
    rw [ends_cons]
    have hnext := h.lastMatch_eq
    cases hfound : scan.found with
    | none => exact hscans.ends_increasing
    | some found =>
      rw [hfound] at hnext
      exact .cons (fun stop hstop ↦ hscans.lastMatch_lt stop hstop _ hnext) hscans.ends_increasing
  length_ends_le := by
    rw [ends_cons]
    cases hfound : scan.found with
    | none => exact hscans.length_ends_le.trans h.capacity_le
    | some found => exact Nat.lt_of_le_of_lt hscans.length_ends_le (h.capacity_lt found hfound)
  offset_le := by
    intro token htoken
    rw [tokens_cons, List.mem_append] at htoken
    rcases htoken with htoken | htoken
    · cases hresult : scan.result with
      | error fault => simp [hresult, Except.toOption] at htoken
      | ok own =>
        obtain rfl : token = own := by simpa [hresult, Except.toOption] using htoken
        exact (h.token_ahead token hresult).1
    · exact h.offset_le.trans (hscans.offset_le token htoken)
  tokens_apart := by
    rw [tokens_cons]
    cases hresult : scan.result with
    | error fault => exact hscans.tokens_apart
    | ok own =>
      refine .cons (fun later hlater ↦ ?_) hscans.tokens_apart
      exact (h.token_ahead own hresult).2.trans (hscans.offset_le later hlater)
  result_of_found_eq_none := by
    refine List.forall_mem_cons.2 ⟨h.result_of_found_eq_none, ?_⟩
    rw [← hsame.endToken_eq]
    exact hscans.result_of_found_eq_none

/-- The lexer when the token at hand has been taken. -/
def taken (lx : Lexer τ) : Lexer τ := { lx with pending := false }

theorem Progresses.of_taken {lx lx' : Lexer τ} (h : lx'.taken = lx.taken)
    {scans : List (Scanning τ)} (hscans : lx'.Progresses scans) : lx.Progresses scans := by
  have htaken : lx.taken.Progresses scans := h ▸ { hscans with }
  exact { htaken with }

section

variable [DecidableEq τ]

theorem taken_call {lx : Lexer τ} {call : Call τ} (h : call.reads = true) :
    (lx.call call).2.taken = lx.advance.2.taken := by
  cases call with
  | advance => rfl
  | peek =>
    rcases hadvance : lx.advance with ⟨fault | kind, next⟩
    · rw [Lexer.call, peek_of_advance_error hadvance]
    · obtain ⟨token, -, hdelivers⟩ := delivers_of_advance hadvance
      rw [Lexer.call, hdelivers.peek_eq]
      rfl
  | expect expected => rw [Lexer.call, expect_snd]
  | next => rw [Lexer.call, next_snd]
  | current => cases h

/-- An operation either scans, or the lexer stays where it is. -/
theorem scanning?_cases (lx : Lexer τ) (call : Call τ) :
    (lx.scanning? call = none ∧ (lx.call call).2.taken = lx.taken) ∨
      (lx.scanning? call = some lx.scanning ∧ lx.pending = false ∧
        (lx.call call).2.taken = lx.scan.2.taken) := by
  rw [scanning?]
  cases hreads : call.reads with
  | false =>
    left
    cases call with
    | current => exact ⟨rfl, rfl⟩
    | _ => cases hreads
  | true =>
    rw [taken_call hreads, advance]
    cases hpending : lx.pending with
    | true => exact .inl ⟨rfl, rfl⟩
    | false => exact .inr ⟨rfl, rfl, rfl⟩

/-- A run makes progress, since each of its scans does and nothing else moves the lexer. -/
theorem Invariant.progresses {lexicon : Lexicon τ} {text : List Char} {lx : Lexer τ}
    (h : lx.Invariant lexicon text) (calls : List (Call τ)) : lx.Progresses (lx.scans calls) := by
  induction calls generalizing lx with
  | nil => exact progresses_nil lx
  | cons call calls ih =>
    have hrest := ih (h.call call)
    rw [Lexer.scans]
    rcases lx.scanning?_cases call with ⟨hscanning, htaken⟩ | ⟨hscanning, hpending, htaken⟩
    · rw [hscanning]
      exact hrest.of_taken htaken
    · have hsame : lx.SameText lx.scan.2 := by
        have hadvance := lx.sameText_advance
        rwa [Lexer.advance, if_neg (by simp [hpending])] at hadvance
      rw [hscanning]
      exact (hrest.of_taken htaken).cons h.scansTo hsame

/-- In every run, each accepted match ends behind the one before it, so that there are at most as
many as positions in the text; what comes of all other scans is the end of the text. No scan
searches more than twice, and the tokens do not overlap. -/
theorem ends_increasing_of_run (lexicon : Lexicon τ) (name : Option String) (text : String)
    (calls : List (Call τ)) :
    let scans := (ofText lexicon name text).scans calls
    (ends scans).Pairwise (· < ·) ∧ (ends scans).length ≤ text.length + 1 ∧
    (∀ scan ∈ scans, scan.found = none →
      scan.result = .ok ⟨lexicon.sentinel, none, width text.toList⟩) ∧
    (∀ scan ∈ scans, scan.searches.length ≤ 2) ∧
    (tokens scans).Pairwise fun token later ↦
      token.stop ≤ later.offset ∧ token.offset ≤ later.offset := by
  intro scans
  have h : (ofText lexicon name text).Progresses scans :=
    (invariant_ofText lexicon name text).progresses calls
  refine ⟨h.ends_increasing, ?_, h.result_of_found_eq_none, h.searches_le, ?_⟩
  · calc
      (ends scans).length ≤ (ofText lexicon name text).capacity := h.length_ends_le
      _ = text.length + 1 := by
        rw [← String.length_toList]
        rfl
  · refine h.tokens_apart.imp fun hle ↦ ⟨hle, ?_⟩
    exact (Nat.le_add_right _ _).trans hle

end

/-- The empty match at the start is met again and passed over; the one at the end of the text ends the
run. -/
example :
    let lexicon : Lexicon String :=
      ⟨"end", .group 1 (.rep true 0 none (.literal ['a'])), [(1, "a")]⟩
    let scans := (ofText lexicon none "baa").scans [.peek, .next, .advance, .expect "a"]
    ends scans = [0, 3] ∧ scans.map (·.searches.length) = [1, 2, 1] := by
  cbv

end OperatorGrammar.Lexer
