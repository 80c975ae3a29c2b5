import Mathlib.Data.List.Chain
import OperatorGrammar.Proofs.Calc.Lexicon
import OperatorGrammar.Proofs.Pattern.Runs

/-!
# Writing the tokens of the calculator

A text that is made from marks and numbers, with any other characters between them, is read as these
marks and numbers, unless two numbers stand next to each other.
-/

namespace OperatorGrammar.Calc

/-- The character of a token that is always written in the same way. -/
def Symbol.char? : Symbol → Option Char
  | plus => some '+'
  | minus => some '-'
  | star => some '*'
  | slash => some '/'
  | leftParen => some '('
  | rightParen => some ')'
  | number | eof => none

/-- A natural number of any size in decimal; it may start with zeros. -/
structure Numeral where
  chars : List Char
  ne_nil : chars ≠ []
  isDigit : ∀ c ∈ chars, c.isDigit = true

inductive Lexeme where
  | mark (kind : Symbol) (char : Char) (h : kind.char? = some char)
  | number (numeral : Numeral)

namespace Lexeme

def kind : Lexeme → Symbol
  | mark kind _ _ => kind
  | number _ => .number

def chars : Lexeme → List Char
  | mark _ char _ => [char]
  | number numeral => numeral.chars

def IsNumber : Lexeme → Prop
  | mark .. => False
  | number _ => True

/-- What the token of a lexeme tells besides its place. -/
def content (lexeme : Lexeme) : Symbol × Option String :=
  (lexeme.kind, some (String.ofList lexeme.chars))

/-- The token of a lexeme that stands at this offset. -/
def token (lexeme : Lexeme) (offset : Nat) : Token Symbol :=
  ⟨lexeme.kind, some (String.ofList lexeme.chars), offset⟩

theorem chars_ne_nil (lexeme : Lexeme) : lexeme.chars ≠ [] := by
  cases lexeme with
  | mark kind char h => simp [chars]
  | number numeral => exact numeral.ne_nil

theorem kind_ne_eof (lexeme : Lexeme) : lexeme.kind ≠ .eof := by
  cases lexeme with
  | number numeral => exact nofun
  | mark kind char hchar =>
    rintro (rfl : kind = .eof)
    cases hchar

end Lexeme

def content (token : Token Symbol) : Symbol × Option String := (token.kind, token.literal)

/-- A character that belongs to no token. -/
def Filler (c : Char) : Prop := c.isDigit = false ∧ ∀ kind : Symbol, kind.char? ≠ some c

/-- What may stand between two tokens. -/
structure Gap where
  chars : List Char
  filler : ∀ c ∈ chars, Filler c

/-- The text of some lexemes, with a gap in front of each and one behind the last. -/
def layout (gaps : Nat → Gap) : Nat → List Lexeme → List Char
  | index, [] => (gaps index).chars
  | index, lexeme :: rest =>
    (gaps index).chars ++ (lexeme.chars ++ layout gaps (index + 1) rest)

/-! ## One attempt -/

theorem contains_digit (c : Char) : (⟨[48, 58]⟩ : CharSet).contains c = c.isDigit := by
  have hdigit : c.isDigit = (decide (48 ≤ c.toNat) && decide (c.toNat ≤ 57)) := rfl
  rw [hdigit]
  simp only [CharSet.contains, CharSet.insideFrom]
  by_cases hlow : c.toNat < 48
  · rw [if_pos hlow, decide_eq_false (by omega)]
    rfl
  · rw [if_neg hlow, decide_eq_true (by omega), Bool.true_and]
    by_cases hhigh : c.toNat < 58
    · rw [if_pos hhigh, decide_eq_true (by omega)]
      rfl
    · rw [if_neg hhigh, decide_eq_false (by omega)]
      rfl

/-- No number goes on in front of this text. -/
def NoDigit (rest : List Char) : Prop := ∀ c ∈ rest.head?, c.isDigit = false

theorem stops_of_noDigit {rest : List Char} (h : NoDigit rest) :
    Pattern.Stops ⟨[48, 58]⟩ rest :=
  fun c hc ↦ (contains_digit c).trans (h c hc)

section

variable {cur : Cursor} {c : Char} {rest : List Char}

theorem attempt?_mark {kind : Symbol} (h : kind.char? = some c) (hafter : cur.after = c :: rest) :
    Lexicon.attempt? patterns cur = some (kind, ⟨cur, cur.step c rest⟩) := by
  cases kind <;> cases h <;>
    simp [patterns, Lexicon.attempt?_cons, Pattern.matchAt?_literal_singleton, hafter]

/-- Where no mark stands, only a number can be found. -/
theorem attempt?_of_no_mark (h : ∀ kind : Symbol, ∀ c ∈ cur.after.head?, kind.char? ≠ some c) :
    Lexicon.attempt? patterns cur =
      (digits.matchAt? cur).map fun found ↦ (.number, found.extent) := by
  have hnone (kind : Symbol) (c : Char) (hc : kind.char? = some c) :
      (Pattern.literal [c]).matchAt? cur = none := by
    rw [Pattern.matchAt?_literal_singleton]
    cases hafter : cur.after with
    | nil => rfl
    | cons d rest =>
      dsimp only
      rw [if_neg]
      rintro rfl
      exact h kind d (by rw [hafter]; rfl) hc
  simp only [patterns, Lexicon.attempt?_cons, hnone .plus '+' rfl, hnone .minus '-' rfl,
    hnone .star '*' rfl, hnone .slash '/' rfl, hnone .leftParen '(' rfl, hnone .rightParen ')' rfl]
  cases digits.matchAt? cur <;> rfl

theorem char?_ne_of_isDigit (h : c.isDigit = true) (kind : Symbol) : kind.char? ≠ some c := by
  cases kind <;> rintro ⟨⟩ <;> cases h

/-- At a lexeme exactly this lexeme is found, unless a number goes on behind it. -/
theorem attempt?_lexeme (lexeme : Lexeme) (hafter : cur.after = lexeme.chars ++ rest)
    (hrest : lexeme.IsNumber → NoDigit rest) :
    ∃ last ∈ cur.positions, last.after = rest ∧
      Lexicon.attempt? patterns cur = some (lexeme.kind, ⟨cur, last⟩) := by
  cases lexeme with
  | mark kind c h =>
    have hnext : cur.advance? = some (c, cur.step c rest) :=
      Cursor.advance?_eq_some_iff.2 ⟨rest, hafter, rfl⟩
    exact ⟨cur.step c rest, Cursor.mem_positions_of_advance? hnext, rfl, attempt?_mark h hafter⟩
  | number numeral =>
    have hmark (kind : Symbol) : ∀ c ∈ cur.after.head?, kind.char? ≠ some c := by
      intro c hc
      obtain ⟨d, digits, hdigits⟩ := List.exists_cons_of_ne_nil numeral.ne_nil
      have hmem : d ∈ numeral.chars := hdigits ▸ List.mem_cons_self
      rw [hafter, Lexeme.chars, hdigits] at hc
      obtain rfl : d = c := Option.some.inj hc
      exact char?_ne_of_isDigit (numeral.isDigit d hmem) kind
    have hdigits : ∀ c ∈ numeral.chars, (⟨[48, 58]⟩ : CharSet).contains c = true :=
      fun c hc ↦ (contains_digit c).trans (numeral.isDigit c hc)
    obtain ⟨last, hlast, hlastAfter, hmatch⟩ :=
      Pattern.matchAt?_run numeral.ne_nil hdigits (stops_of_noDigit (hrest trivial)) hafter
    refine ⟨last, hlast, hlastAfter, ?_⟩
    rw [attempt?_of_no_mark hmark, digits, hmatch]
    rfl

theorem attempt?_of_filler (h : ∀ c ∈ cur.after.head?, Filler c) :
    Lexicon.attempt? patterns cur = none := by
  rw [attempt?_of_no_mark fun kind c hc ↦ (h c hc).2 kind, digits,
    Pattern.matchAt?_run_of_stops (stops_of_noDigit fun c hc ↦ (h c hc).1)]
  rfl

/-- Characters that belong to no token are passed over. -/
theorem findSome?_attempt?_filler {chars : List Char} (hchars : ∀ c ∈ chars, Filler c)
    (hafter : cur.after = chars ++ rest) :
    ∃ start ∈ cur.positions, start.after = rest ∧
      cur.positions.findSome? (Lexicon.attempt? patterns) =
        start.positions.findSome? (Lexicon.attempt? patterns) := by
  induction chars generalizing cur with
  | nil => exact ⟨cur, cur.mem_positions_self, hafter, rfl⟩
  | cons c chars ih =>
    have hnext : cur.advance? = some (c, cur.step c (chars ++ rest)) :=
      Cursor.advance?_eq_some_iff.2 ⟨_, hafter, rfl⟩
    have hstep : (cur.step c (chars ++ rest)).after = chars ++ rest := rfl
    obtain ⟨start, hstart, hstartAfter, hfind⟩ :=
      ih (fun d hd ↦ hchars d (List.mem_cons_of_mem c hd)) hstep
    refine ⟨start, Cursor.mem_positions_trans (Cursor.mem_positions_of_advance? hnext) hstart,
      hstartAfter, ?_⟩
    rw [Cursor.positions_of_advance? hnext, List.findSome?_cons, attempt?_of_filler, hfind]
    intro d hd
    rw [hafter] at hd
    obtain rfl : c = d := Option.some.inj hd
    exact hchars c List.mem_cons_self

end

/-! ## All lexemes of a text -/

section

variable {lx : Lexer Symbol} {gap : Gap}

/-- A lexer of the calculator that reads on at its cursor. -/
structure Ready (lx : Lexer Symbol) : Prop where
  lexicon_eq : lx.lexicon = lexicon
  pending_eq : lx.pending = false
  exhausted_eq : lx.exhausted = false

theorem Ready.separates (h : Ready lx) : lx.lexicon.Separates patterns :=
  h.lexicon_eq ▸ separates_patterns

theorem Ready.advance_eq (h : Ready lx) : lx.advance = lx.seek := by
  simp only [Lexer.advance, Lexer.scan, h.pending_eq, h.exhausted_eq, Bool.false_eq_true, if_false]

theorem shows_of_gap (h : Ready lx) (hafter : lx.cursor.after = gap.chars) : lx.Shows [] := by
  rw [← List.append_nil gap.chars] at hafter
  obtain ⟨start, -, hstart, hfind⟩ := findSome?_attempt?_filler gap.filler hafter
  have hnone : start.positions.findSome? (Lexicon.attempt? patterns) = none := by
    have hend : start.advance? = none := by simp [Cursor.advance?, hstart]
    have hattempt : Lexicon.attempt? patterns start = none := by
      apply attempt?_of_filler
      simp [hstart]
    rw [Cursor.positions_eq, hend, List.findSome?_cons, hattempt]
    rfl
  have hseek := Lexer.seek_of_forall_eq_none h.separates (hfind.trans hnone)
  exact .nil_of_delivers ⟨h.advance_eq.trans hseek, rfl, h.pending_eq⟩

/-- The first lexeme of a text is the next token, and the lexer reads on behind it. -/
theorem delivers_lexeme (h : Ready lx) (lexeme : Lexeme) {rest : List Char}
    (hafter : lx.cursor.after = gap.chars ++ (lexeme.chars ++ rest))
    (hrest : lexeme.IsNumber → NoDigit rest) :
    ∃ next, lx.Delivers (lexeme.token (lx.cursor.offset + width gap.chars)) next ∧ Ready next ∧
      next.cursor.after = rest ∧
      next.cursor.offset = lx.cursor.offset + width gap.chars + width lexeme.chars := by
  obtain ⟨start, hstart, hstartAfter, hfind⟩ := findSome?_attempt?_filler gap.filler hafter
  obtain ⟨last, hlast, hlastAfter, hattempt⟩ := attempt?_lexeme lexeme hstartAfter hrest
  have hsome : lx.cursor.positions.findSome? (Lexicon.attempt? patterns) =
      some (lexeme.kind, ⟨start, last⟩) := by
    rw [hfind, Cursor.positions_eq, List.findSome?_cons, hattempt]
  have htext : start.upTo last = lexeme.chars := by
    rw [← hlastAfter] at hstartAfter
    exact Cursor.upTo_eq_of_after hlast hstartAfter
  have hstartOffset : start.offset = lx.cursor.offset + width gap.chars := by
    rw [← hstartAfter] at hafter
    rw [Cursor.offset_eq_add_width_upTo hstart, Cursor.upTo_eq_of_after hstart hafter]
  have hlastOffset : last.offset = start.offset + width lexeme.chars := by
    rw [Cursor.offset_eq_add_width_upTo hlast, htext]
  have hmoves : ¬(start.offset = last.offset ∧ lx.lastMatch = some last.offset) := by
    have hpos : 0 < width lexeme.chars := width_pos lexeme.chars_ne_nil
    omega
  have hseek := Lexer.seek_of_findSome? h.separates hsome
  rw [if_neg hmoves] at hseek
  have htoken : Lexer.tokenOf lexeme.kind ⟨start, last⟩ =
      lexeme.token (lx.cursor.offset + width gap.chars) := by
    have hliteral : Extent.text ⟨start, last⟩ = lexeme.chars := htext
    rw [Lexer.tokenOf_eq lexeme.kind hlast, hliteral, if_neg lexeme.chars_ne_nil, hstartOffset]
    rfl
  refine ⟨lx.deliver lexeme.kind ⟨start, last⟩, ⟨h.advance_eq.trans hseek, htoken, h.pending_eq⟩,
    ⟨h.lexicon_eq, h.pending_eq, h.exhausted_eq⟩, hlastAfter, ?_⟩
  rw [← hstartOffset]
  exact hlastOffset

end

/-- No two numbers stand next to each other. -/
def Apart (lexemes : List Lexeme) : Prop :=
  lexemes.IsChain fun lexeme next ↦ ¬(lexeme.IsNumber ∧ next.IsNumber)

theorem noDigit_layout (gaps : Nat → Gap) (index : Nat) {lexemes : List Lexeme}
    (h : ∀ lexeme ∈ lexemes.head?, ¬lexeme.IsNumber) : NoDigit (layout gaps index lexemes) := by
  intro c hc
  cases hgap : (gaps index).chars with
  | cons d chars =>
    have hfiller := (gaps index).filler d (hgap ▸ List.mem_cons_self)
    cases lexemes <;> rw [layout, hgap] at hc <;> obtain rfl : d = c := Option.some.inj hc <;>
      exact hfiller.1
  | nil =>
    cases lexemes with
    | nil =>
      rw [layout, hgap] at hc
      cases hc
    | cons lexeme rest =>
      rw [layout, hgap, List.nil_append] at hc
      cases lexeme with
      | number numeral => exact absurd trivial (h _ rfl)
      | mark kind char hchar =>
        obtain rfl : char = c := Option.some.inj hc
        by_contra hdigit
        exact char?_ne_of_isDigit (by simpa using hdigit) kind hchar

/-- The tokens of a text from an offset on: lexemes with gaps around them, of which a number takes
all digits that there are. -/
inductive Scans : Nat → List Char → List (Token Symbol) → Prop where
  | gap {offset : Nat} (gap : Gap) : Scans offset gap.chars []
  | lexeme {offset : Nat} {rest : List Char} {tokens : List (Token Symbol)} (gap : Gap)
      (lexeme : Lexeme) : (lexeme.IsNumber → NoDigit rest) →
      Scans (offset + width gap.chars + width lexeme.chars) rest tokens →
      Scans offset (gap.chars ++ (lexeme.chars ++ rest))
        (lexeme.token (offset + width gap.chars) :: tokens)

theorem shows_of_scans {offset : Nat} {text : List Char} {tokens : List (Token Symbol)}
    (hscans : Scans offset text tokens) {lx : Lexer Symbol} (h : Ready lx)
    (hoffset : lx.cursor.offset = offset) (hafter : lx.cursor.after = text) : lx.Shows tokens := by
  induction hscans generalizing lx with
  | gap gap => exact shows_of_gap h hafter
  | lexeme gap lexeme hrest _ ih =>
    subst hoffset
    obtain ⟨next, hdelivers, hready, hnextAfter, hnextOffset⟩ :=
      delivers_lexeme h lexeme hafter hrest
    have hsentinel : lx.sentinel = .eof := congrArg Lexicon.sentinel h.lexicon_eq
    exact .cons_of_delivers hdelivers (hsentinel ▸ lexeme.kind_ne_eof)
      (ih hready hnextOffset hnextAfter)

theorem exists_scans_layout {gaps : Nat → Gap} {index : Nat} {lexemes : List Lexeme}
    (hapart : Apart lexemes) (offset : Nat) :
    ∃ tokens, Scans offset (layout gaps index lexemes) tokens ∧
      tokens.map content = lexemes.map Lexeme.content := by
  induction lexemes generalizing offset index with
  | nil => exact ⟨[], .gap (gaps index), rfl⟩
  | cons lexeme rest ih =>
    obtain ⟨hhead, hrest⟩ := List.isChain_cons.1 hapart
    have hnoDigit (hnumber : lexeme.IsNumber) : NoDigit (layout gaps (index + 1) rest) :=
      noDigit_layout gaps (index + 1) fun next hnext hnextNumber ↦
        hhead next hnext ⟨hnumber, hnextNumber⟩
    obtain ⟨tokens, hscans, hcontents⟩ :=
      ih hrest (offset + width (gaps index).chars + width lexeme.chars)
    refine ⟨_, .lexeme (gaps index) lexeme hnoDigit hscans, ?_⟩
    rw [List.map_cons, List.map_cons, hcontents]
    rfl

/-- The tokens of a text that was made from lexemes are these lexemes. -/
theorem exists_shows_layout {gaps : Nat → Gap} {index : Nat} {lexemes : List Lexeme}
    (hapart : Apart lexemes) {lx : Lexer Symbol} (h : Ready lx)
    (hafter : lx.cursor.after = layout gaps index lexemes) :
    ∃ tokens, lx.Shows tokens ∧ tokens.map content = lexemes.map Lexeme.content := by
  obtain ⟨tokens, hscans, hcontents⟩ := exists_scans_layout hapart lx.cursor.offset
  exact ⟨tokens, shows_of_scans hscans h rfl hafter, hcontents⟩

end OperatorGrammar.Calc
