import OperatorGrammar.Proofs.Calc.Lexemes
import OperatorGrammar.Proofs.Lexer.Drained

/-!
# A scanner written by hand

The tokens of the calculator by one pass over the text, without patterns. The calculator's lexer
delivers these tokens, whatever the text is.
-/

namespace OperatorGrammar.Calc

/-- The token that is written as this one character. -/
def mark? : Char → Option Symbol
  | '+' => some .plus
  | '-' => some .minus
  | '*' => some .star
  | '/' => some .slash
  | '(' => some .leftParen
  | ')' => some .rightParen
  | _ => none

/-- Whether a character belongs to a token. -/
def significant (c : Char) : Bool := c.isDigit || (mark? c).isSome

/-- Reads from left to right. A number takes all digits that there are, a mark is one character, and
everything else is passed over. -/
def scanned (offset : Nat) : List Char → List (Token Symbol)
  | [] => []
  | c :: rest =>
    if c.isDigit then
      let digits := c :: rest.takeWhile Char.isDigit
      ⟨.number, some (String.ofList digits), offset⟩ ::
        scanned (offset + width digits) (rest.dropWhile Char.isDigit)
    else
      let tokens := scanned (offset + c.utf8Size) rest
      match mark? c with
      | some kind => ⟨kind, some (String.ofList [c]), offset⟩ :: tokens
      | none => tokens
termination_by text => text.length
decreasing_by
  · exact Nat.lt_succ_of_le (List.length_dropWhile_le _ _)
  · exact Nat.lt_succ_self _

theorem char?_of_mark? {c : Char} {kind : Symbol} (h : mark? c = some kind) :
    kind.char? = some c := by
  unfold mark? at h
  split at h <;> cases h <;> rfl

theorem mark?_of_char? {c : Char} {kind : Symbol} (h : kind.char? = some c) :
    mark? c = some kind := by
  cases kind <;> cases h <;> rfl

theorem filler_iff {c : Char} : Filler c ↔ significant c = false := by
  rw [significant, Bool.or_eq_false_iff, Filler, Option.isSome_eq_false_iff, Option.isNone_iff_eq_none]
  refine and_congr_right' ⟨fun h ↦ ?_, fun h kind hkind ↦ ?_⟩
  · exact Option.eq_none_iff_forall_ne_some.2 fun kind hkind ↦ h kind (char?_of_mark? hkind)
  · rw [mark?_of_char? hkind] at h
    cases h

theorem Lexeme.significant_of_mem (lexeme : Lexeme) :
    ∀ c ∈ lexeme.chars, significant c = true := by
  intro c hc
  rw [significant, Bool.or_eq_true]
  cases lexeme with
  | number numeral => exact .inl (numeral.isDigit c hc)
  | mark kind char h =>
    obtain rfl := List.mem_singleton.1 hc
    exact .inr (by rw [mark?_of_char? h]; rfl)

/-! ## The scanner finds lexemes -/

def Gap.empty : Gap := ⟨[], by simp⟩

/-- A gap may be longer. -/
theorem Scans.pass {c : Char} (hc : Filler c) {offset : Nat} {rest : List Char}
    {tokens : List (Token Symbol)} (h : Scans (offset + c.utf8Size) rest tokens) :
    Scans offset (c :: rest) tokens := by
  have hlonger (gap : Gap) : ∀ d ∈ c :: gap.chars, Filler d :=
    List.forall_mem_cons.2 ⟨hc, gap.filler⟩
  cases h with
  | gap gap => exact .gap ⟨c :: gap.chars, hlonger gap⟩
  | lexeme gap lexeme hrest h =>
    have hwidth : offset + c.utf8Size + width gap.chars = offset + width (c :: gap.chars) := by
      rw [width_cons, Nat.add_assoc]
    rw [hwidth] at h ⊢
    exact .lexeme ⟨c :: gap.chars, hlonger gap⟩ lexeme hrest h

theorem noDigit_dropWhile (text : List Char) : NoDigit (text.dropWhile Char.isDigit) := by
  intro c hc
  have hhead := List.head?_dropWhile_not Char.isDigit text
  rwa [Option.mem_def.1 hc] at hhead

theorem scans_scanned (offset : Nat) (text : List Char) :
    Scans offset text (scanned offset text) := by
  fun_induction scanned offset text with
  | case1 offset => exact .gap .empty
  | case2 offset c rest hdigit digits ih =>
    have hdigits : ∀ d ∈ digits, d.isDigit = true :=
      List.forall_mem_cons.2 ⟨hdigit, fun d hd ↦ List.mem_takeWhile_imp hd⟩
    have htext : digits ++ rest.dropWhile Char.isDigit = c :: rest :=
      congrArg (c :: ·) List.takeWhile_append_dropWhile
    have hscans := Scans.lexeme .empty (.number ⟨digits, List.cons_ne_nil _ _, hdigits⟩)
      (fun _ ↦ noDigit_dropWhile rest) ih
    rwa [Gap.empty, List.nil_append, Lexeme.chars, htext] at hscans
  | case3 offset c rest hdigit tokens kind hmark ih =>
    exact .lexeme .empty (.mark kind c (char?_of_mark? hmark)) False.elim ih
  | case4 offset c rest hdigit tokens hmark ih =>
    refine Scans.pass (filler_iff.2 ?_) ih
    rw [significant, hmark, Bool.or_eq_false_iff]
    exact ⟨by simpa using hdigit, rfl⟩

example : scanned 0 "12é+ 3".toList =
    [⟨.number, some "12", 0⟩, ⟨.plus, some "+", 4⟩, ⟨.number, some "3", 6⟩] := by cbv

/-! ## What the scanner keeps -/

theorem Scans.flatMap_literal {offset : Nat} {text : List Char} {tokens : List (Token Symbol)}
    (h : Scans offset text tokens) :
    (tokens.flatMap fun token ↦ (token.literal.getD "").toList) = text.filter significant := by
  have hgap (gap : Gap) : gap.chars.filter significant = [] :=
    List.filter_eq_nil_iff.2 fun c hc ↦ by
      rw [filler_iff.1 (gap.filler c hc)]
      exact Bool.false_ne_true
  induction h with
  | gap gap => exact (hgap gap).symm
  | lexeme gap lexeme _ _ ih =>
    have hlexeme : lexeme.chars.filter significant = lexeme.chars :=
      List.filter_eq_self.2 lexeme.significant_of_mem
    have hliteral (offset : Nat) :
        ((lexeme.token offset).literal.getD "").toList = lexeme.chars := String.toList_ofList
    rw [List.flatMap_cons, hliteral, ih, List.filter_append, List.filter_append, hgap, hlexeme,
      List.nil_append]

theorem Lexeme.stop_token (lexeme : Lexeme) (offset : Nat) :
    (lexeme.token offset).stop = offset + width lexeme.chars :=
  congrArg (offset + ·) (utf8ByteSize_ofList lexeme.chars)

theorem Lexeme.isNumber_of_kind (lexeme : Lexeme) (h : lexeme.kind = .number) :
    lexeme.IsNumber := by
  cases lexeme with
  | number numeral => trivial
  | mark kind char hchar =>
    obtain rfl : kind = .number := h
    cases hchar

theorem Lexeme.not_noDigit (lexeme : Lexeme) (h : lexeme.IsNumber) (rest : List Char) :
    ¬NoDigit (lexeme.chars ++ rest) := by
  intro hrest
  cases lexeme with
  | mark kind char hchar => cases h
  | number numeral =>
    obtain ⟨d, digits, hdigits⟩ := List.exists_cons_of_ne_nil numeral.ne_nil
    have hhead : d ∈ ((Lexeme.number numeral).chars ++ rest).head? := by
      rw [chars, hdigits]
      rfl
    have hdigit : d.isDigit = true := numeral.isDigit d (hdigits ▸ List.mem_cons_self)
    exact Bool.false_ne_true ((hrest d hhead).symm.trans hdigit)

/-- The literal of a token stands at its offset. -/
theorem Scans.isSlice {offset : Nat} {text : List Char} {tokens : List (Token Symbol)}
    (h : Scans offset text tokens) {before : List Char} (hoffset : offset = width before)
    {token : Token Symbol} (htoken : token ∈ tokens) :
    ∃ slice, IsSlice (before ++ text) token.offset token.stop slice ∧
      token.literal = some (String.ofList slice) := by
  induction h generalizing before with
  | gap gap => cases htoken
  | @lexeme offset rest tokens gap lexeme _ _ ih =>
    rcases List.mem_cons.1 htoken with rfl | htoken
    · refine ⟨lexeme.chars, ⟨before ++ gap.chars, rest, ?_, ?_, lexeme.stop_token _⟩, rfl⟩
      · simp only [List.append_assoc]
      · rw [width_append, ← hoffset]
        rfl
    · have hnext : offset + width gap.chars + width lexeme.chars =
          width (before ++ gap.chars ++ lexeme.chars) := by
        rw [width_append, width_append, hoffset]
      obtain ⟨slice, hslice, hliteral⟩ := ih hnext htoken
      refine ⟨slice, ?_, hliteral⟩
      simpa only [List.append_assoc] using hslice

/-- Between two tokens in a row there is a gap, which is not empty if both are numbers. -/
theorem Scans.isSlice_between {offset : Nat} {text : List Char} {tokens : List (Token Symbol)}
    (h : Scans offset text tokens) {before : List Char} (hoffset : offset = width before)
    {earlier later : List (Token Symbol)} {first second : Token Symbol}
    (htokens : tokens = earlier ++ first :: second :: later) :
    ∃ gap : Gap, IsSlice (before ++ text) first.stop second.offset gap.chars ∧
      (first.kind = .number → second.kind = .number → gap.chars ≠ []) := by
  induction h generalizing before earlier with
  | gap gap => cases List.append_eq_nil_iff.1 htokens.symm |>.2
  | @lexeme offset rest tokens gap lexeme hrest hscans ih =>
    have hnext : offset + width gap.chars + width lexeme.chars =
        width (before ++ gap.chars ++ lexeme.chars) := by
      rw [width_append, width_append, hoffset]
    cases earlier with
    | cons token earlier =>
      obtain ⟨gap', hslice, hnumbers⟩ := ih hnext (List.cons.inj htokens).2
      refine ⟨gap', ?_, hnumbers⟩
      simpa only [List.append_assoc] using hslice
    | nil =>
      obtain ⟨rfl, rfl⟩ := List.cons.inj htokens
      obtain _ | @⟨_, rest', _, gap', lexeme', -, -⟩ := hscans
      refine ⟨gap', ⟨before ++ gap.chars ++ lexeme.chars, lexeme'.chars ++ rest', ?_, ?_, ?_⟩, ?_⟩
      · simp only [List.append_assoc]
      · rw [lexeme.stop_token, hnext]
      · rw [lexeme.stop_token]
        rfl
      · intro hfirst hsecond hempty
        rw [hempty, List.nil_append] at hrest
        exact lexeme'.not_noDigit (lexeme'.isNumber_of_kind hsecond) rest'
          (hrest (lexeme.isNumber_of_kind hfirst))

/-! ## The lexer is the scanner -/

/-- Whatever a text is, taking its tokens gives what the scanner finds in it, and then the end of the
text for good. No operation fails, unless it is told to expect something else. Hence the literals in
a row are the characters that belong to tokens, every literal stands at its offset, and between two
tokens in a row there are only characters that belong to none, and some if both are numbers. -/
theorem tokens_eq_scanned :
    ∃ calculator, Calculator.make? = .ok calculator ∧
      ∀ (name : Option String) (text : String),
        let lx := Lexer.ofText calculator.lexicon name text
        let chars := text.toList
        let tokens := scanned 0 chars
        lx.drain.1 = tokens.map .ok ∧
        lx.transcript (Lexer.takesOf tokens) =
          tokens.map (fun token ↦ (.next, .token (some token))) ∧
        (∀ calls, (lx.after (Lexer.takesOf tokens ++ .next :: calls)).Ended .eof chars) ∧
        (∀ calls call fault, ((lx.after calls).call call).1 = .fault fault →
          ∃ expected found literal place, call = .expect expected ∧ found ≠ expected ∧
            fault = .mismatch expected found literal place) ∧
        (tokens.flatMap fun token ↦ (token.literal.getD "").toList) = chars.filter significant ∧
        (∀ token ∈ tokens, ∃ slice, IsSlice chars token.offset token.stop slice ∧
          token.literal = some (String.ofList slice)) ∧
        ∀ earlier first second later, tokens = earlier ++ first :: second :: later →
          ∃ slice, IsSlice chars first.stop second.offset slice ∧
            (∀ c ∈ slice, significant c = false) ∧
            (first.kind = .number → second.kind = .number → slice ≠ []) := by
  refine ⟨_, make?_eq, fun name text ↦ ?_⟩
  intro lx chars tokens
  have hscans : Scans 0 chars tokens := scans_scanned 0 chars
  have hshows : lx.Shows tokens := shows_of_scans hscans ⟨rfl, rfl, rfl⟩ rfl rfl
  have hinvariant : lx.Invariant lexicon chars := Lexer.invariant_ofText lexicon name text
  have hmarks : lexicon.sentinel ∉ lexicon.marks.map Prod.snd := by decide
  refine ⟨Lexer.drain_of_shows hshows, hshows.transcript_eq,
    hshows.ended hinvariant nofun hmarks, ?faults, hscans.flatMap_literal, ?slices, ?between⟩
  case faults =>
    intro calls call fault hfault
    have hseparates : (lx.after calls).lexicon.Separates patterns := by
      rw [(hinvariant.after calls).lexicon_eq]
      exact separates_patterns
    exact Lexer.exists_expect_of_fault hseparates hfault
  case slices => exact fun token htoken ↦ hscans.isSlice width_nil.symm htoken
  case between =>
    intro earlier first second later htokens
    obtain ⟨gap, hslice, hnumbers⟩ := hscans.isSlice_between width_nil.symm htokens
    exact ⟨gap.chars, hslice, fun c hc ↦ filler_iff.1 (gap.filler c hc), hnumbers⟩

end OperatorGrammar.Calc
