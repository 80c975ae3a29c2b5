import OperatorGrammar.Calc.Command
import OperatorGrammar.Proofs.Calc.Scanner
import OperatorGrammar.Proofs.Text.Lines

/-!
# The tokens of a file are those of its lines

No token goes on from one line to the next, and what ends a line belongs to no token. Hence the
tokens of a file are those that its lines have on their own, and only their offsets differ.
-/

namespace OperatorGrammar

/-- The same token in a text with so many bytes in front. -/
def Token.shift {τ : Type} (bytes : Nat) (token : Token τ) : Token τ :=
  { token with offset := bytes + token.offset }

namespace Calc

variable {offset : Nat} {text rest : List Char} {tokens later : List (Token Symbol)} {c : Char}

/-! ## Characters that belong to no token -/

theorem filler_lineFeed : Filler '\n' := filler_iff.2 rfl

theorem filler_return : Filler '\r' := filler_iff.2 rfl

theorem filler_of_blank (h : CharSet.blank.contains c = true) : Filler c := by
  constructor
  · by_contra hdigit
    have hrange : 48 ≤ c.toNat ∧ c.toNat ≤ 57 := by
      simpa [Char.isDigit, UInt32.le_iff_toNat_le] using hdigit
    have hinside : CharSet.blank.contains c = false := by
      simp only [CharSet.contains, CharSet.blank, CharSet.insideFrom]
      rw [if_neg (by omega), if_neg (by omega), if_neg (by omega), if_neg (by omega),
        if_pos (by omega)]
      rfl
    exact Bool.false_ne_true (hinside.symm.trans h)
  · rintro kind hkind
    cases kind <;> cases hkind <;> revert h <;> decide

/-! ## Scanning on behind such a character -/

theorem Scans.pass_all {chars : List Char} (hchars : ∀ d ∈ chars, Filler d)
    (h : Scans (offset + width chars) rest tokens) : Scans offset (chars ++ rest) tokens := by
  induction chars generalizing offset with
  | nil => exact h
  | cons d chars ih =>
    apply Scans.pass (hchars d List.mem_cons_self)
    apply ih fun e he ↦ hchars e (List.mem_cons_of_mem d he)
    rwa [width_cons, ← Nat.add_assoc] at h

theorem noDigit_append (h : NoDigit text) (hc : Filler c) : NoDigit (text ++ c :: rest) := by
  cases text with
  | nil =>
    intro d hd
    obtain rfl : c = d := Option.some.inj hd
    exact hc.1
  | cons d text => exact h

/-- No token goes on behind a character that belongs to none. -/
theorem Scans.append (hc : Filler c) (h : Scans offset text tokens)
    (hrest : Scans (offset + width text + c.utf8Size) rest later) :
    Scans offset (text ++ c :: rest) (tokens ++ later) := by
  induction h with
  | gap gap => exact .pass_all gap.filler (.pass hc hrest)
  | @lexeme offset text tokens gap lexeme hnumber _ ih =>
    have hwidth : offset + width (gap.chars ++ (lexeme.chars ++ text)) =
        offset + width gap.chars + width lexeme.chars + width text := by
      rw [width_append, width_append, Nat.add_assoc, Nat.add_assoc]
    rw [hwidth] at hrest
    rw [List.append_assoc, List.append_assoc]
    exact .lexeme gap lexeme (fun h ↦ noDigit_append (hnumber h) hc) (ih hrest)

theorem Scans.shift (h : Scans offset text tokens) (bytes : Nat) :
    Scans (bytes + offset) text (tokens.map (Token.shift bytes)) := by
  induction h with
  | gap gap => exact .gap gap
  | @lexeme offset text tokens gap lexeme hnumber _ ih =>
    rw [← Nat.add_assoc, ← Nat.add_assoc] at ih
    have htoken : (lexeme.token (offset + width gap.chars)).shift bytes =
        lexeme.token (bytes + offset + width gap.chars) := by
      rw [Nat.add_assoc]
      rfl
    rw [List.map_cons, htoken]
    exact .lexeme gap lexeme hnumber ih

/-! ## Lines -/

theorem Scans.of_chomp (h : Scans offset (Lines.chomp text) tokens) : Scans offset text tokens := by
  rcases Lines.chomp_cases text with hsame | hreturn
  · rwa [hsame] at h
  · rw [hreturn, ← List.append_nil tokens]
    exact h.append filler_return (.gap .empty)

theorem scans_lines {lines : List (Nat × List Char)} (h : Lines.Laid offset text lines) :
    Scans offset text (lines.flatMap fun line ↦ (scanned 0 line.2).map (Token.shift line.1)) := by
  have hline (start : Nat) (line : List Char) :
      Scans start line ((scanned 0 line).map (Token.shift start)) :=
    (scans_scanned 0 line).shift start
  induction h with
  | nil offset => exact .gap .empty
  | @last offset line => simpa using hline offset line
  | cons _ _ ih => exact (hline _ _).of_chomp.append filler_lineFeed ih

theorem scans_of_blank (h : CharSet.isBlankText text = true) : Scans offset text [] :=
  .gap ⟨text, fun _ hd ↦ filler_of_blank (List.all_eq_true.1 h _ hd)⟩

theorem flatMap_filter_of_eq_nil {α β : Type} {f : α → List β} {p : α → Bool}
    (h : ∀ x, p x = false → f x = []) (xs : List α) : (xs.filter p).flatMap f = xs.flatMap f := by
  induction xs with
  | nil => rfl
  | cons x xs ih =>
    cases hx : p x with
    | true => rw [List.filter_cons_of_pos hx, List.flatMap_cons, List.flatMap_cons, ih]
    | false =>
      rw [List.filter_cons_of_neg (by simp [hx]), ih, List.flatMap_cons, h x hx, List.nil_append]

theorem printTokens_map_ok (tokens : List (Token Symbol)) :
    printTokens (tokens.map .ok) =
      .success (tokens.map (Token.render Symbol.name) ++ ["Eof null"]) := by
  induction tokens with
  | nil => rfl
  | cons token tokens ih =>
    rw [List.map_cons, printTokens, ih]
    rfl

/-- What scans is what the lexer finds. -/
theorem Scans.eq_scanned (h : Scans 0 text tokens) : tokens = scanned 0 text := by
  have hdrain {tokens : List (Token Symbol)} (h : Scans 0 text tokens) :
      (Lexer.ofChars lexicon none text).drain.1 = tokens.map .ok :=
    Lexer.drain_of_shows (shows_of_scans h ⟨rfl, rfl, rfl⟩ rfl rfl)
  apply List.map_injective_iff.2 fun _ _ ↦ Except.ok.inj
  exact (hdrain h).symm.trans (hdrain (scans_scanned 0 text))

theorem tokens_eq (name text : String) :
    Calculator.tokens ⟨lexicon, grammar⟩ name text = (scanned 0 text.toList).map .ok :=
  Lexer.drain_of_shows (shows_of_scans (scans_scanned 0 text.toList) ⟨rfl, rfl, rfl⟩ rfl rfl)

/-- The tokens of a file are the tokens of its lines, one line after the other, and start as many
bytes further behind as the line starts in the file. A blank line has no tokens, so it makes no
difference that it is not evaluated. All tokens are printed, and then the end of the file. -/
theorem tokens_eq_flatMap_lines :
    ∃ calculator, Calculator.make? = .ok calculator ∧ ∀ name : String,
      ∃ tokens : String → List (Token Symbol),
        (∀ text, calculator.tokens name text = (tokens text).map .ok) ∧
        (∀ text, run calculator .tokenize name (some text) =
          .success ((tokens text).map (Token.render Symbol.name) ++ ["Eof null"])) ∧
        (∀ text, ∃ lines : List (Nat × List Char),
          Lines.Laid 0 text.toList lines ∧
          Lines.split text = lines.map (fun line ↦ String.ofList line.2) ∧
          tokens text = lines.flatMap fun line ↦
            (tokens (String.ofList line.2)).map (Token.shift line.1)) ∧
        (∀ line : String, CharSet.isBlankText line.toList = true → tokens line = []) ∧
        ∀ text, (tokens text).map content =
          ((Lines.split text).filter fun line ↦ !CharSet.isBlankText line.toList).flatMap
            fun line ↦ (tokens line).map content := by
  refine ⟨_, make?_eq, fun name ↦ ⟨fun text ↦ scanned 0 text.toList, tokens_eq name, ?_⟩⟩
  have hlines (text : String) : ∃ lines : List (Nat × List Char),
      Lines.Laid 0 text.toList lines ∧
      Lines.split text = lines.map (fun line ↦ String.ofList line.2) ∧
      scanned 0 text.toList = lines.flatMap fun line ↦
        (scanned 0 (String.ofList line.2).toList).map (Token.shift line.1) := by
    obtain ⟨lines, hlaid⟩ := Lines.exists_laid 0 text.toList
    refine ⟨lines, hlaid, ?_, ?_⟩
    · rw [Lines.split, ← hlaid.map_snd, List.map_map]
      rfl
    · simp only [String.toList_ofList]
      exact (scans_lines hlaid).eq_scanned.symm
  have hblank (line : String) (h : CharSet.isBlankText line.toList = true) :
      scanned 0 line.toList = [] := (scans_of_blank h).eq_scanned.symm
  refine ⟨fun text ↦ ?printed, hlines, hblank, fun text ↦ ?contents⟩
  case printed => exact (congrArg printTokens (tokens_eq name text)).trans (printTokens_map_ok _)
  case contents =>
    obtain ⟨lines, -, hsplit, htokens⟩ := hlines text
    calc
      (scanned 0 text.toList).map content =
          (Lines.split text).flatMap fun line ↦ (scanned 0 line.toList).map content := by
        rw [htokens, hsplit, List.map_flatMap, List.flatMap_map]
        simp only [List.map_map]
        rfl
      _ = _ := by
        refine (flatMap_filter_of_eq_nil (fun line h ↦ ?_) _).symm
        rw [hblank line (by simpa using h), List.map_nil]

/-- A line of wide spaces stands between two lines with tokens. -/
theorem tokens_eq_nil_of_wide_space :
    ∃ calculator, Calculator.make? = .ok calculator ∧
      CharSet.isBlankText "\u2003".toList = true ∧
      calculator.tokens "f" "\u2003" = [] ∧
      calculator.tokens "f" "1\r\n\u2003\n+" =
        [.ok ⟨.number, some "1", 0⟩, .ok ⟨.plus, some "+", 7⟩] := by
  have hblank : CharSet.isBlankText "\u2003".toList = true := by decide
  obtain ⟨calculator, hmake, h⟩ := tokens_eq_flatMap_lines
  obtain ⟨tokens, htokens, -, -, hnone, -⟩ := h "f"
  refine ⟨calculator, hmake, hblank, ?_, ?_⟩
  · rw [htokens, hnone _ hblank]
    rfl
  · obtain rfl := Except.ok.inj (make?_eq.symm.trans hmake)
    rw [tokens_eq]
    cbv

end Calc

end OperatorGrammar
