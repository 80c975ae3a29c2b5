import OperatorGrammar.Proofs.Lexer.Drained
import OperatorGrammar.Proofs.Lexicon.Joined
import OperatorGrammar.Proofs.Pattern.Runs

/-!
# Where tokens come from

A token is the match of a rule of its kind: the rule's own pattern matches there, and matches just
this. This takes rules that are closed, since the pattern of a lexicon is read from their joined
texts and what one of them says may reach into the next.
-/

namespace OperatorGrammar

variable {τ : Type}

/-- Some rule for tokens of this kind has a pattern that, read on its own, matches the literal where
the token stands. Without a literal it matches the empty text there. -/
def Token.ComesFrom (properties : Properties) (token : Token τ) (rules : List (Rule τ))
    (text : List Char) : Prop :=
  ∃ rule ∈ rules, rule.token = token.kind ∧
    ∃ p, Pattern.read? properties rule.pattern = some p ∧
      ∃ cur found, cur.text = text ∧ cur.offset = token.offset ∧ p.matchAt? cur = some found ∧
        token.literal =
          if found.extent.text = [] then none else some (String.ofList found.extent.text)

namespace Lexer

variable {properties : Properties} {rules : List (Rule τ)} {patterns : List (τ × Pattern)}
  {lx : Lexer τ}

/-- The current token comes from a rule, or stands for the end of the text. -/
def Identified (properties : Properties) (lx : Lexer τ) (rules : List (Rule τ)) : Prop :=
  ∀ token ∈ lx.current, token = lx.endToken ∨ token.ComesFrom properties rules lx.cursor.text

theorem Admits.comesFrom {found : Match} (h : lx.Admits found)
    (hpatterns : Lexicon.readEach properties rules = .ok patterns)
    (hseparates : lx.lexicon.Separates patterns) :
    ∃ kind, lx.lexicon.identify? found = some (kind, found.extent) ∧
      (tokenOf kind found.extent).ComesFrom properties rules lx.cursor.text := by
  obtain ⟨own, hown, ⟨single, hmatch, hextent⟩, hidentify⟩ := h.exists_match hseparates
  obtain ⟨rule, hrule, hkind, hread⟩ := Lexicon.exists_rule_of_readEach hpatterns hown
  refine ⟨own.1, hidentify, rule, hrule, ?_, own.2, hread, found.extent.first, single,
    Cursor.text_of_mem_positions h.first_mem, ?_, hmatch, ?_⟩ <;> rw [tokenOf_eq _ h.last_mem]
  · exact hkind
  · rw [hextent]

theorem Identified.advance (h : lx.Identified properties rules)
    (hpatterns : Lexicon.readEach properties rules = .ok patterns)
    (hseparates : lx.lexicon.Separates patterns) : lx.advance.2.Identified properties rules := by
  rcases lx.advance_cases with ⟨-, hadvance⟩ | ⟨-, hadvance⟩ | ⟨-, -, found, hadmits, hadvance⟩
  · rw [hadvance]
    exact h
  · have htext := lx.sameText_advance
    rw [hadvance] at htext ⊢
    intro token htoken
    obtain rfl := Option.some.inj htoken
    exact .inl htext.endToken_eq.symm
  · obtain ⟨kind, hidentify, hcomes⟩ := hadmits.comesFrom hpatterns hseparates
    rw [hadvance, accept_of_identify? hidentify]
    intro token htoken
    obtain rfl := Option.some.inj htoken
    rw [hadmits.text_eq]
    exact .inr hcomes

variable [DecidableEq τ]

theorem Identified.call (h : lx.Identified properties rules)
    (hpatterns : Lexicon.readEach properties rules = .ok patterns)
    (hseparates : lx.lexicon.Separates patterns) (call : Call τ) :
    (lx.call call).2.Identified properties rules := by
  have hadvance := h.advance hpatterns hseparates
  rcases lx.call_snd_cases call with hcall | hcall | ⟨token, next, hdelivers, hcall⟩
  · rwa [hcall]
  · rwa [hcall]
  · rw [hdelivers.advance_eq] at hadvance
    rw [hcall]
    exact hadvance

end Lexer

end OperatorGrammar
