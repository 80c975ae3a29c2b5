import OperatorGrammar.Proofs.Lexicon.Attempts

/-!
# The marks of a lexicon

A lexicon that was read from rules has one mark for each rule, in their order.
-/

namespace OperatorGrammar.Lexicon

variable {τ : Type} {properties : Properties}

theorem map_snd_marksFrom (first : Nat) (patterns : List (τ × Pattern)) :
    (marksFrom first patterns).map Prod.snd = patterns.map Prod.fst := by
  induction patterns generalizing first with
  | nil => rfl
  | cons rule rest ih => rw [marksFrom, List.map_cons, ih, List.map_cons]

theorem readEach_cons_eq_ok {rule : Rule τ} {rules : List (Rule τ)}
    {patterns : List (τ × Pattern)} (h : readEach properties (rule :: rules) = .ok patterns) :
    ∃ p rest, Pattern.read? properties rule.pattern = some p ∧
      readEach properties rules = .ok rest ∧ patterns = (rule.token, p) :: rest := by
  rw [readEach] at h
  split at h
  case h_1 => cases h
  case h_2 p hread =>
    cases hrest : readEach properties rules with
    | error e =>
      rw [hrest] at h
      cases h
    | ok rest =>
      rw [hrest] at h
      exact ⟨p, rest, hread, rfl, (Except.ok.inj h).symm⟩

theorem map_fst_of_readEach {rules : List (Rule τ)} {patterns : List (τ × Pattern)}
    (h : readEach properties rules = .ok patterns) :
    patterns.map Prod.fst = rules.map Rule.token := by
  induction rules generalizing patterns with
  | nil =>
    obtain rfl := Except.ok.inj h
    rfl
  | cons rule rules ih =>
    obtain ⟨p, rest, -, hrest, rfl⟩ := readEach_cons_eq_ok h
    rw [List.map_cons, List.map_cons, ih hrest]

/-- Every pattern was read from a rule. -/
theorem exists_rule_of_readEach {rules : List (Rule τ)} {patterns : List (τ × Pattern)}
    (h : readEach properties rules = .ok patterns) {own : τ × Pattern} (hown : own ∈ patterns) :
    ∃ rule ∈ rules, rule.token = own.1 ∧ Pattern.read? properties rule.pattern = some own.2 := by
  induction rules generalizing patterns with
  | nil =>
    obtain rfl := Except.ok.inj h
    cases hown
  | cons rule rules ih =>
    obtain ⟨p, rest, hread, hrest, rfl⟩ := readEach_cons_eq_ok h
    rcases List.mem_cons.1 hown with rfl | hown
    · exact ⟨rule, List.mem_cons_self, rfl, hread⟩
    · obtain ⟨own', hown', hrule⟩ := ih hrest hown
      exact ⟨own', List.mem_cons_of_mem rule hown', hrule⟩

/-- The tokens of a lexicon that was read from rules are those of the rules. -/
theorem tokens_of_ofRules? {sentinel : τ} {rules : List (Rule τ)} {lexicon : Lexicon τ}
    (h : ofRules? sentinel rules properties = .ok lexicon) :
    lexicon.sentinel = sentinel ∧ lexicon.marks.map Prod.snd = rules.map Rule.token := by
  obtain ⟨patterns, hpatterns, -, -, hmarks, hsentinel⟩ := ofRules?_eq_ok h
  refine ⟨hsentinel, ?_⟩
  rw [hmarks, map_snd_marksFrom, map_fst_of_readEach hpatterns]

end OperatorGrammar.Lexicon
