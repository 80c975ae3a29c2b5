import OperatorGrammar.Lexicon
import OperatorGrammar.Proofs.Pattern.Alternation

/-!
# Rules tried one by one

A lexicon looks for all its rules at once and tells by the groups which one matched. If its pattern
is the ordered choice between the patterns of the rules, this finds what trying the rules one after
the other at each position finds.
-/

namespace OperatorGrammar.Lexicon

variable {τ : Type}

/-- The first rule whose pattern matches at a position on its own, and the extent of that match. -/
def attempt? (patterns : List (τ × Pattern)) (cur : Cursor) : Option (τ × Extent) :=
  patterns.findSome? fun rule ↦ (rule.2.matchAt? cur).map fun found ↦ (rule.1, found.extent)

theorem attempt?_cons (kind : τ) (p : Pattern) (rest : List (τ × Pattern)) (cur : Cursor) :
    attempt? ((kind, p) :: rest) cur =
      match p.matchAt? cur with
      | some found => some (kind, found.extent)
      | none => attempt? rest cur := by
  rw [attempt?, List.findSome?_cons]
  cases p.matchAt? cur <;> rfl

/-- A lexicon whose pattern is the choice, in order, between the patterns of its rules, each of them
in one group of its own, and which has marked these groups. -/
structure Separates (lexicon : Lexicon τ) (patterns : List (τ × Pattern)) : Prop where
  ne_nil : patterns ≠ []
  pattern_eq : lexicon.pattern = Pattern.ofBranches (Pattern.wrapFrom 1 (patterns.map Prod.snd))
  marks_eq : lexicon.marks = marksFrom 1 patterns

theorem ofRules?_eq_ok {properties : Properties} {sentinel : τ} {rules : List (Rule τ)}
    {lexicon : Lexicon τ} (h : ofRules? sentinel rules properties = .ok lexicon) :
    ∃ patterns, readEach properties rules = .ok patterns ∧ patterns ≠ [] ∧
      Pattern.read? properties (joinedText rules) = some lexicon.pattern ∧
      lexicon.marks = marksFrom 1 patterns ∧ lexicon.sentinel = sentinel := by
  unfold ofRules? at h
  split at h
  case h_1 => simp at h
  case h_2 => simp at h
  case h_3 patterns hne hpatterns =>
    split at h
    case h_1 => simp at h
    case h_2 p hp =>
      obtain rfl := Except.ok.inj h
      exact ⟨patterns, hpatterns, hne, hp, rfl, rfl⟩

theorem separates_of_ofRules? {properties : Properties} {sentinel : τ} {rules : List (Rule τ)}
    {lexicon : Lexicon τ} {patterns : List (τ × Pattern)}
    (h : ofRules? sentinel rules properties = .ok lexicon)
    (hpatterns : readEach properties rules = .ok patterns)
    (hjoined : lexicon.pattern =
      Pattern.ofBranches (Pattern.wrapFrom 1 (patterns.map Prod.snd))) :
    lexicon.Separates patterns := by
  obtain ⟨patterns', hpatterns', hne, -, hmarks, -⟩ := ofRules?_eq_ok h
  obtain rfl : patterns' = patterns := Except.ok.inj (hpatterns'.symm.trans hpatterns)
  exact ⟨hne, hjoined, hmarks⟩

theorem group?_eq_none {found : Match} {index : Nat} (h : ∀ mark ∈ found.groups, mark.1 ≠ index) :
    found.group? index = none := by
  rw [Match.group?, List.lookup_eq_none_iff]
  exact fun mark hmark ↦ bne_iff_ne.2 (h mark hmark).symm

/-- A rule that is tried in vain has no group in the match of a later rule. -/
theorem group?_eq_none_of_firstMatch? {p : Pattern} {ps : List Pattern} {first : Nat} {cur : Cursor}
    {found : Match} (h : Pattern.firstMatch? (first + p.groupCount) ps cur = some found) :
    found.group? first = none := by
  apply group?_eq_none
  intro mark hmark
  have hle := Pattern.le_of_mem_firstMatch? h mark hmark
  have hpos := p.groupCount_pos
  omega

/-- The first mark among the groups of a match belongs to the rule that was tried with success. -/
theorem attempt?_of_firstMatch? {patterns : List (τ × Pattern)} {first : Nat} {cur : Cursor}
    {found : Match} (h : Pattern.firstMatch? first (patterns.map Prod.snd) cur = some found) :
    ∃ kind, attempt? patterns cur = some (kind, found.extent) ∧
      ((marksFrom first patterns).findSome? fun (index, token) ↦
        (found.group? index).map (token, ·)) = some (kind, found.extent) := by
  induction patterns generalizing first with
  | nil => simp [Pattern.firstMatch?] at h
  | cons rule rest ih =>
    obtain ⟨kind, p⟩ := rule
    simp only [List.map_cons, Pattern.firstMatch?] at h
    simp only [attempt?_cons, marksFrom, List.findSome?_cons]
    cases hown : p.matchAt? cur with
    | some own =>
      rw [hown] at h
      obtain rfl := Option.some.inj h
      exact ⟨kind, rfl, by simp [Match.group?]⟩
    | none =>
      rw [hown] at h
      simpa [group?_eq_none_of_firstMatch? h] using ih h

theorem attempt?_eq_none_of_firstMatch? {patterns : List (τ × Pattern)} {first : Nat}
    {cur : Cursor} (h : Pattern.firstMatch? first (patterns.map Prod.snd) cur = none) :
    attempt? patterns cur = none := by
  induction patterns generalizing first with
  | nil => rfl
  | cons rule rest ih =>
    obtain ⟨kind, p⟩ := rule
    simp only [List.map_cons, Pattern.firstMatch?] at h
    split at h
    case h_1 => simp at h
    case h_2 hown =>
      rw [attempt?_cons, hown]
      exact ih h

variable {lexicon : Lexicon τ} {patterns : List (τ × Pattern)}

/-- At every position the lexicon finds what the attempts find. -/
theorem Separates.matchAt? (h : lexicon.Separates patterns) (cur : Cursor) :
    match attempt? patterns cur with
    | none => lexicon.pattern.matchAt? cur = none
    | some (kind, extent) => ∃ found, lexicon.pattern.matchAt? cur = some found ∧
        found.extent = extent ∧ lexicon.identify? found = some (kind, extent) := by
  have hmatch : lexicon.pattern.matchAt? cur =
      Pattern.firstMatch? 1 (patterns.map Prod.snd) cur := by
    rw [h.pattern_eq]
    exact Pattern.matchAt?_ofBranches (by simpa using h.ne_nil) 1 cur
  cases hfirst : Pattern.firstMatch? 1 (patterns.map Prod.snd) cur with
  | none =>
    rw [attempt?_eq_none_of_firstMatch? hfirst]
    exact hmatch.trans hfirst
  | some found =>
    obtain ⟨kind, hattempt, hidentify⟩ := attempt?_of_firstMatch? hfirst
    rw [hattempt]
    exact ⟨found, hmatch.trans hfirst, rfl, by rw [identify?, h.marks_eq]; exact hidentify⟩

/-- Searching finds the first position at which an attempt succeeds. -/
theorem Separates.search? (h : lexicon.Separates patterns) (cur : Cursor) :
    match cur.positions.findSome? (attempt? patterns) with
    | none => lexicon.pattern.search? cur = none
    | some (kind, extent) => ∃ found, lexicon.pattern.search? cur = some found ∧
        found.extent = extent ∧ lexicon.identify? found = some (kind, extent) := by
  rw [Pattern.search?_eq_findSome?]
  induction cur.positions with
  | nil => rfl
  | cons pos rest ih =>
    have hpos := h.matchAt? pos
    simp only [List.findSome?_cons]
    cases hattempt : attempt? patterns pos with
    | none =>
      rw [hattempt] at hpos
      dsimp only at hpos
      rwa [hpos]
    | some rule =>
      rw [hattempt] at hpos
      obtain ⟨found, hfound, hidentify⟩ := hpos
      rw [hfound]
      exact ⟨found, rfl, hidentify⟩

end OperatorGrammar.Lexicon
