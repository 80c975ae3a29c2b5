import OperatorGrammar.Proofs.Lexicon.Marks
import OperatorGrammar.Proofs.Pattern.Numbering

/-!
# The numbers of the rules' groups

The groups of the joined text are numbered by their opening parentheses, and the marks count the
groups of each rule's pattern as it reads on its own. If the joined text reads as the choice between
these patterns, each of them in a group with some number, then the marks are these numbers, unless
the last groups of a pattern were dropped, whose parentheses were counted.
-/

namespace OperatorGrammar

variable {τ : Type}

namespace Pattern

/-- Each pattern in a group with the given number. The groups of the pattern itself are numbered
behind it. -/
def wrapAt (numbers : List Nat) (ps : List Pattern) : List Pattern :=
  List.zipWith (fun number p ↦ group number (p.shift number)) numbers ps

/-- No group that opens last before one of the groups with these numbers was dropped: the number
before is taken. -/
def KeepsGroupBefore (p : Pattern) (numbers : List Nat) : Prop :=
  ∀ number ∈ numbers, 1 < number → number - 1 ∈ p.openings

instance (p : Pattern) (numbers : List Nat) : Decidable (p.KeepsGroupBefore numbers) :=
  inferInstanceAs (Decidable (∀ number ∈ numbers, 1 < number → number - 1 ∈ p.openings))

end Pattern

namespace Lexicon

open Pattern (wrapAt wrapFrom)

/-- A pattern is the choice, in order, between the patterns of the rules, each of them in a group
with some number. -/
structure Joins (joined : Pattern) (patterns : List (τ × Pattern)) (numbers : List Nat) : Prop where
  length_eq : numbers.length = patterns.length
  eq_ofBranches : joined = Pattern.ofBranches (wrapAt numbers (patterns.map Prod.snd))

theorem wrapAt_marksFrom (first : Nat) (patterns : List (τ × Pattern)) :
    wrapAt ((marksFrom first patterns).map Prod.fst) (patterns.map Prod.snd) =
      wrapFrom first (patterns.map Prod.snd) := by
  induction patterns generalizing first with
  | nil => rfl
  | cons rule rest ih =>
    have hrest := ih (first + rule.2.groupCount)
    simp only [wrapAt] at hrest
    simp only [wrapAt, marksFrom, List.map_cons, List.zipWith_cons_cons, wrapFrom, hrest]

theorem le_of_mem_marksFrom {first : Nat} {patterns : List (τ × Pattern)} {mark : Nat × τ}
    (h : mark ∈ marksFrom first patterns) : first ≤ mark.1 := by
  induction patterns generalizing first with
  | nil => cases h
  | cons rule rest ih =>
    rcases List.mem_cons.1 h with rfl | h
    · exact Nat.le_refl first
    · exact Nat.le_trans (Nat.le_add_right _ _) (ih h)

/-- The number before a mark is that of the group that opens last in the pattern before, or of the
group around this pattern. -/
theorem sub_one_mem_of_mem_marksFrom {patterns : List (τ × Pattern)} {first number : Nat}
    (h : number ∈ (marksFrom first patterns).map Prod.fst) (hlt : first < number) :
    number - 1 ∈ (wrapFrom first (patterns.map Prod.snd)).flatMap Pattern.openings := by
  induction patterns generalizing first with
  | nil => cases h
  | cons rule rest ih =>
    rw [marksFrom, List.map_cons] at h
    rw [List.map_cons, wrapFrom, List.flatMap_cons, List.mem_append]
    rcases List.mem_cons.1 h with rfl | h
    · exact absurd hlt (Nat.lt_irrefl _)
    obtain ⟨mark, hmark, rfl⟩ := List.mem_map.1 h
    rcases Nat.eq_or_lt_of_le (le_of_mem_marksFrom hmark) with heq | hlater
    · left
      rw [← heq, Pattern.openings, List.mem_cons, Pattern.openings_shift]
      rcases Nat.eq_or_lt_of_le rule.2.groupCount_pos with hone | hgroups
      · left
        omega
      · right
        refine List.mem_map.2 ⟨_, Pattern.groupCount_sub_one_mem_openings hgroups, ?_⟩
        omega
    · exact .inr (ih h hlater)

/-- If the numbers of all groups ascend and the one before that of a rule's group is not missing,
then the rules' groups have the numbers with which the rules are marked. -/
theorem numbers_eq_marksFrom {patterns : List (τ × Pattern)} {numbers taken : List Nat}
    {first : Nat} (hlength : numbers.length = patterns.length)
    (htaken : taken = (wrapAt numbers (patterns.map Prod.snd)).flatMap Pattern.openings)
    (hfirst : ∀ number ∈ taken, first ≤ number) (hascending : taken.Pairwise (· < ·))
    (hkeeps : ∀ number ∈ numbers, first < number → number - 1 ∈ taken) :
    numbers = (marksFrom first patterns).map Prod.fst := by
  induction patterns generalizing numbers first taken with
  | nil =>
    obtain rfl := List.eq_nil_of_length_eq_zero hlength
    rfl
  | cons rule rest ih =>
    obtain ⟨kind, p⟩ := rule
    obtain ⟨number, numbers, rfl⟩ := List.exists_cons_of_length_eq_add_one hlength
    let inner : List Nat := (p.shift number).openings
    let later : List Nat := (wrapAt numbers (rest.map Prod.snd)).flatMap Pattern.openings
    obtain rfl : taken = number :: (inner ++ later) := by
      simp [htaken, wrapAt, inner, later]
    obtain ⟨hnumber, hascending⟩ := List.pairwise_cons.1 hascending
    obtain ⟨-, hlaterAscending, hinnerLater⟩ := List.pairwise_append.1 hascending
    -- the first rule's group opens first, so that no number is taken before its own
    obtain rfl : number = first := by
      apply Nat.le_antisymm _ (hfirst number List.mem_cons_self)
      by_contra hlt
      rcases List.mem_cons.1 (hkeeps number List.mem_cons_self (by omega)) with heq | hmem
      · omega
      · have hgt := hnumber (number - 1) hmem
        omega
    have hlater : ∀ other ∈ later, number + p.groupCount ≤ other := by
      intro other hother
      apply Pattern.add_groupCount_le (hnumber other (List.mem_append_right inner hother))
      exact fun own hown ↦ hinnerLater own hown other hother
    rw [marksFrom, List.map_cons, ← ih (Nat.succ.inj hlength) rfl hlater hlaterAscending]
    intro other hother hlt
    have hpos := p.groupCount_pos
    have hmem := hkeeps other (List.mem_cons_of_mem number hother) (by omega)
    rcases List.mem_cons.1 hmem with heq | hmem
    · omega
    · rcases List.mem_append.1 hmem with hmem | hmem
      · have hinner := Pattern.lt_of_mem_openings_shift hmem
        omega
      · exact hmem

variable {properties : Properties} {sentinel : τ} {rules : List (Rule τ)} {lexicon : Lexicon τ}
  {patterns : List (τ × Pattern)} {numbers : List Nat}

/-- The rules' groups have the numbers with which the rules are marked exactly if no group that
opens last before one of them was dropped. -/
theorem Joins.marks_eq_iff (h : Joins lexicon.pattern patterns numbers)
    (hrules : ofRules? sentinel rules properties = .ok lexicon)
    (hpatterns : readEach properties rules = .ok patterns) :
    lexicon.marks.map Prod.fst = numbers ↔ lexicon.pattern.KeepsGroupBefore numbers := by
  obtain ⟨patterns', hpatterns', -, hread, hmarks, -⟩ := ofRules?_eq_ok hrules
  obtain rfl : patterns' = patterns := Except.ok.inj (hpatterns'.symm.trans hpatterns)
  have hopenings : lexicon.pattern.openings =
      (wrapAt numbers (patterns'.map Prod.snd)).flatMap Pattern.openings := by
    rw [h.eq_ofBranches, Pattern.openings_ofBranches]
  rw [hmarks]
  constructor
  · rintro rfl
    rw [wrapAt_marksFrom] at hopenings
    intro number hnumber hlt
    rw [hopenings]
    exact sub_one_mem_of_mem_marksFrom hnumber hlt
  · intro hkeeps
    obtain ⟨hpositive, hascending⟩ :=
      List.pairwise_cons.1 (Pattern.ascending_openings_of_read? hread)
    exact (numbers_eq_marksFrom h.length_eq hopenings hpositive hascending hkeeps).symm

/-- With these marks, trying the rules one by one finds what the lexicon finds. -/
theorem Joins.separates (h : Joins lexicon.pattern patterns numbers)
    (hrules : ofRules? sentinel rules properties = .ok lexicon)
    (hpatterns : readEach properties rules = .ok patterns)
    (hkeeps : lexicon.pattern.KeepsGroupBefore numbers) : lexicon.Separates patterns := by
  obtain ⟨patterns', hpatterns', -, -, hmarks, -⟩ := ofRules?_eq_ok hrules
  obtain rfl : patterns' = patterns := Except.ok.inj (hpatterns'.symm.trans hpatterns)
  apply separates_of_ofRules? hrules hpatterns
  rw [← wrapAt_marksFrom, ← hmarks, (h.marks_eq_iff hrules hpatterns).2 hkeeps]
  exact h.eq_ofBranches

end Lexicon

end OperatorGrammar
