import OperatorGrammar.Pattern.Build
import OperatorGrammar.Proofs.Pattern.Reach
import OperatorGrammar.Proofs.Pattern.Renumbering

/-!
# Ordered alternations

In a choice between patterns, each in a group of its own, the first pattern that matches at a
position on its own is the one that matches there, with the extent that it has on its own. Neither
the groups inside the patterns nor the failed attempts before it change anything.
-/

namespace OperatorGrammar.Pattern

/-- Each pattern in a group of its own, with the groups numbered from `first` on in the order in
which they open. -/
def wrapFrom (first : Nat) : List Pattern → List Pattern
  | [] => []
  | p :: ps => group first (p.shift first) :: wrapFrom (first + p.groupCount) ps

/-- The match of the first pattern that matches at a position, with the groups of its own behind the
one that it stands in. -/
def firstMatch? (first : Nat) : List Pattern → Cursor → Option Match
  | [], _ => none
  | p :: ps, cur =>
    match p.matchAt? cur with
    | some found =>
      some ⟨found.extent, (first, found.extent) :: shiftGroups first found.groups⟩
    | none => firstMatch? (first + p.groupCount) ps cur

/-- What follows a whole pattern. -/
def done : Continue := fun last groups _ ↦ .matched last groups

theorem matchAt?_eq (p : Pattern) (cur : Cursor) :
    p.matchAt? cur = match run p 0 cur [] done ∅ with
      | .matched last groups => some ⟨⟨cur, last⟩, groups⟩
      | .failed _ => none := rfl

/-- No choice numbered `number` or above was met yet. -/
def Fresh (number : Nat) (visited : Visited) : Prop :=
  ∀ other, number ≤ other → ∀ offset, visited.contains (other, offset) = false

theorem fresh_empty (number : Nat) : Fresh number ∅ := fun _ _ _ ↦ Std.TreeSet.contains_emptyc

theorem Fresh.insert {number : Nat} {visited : Visited} (h : Fresh number visited) (offset : Nat) :
    Fresh (number + 1) (visited.insert (number, offset)) := by
  intro other hother offset'
  have hne : ¬ (number = other ∧ offset = offset') := by omega
  rw [contains_insert_choice, decide_eq_false hne, Bool.false_or]
  exact h other (by omega) offset'

theorem meet_of_fresh {number : Nat} {visited : Visited} (h : Fresh number visited) (cur : Cursor)
    (go : Visited → Attempt) :
    meet number cur visited go = go (visited.insert (number, cur.offset)) := by
  simp [meet, h number (Nat.le_refl number)]

/-- The run of a wrapped pattern among fresh choices is decided by the pattern on its own. -/
theorem run_wrapped (p : Pattern) (first : Nat) {number : Nat} {visited : Visited}
    (h : Fresh number visited) (cur : Cursor) :
    match p.matchAt? cur with
    | some found => run (group first (p.shift first)) number cur [] done visited =
        .matched found.extent.last ((first, found.extent) :: shiftGroups first found.groups)
    | none => ∃ visited', run (group first (p.shift first)) number cur [] done visited =
        .failed visited' ∧ Fresh (number + p.choices) visited' := by
  let close : Continue := fun last groups _ ↦ .matched last ((first, ⟨cur, last⟩) :: groups)
  let finish : Cursor → Groups → Groups := fun last groups ↦
    (first, ⟨cur, last⟩) :: shiftGroups first groups
  have hagree : Agree visited p.choices number ∅ visited := by
    constructor
    · intro other _ offset
      rw [fresh_empty 0 other (Nat.zero_le _) offset]
      exact h _ (Nat.le_add_left _ _) offset
    · exact fun _ _ _ ↦ rfl
  have hdone : SameContinue visited p.choices number first finish done close :=
    fun last groups _ _ _ ↦ .matched last groups
  have hrun : SameAttempt visited p.choices number finish (run p 0 cur [] done ∅)
      (run (p.shift first) (0 + number) cur (shiftGroups first []) close visited) :=
    sameStep_run p (Nat.le_of_eq (Nat.zero_add p.choices)) done close hdone cur [] ∅ visited hagree
  have hgroup : run (group first (p.shift first)) number cur [] done visited =
      run (p.shift first) (0 + number) cur (shiftGroups first []) close visited := by
    simp [run, shiftGroups, done, close]
  rw [hgroup]
  rw [matchAt?_eq]
  generalize run p 0 cur [] done ∅ = own at hrun
  generalize run (p.shift first) (0 + number) cur (shiftGroups first []) close visited = wrapped
    at hrun
  cases hrun with
  | matched last groups => rfl
  | failed hafter =>
    refine ⟨_, rfl, fun other hother offset ↦ ?_⟩
    rw [hafter.outside other (.inr (by omega)) offset]
    exact h other (by omega) offset

/-- The run of the whole choice, by induction on the patterns that are left to try. -/
theorem run_ofBranches (ps : List Pattern) (hps : ps ≠ []) (first : Nat) {number : Nat}
    {visited : Visited} (h : Fresh number visited) (cur : Cursor) :
    match firstMatch? first ps cur with
    | some found => run (ofBranches (wrapFrom first ps)) number cur [] done visited =
        .matched found.extent.last found.groups
    | none => ∃ visited', run (ofBranches (wrapFrom first ps)) number cur [] done visited =
        .failed visited' := by
  induction ps generalizing first number visited with
  | nil => contradiction
  | cons p ps ih =>
    cases ps with
    | nil =>
      have hp := run_wrapped p first h cur
      simp only [wrapFrom, ofBranches, firstMatch?]
      cases hmatch : p.matchAt? cur with
      | some found => simpa [hmatch] using hp
      | none =>
        obtain ⟨visited', hfailed, -⟩ := by simpa [hmatch] using hp
        exact ⟨visited', hfailed⟩
    | cons q qs =>
      have hp := run_wrapped p first (h.insert cur.offset) cur
      have hbranches : ofBranches (wrapFrom first (p :: q :: qs)) =
          alt (group first (p.shift first))
            (ofBranches (wrapFrom (first + p.groupCount) (q :: qs))) := rfl
      simp only [hbranches, run, meet_of_fresh h, firstMatch?]
      simp only [run] at hp
      cases hmatch : p.matchAt? cur with
      | some found =>
        simp only [hmatch] at hp
        simp only [hp, Attempt.orElse]
      | none =>
        simp only [hmatch] at hp
        obtain ⟨visited', hfailed, hfresh⟩ := hp
        simp only [hfailed, Attempt.orElse, choices, choices_shift]
        exact ih (by simp) (first + p.groupCount) hfresh

theorem firstMatch?_first {first : Nat} {ps : List Pattern} {cur : Cursor} {found : Match}
    (h : firstMatch? first ps cur = some found) : found.extent.first = cur := by
  induction ps generalizing first with
  | nil => simp [firstMatch?] at h
  | cons p ps ih =>
    simp only [firstMatch?] at h
    split at h
    case h_1 own hown =>
      obtain rfl := Option.some.inj h
      exact (matchAt?_eq_some hown).1
    case h_2 => exact ih h

/-- A choice between wrapped patterns matches like the first of them that matches on its own. -/
theorem matchAt?_ofBranches {ps : List Pattern} (hps : ps ≠ []) (first : Nat) (cur : Cursor) :
    (ofBranches (wrapFrom first ps)).matchAt? cur = firstMatch? first ps cur := by
  have hrun := run_ofBranches ps hps first (fresh_empty 0) cur
  rw [matchAt?_eq]
  cases hfirst : firstMatch? first ps cur with
  | some found =>
    rw [hfirst] at hrun
    dsimp only at hrun
    rw [hrun, ← firstMatch?_first hfirst]
  | none =>
    rw [hfirst] at hrun
    obtain ⟨visited', hfailed⟩ := hrun
    rw [hfailed]

/-- The groups of the match that wins are numbered from the group of its pattern on. -/
theorem le_of_mem_firstMatch? {first : Nat} {ps : List Pattern} {cur : Cursor} {found : Match}
    (h : firstMatch? first ps cur = some found) : ∀ mark ∈ found.groups, first ≤ mark.1 := by
  induction ps generalizing first with
  | nil => simp [firstMatch?] at h
  | cons p ps ih =>
    simp only [firstMatch?] at h
    split at h
    case h_1 own hown =>
      obtain rfl := Option.some.inj h
      intro mark hmark
      simp only [shiftGroups, List.mem_cons, List.mem_map] at hmark
      rcases hmark with rfl | ⟨inner, -, rfl⟩
      · exact Nat.le_refl first
      · exact Nat.le_add_left first inner.1
    case h_2 =>
      intro mark hmark
      exact Nat.le_trans (Nat.le_add_right _ _) (ih h mark hmark)

end OperatorGrammar.Pattern
