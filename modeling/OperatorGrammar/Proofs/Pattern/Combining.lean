import OperatorGrammar.Pattern.Build
import OperatorGrammar.Proofs.Pattern.Renumbering

/-!
# Combining patterns with raised numbers

The ways to combine patterns simplify what they are given, and compare parts of it for this. Raising
all group numbers by the same amount changes no comparison, so it may be done before or afterwards.
-/

namespace OperatorGrammar.Pattern

variable {amount : Nat}

theorem shift_injective (amount : Nat) : Function.Injective (shift amount) := by
  intro p q h
  induction p generalizing q with
  | group index body ih =>
    cases q <;> simp only [shift, reduceCtorEq, group.injEq, Nat.add_right_cancel_iff] at h
    rw [h.1, ih h.2]
  | rep greedy least most body ih =>
    cases q <;> simp only [shift, reduceCtorEq, rep.injEq] at h
    rw [h.1, h.2.1, h.2.2.1, ih h.2.2.2]
  | cat first second ih ih' =>
    cases q <;> simp only [shift, reduceCtorEq, cat.injEq] at h
    rw [ih h.1, ih' h.2]
  | alt first second ih ih' =>
    cases q <;> simp only [shift, reduceCtorEq, alt.injEq] at h
    rw [ih h.1, ih' h.2]
  | _ => cases q <;> simp_all [shift]

theorem matchesOnlyEmpty_shift (p : Pattern) :
    (p.shift amount).matchesOnlyEmpty = p.matchesOnlyEmpty := by
  induction p <;> simp_all [shift, matchesOnlyEmpty]

theorem parts_shift (p : Pattern) : (p.shift amount).parts = p.parts.map (shift amount) := by
  induction p <;> simp_all [shift, parts]

theorem branches_shift (p : Pattern) :
    (p.shift amount).branches = p.branches.map (shift amount) := by
  induction p <;> simp_all [shift, branches]

theorem ofSet_shift (alphabet : Alphabet) (chars : CharSet) :
    (ofSet alphabet chars).shift amount = ofSet alphabet chars := by
  unfold ofSet nothing
  split
  · rfl
  · split <;> rfl

theorem ofParts_map (ps : List Pattern) :
    ofParts (ps.map (shift amount)) = (ofParts ps).shift amount := by
  fun_induction ofParts ps <;> simp_all [ofParts, shift]

theorem ofBranches_map (ps : List Pattern) :
    ofBranches (ps.map (shift amount)) = (ofBranches ps).shift amount := by
  fun_induction ofBranches ps <;> simp_all [ofBranches, shift, nothing]

theorem joinLiterals_map (ps : List Pattern) :
    joinLiterals (ps.map (shift amount)) = (joinLiterals ps).map (shift amount) := by
  induction ps with
  | nil => rfl
  | cons p ps ih =>
    cases p <;> simp only [List.map_cons, shift, joinLiterals, ih]
    case literal chars =>
      rcases hjoined : joinLiterals ps with - | ⟨q, qs⟩
      · rfl
      · cases q <;> rfl

theorem concat_map (ps : List Pattern) :
    concat (ps.map (shift amount)) = (concat ps).shift amount := by
  have hparts : (ps.map (shift amount)).flatMap parts = (ps.flatMap parts).map (shift amount) := by
    simp [List.flatMap_map, List.map_flatMap, parts_shift]
  rw [concat, hparts, joinLiterals_map, ofParts_map, concat]

theorem commonHead_map (ps qs : List Pattern) :
    commonHead (ps.map (shift amount)) (qs.map (shift amount)) =
      (commonHead ps qs).map (shift amount) := by
  induction ps generalizing qs with
  | nil => rfl
  | cons p ps ih =>
    cases qs with
    | nil => rfl
    | cons q qs =>
      simp only [List.map_cons, commonHead, (shift_injective amount).eq_iff, ih]
      split <;> rfl

theorem foldl_commonHead_map (b : List Pattern) (bs : List (List Pattern)) :
    (bs.map (List.map (shift amount))).foldl commonHead (b.map (shift amount)) =
      (bs.foldl commonHead b).map (shift amount) := by
  induction bs generalizing b with
  | nil => rfl
  | cons b' bs ih => rw [List.map_cons, List.foldl_cons, commonHead_map, ih, List.foldl_cons]

theorem sharedHead_map (bs : List (List Pattern)) :
    sharedHead (bs.map (List.map (shift amount))) = (sharedHead bs).map (shift amount) := by
  cases bs with
  | nil => rfl
  | cons b bs =>
    have hlong : ((b :: bs).map (List.map (shift amount))).all (2 ≤ ·.length) =
        (b :: bs).all (2 ≤ ·.length) := by
      simp [List.all_map, Function.comp_def]
    simp only [List.map_cons] at hlong
    simp only [sharedHead, List.map_cons, hlong]
    split
    · exact foldl_commonHead_map b bs
    · rfl

theorem merge?_map (ps : List Pattern) : merge? (ps.map (shift amount)) = merge? ps := by
  have hletter : letter? ∘ shift amount = letter? := by
    funext p
    cases p <;> rfl
  have hset : charSet? ∘ shift amount = charSet? := by
    funext p
    cases p <;> rfl
  simp only [merge?, List.mapM_map, hletter, hset]

theorem shift_of_merge?_eq_some {ps : List Pattern} {p : Pattern} (h : merge? ps = some p) :
    p.shift amount = p := by
  obtain ⟨sets, -, rfl⟩ := Option.map_eq_some_iff.1 h
  exact ofSet_shift _ _

theorem select_map (ps : List Pattern) :
    select (ps.map (shift amount)) = (select ps).shift amount := by
  have hmerged : ∀ ps : List Pattern,
      (merge? (ps.map (shift amount))).getD (ofBranches (ps.map (shift amount))) =
        ((merge? ps).getD (ofBranches ps)).shift amount := by
    intro ps
    rw [merge?_map, ofBranches_map]
    cases hmerge : merge? ps with
    | none => rfl
    | some p => exact (shift_of_merge?_eq_some hmerge).symm
  match ps with
  | [] => exact hmerged []
  | [p] => rfl
  | p :: q :: ps => exact hmerged (p :: q :: ps)

theorem choice_map (ps : List Pattern) :
    choice (ps.map (shift amount)) = (choice ps).shift amount := by
  have hbranches : (ps.map (shift amount)).flatMap branches =
      (ps.flatMap branches).map (shift amount) := by
    simp [List.flatMap_map, List.map_flatMap, branches_shift]
  have hparts : ((ps.flatMap branches).map (shift amount)).map parts =
      ((ps.flatMap branches).map parts).map (List.map (shift amount)) := by
    simp [Function.comp_def, parts_shift]
  have htails (n : Nat) :
      (((ps.flatMap branches).map (shift amount)).map fun b ↦ ofParts (b.parts.drop n)).flatMap
          branches =
        (((ps.flatMap branches).map fun b ↦ ofParts (b.parts.drop n)).flatMap branches).map
          (shift amount) := by
    rw [List.map_map, List.flatMap_map, List.flatMap_map, List.map_flatMap]
    simp only [Function.comp_apply, parts_shift, ← List.map_drop, ofParts_map, branches_shift]
  simp only [choice, hbranches, hparts, sharedHead_map, List.map_eq_nil_iff, List.length_map,
    htails, select_map]
  split
  · rfl
  · rw [← concat_map, List.map_append, List.map_singleton]

theorem repeated_shift (greedy : Bool) (least : Nat) (most : Option Nat) (p : Pattern) :
    repeated greedy least most (p.shift amount) = (repeated greedy least most p).shift amount := by
  simp only [repeated, matchesOnlyEmpty_shift]
  generalize (if p.matchesOnlyEmpty then (min least 1, some ((most.map (min · 1)).getD 1))
    else (least, most)) = bounds
  obtain ⟨least, most⟩ := bounds
  rcases least with _ | _ | least <;> rcases most with _ | _ | _ | most <;> rfl

end OperatorGrammar.Pattern
