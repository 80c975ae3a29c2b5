import OperatorGrammar.Proofs.Pattern.Reach
import OperatorGrammar.Proofs.Pattern.Renumbering

/-!
# Single characters and runs of a set

What the two simplest kinds of patterns match: a literal of one character, and the longest run of
characters from a set.
-/

namespace OperatorGrammar.Pattern

theorem matchAt?_literal_singleton (c : Char) (cur : Cursor) :
    (literal [c]).matchAt? cur =
      match cur.after with
      | [] => none
      | d :: rest => if d = c then some ⟨⟨cur, cur.step d rest⟩, []⟩ else none := by
  simp only [matchAt?, run, Cursor.skip?, Cursor.advance?]
  cases cur.after with
  | nil => rfl
  | cons d rest => by_cases h : d = c <;> simp [h]

/-- A run of characters from the set stops in front of the rest. -/
def Stops (chars : CharSet) (rest : List Char) : Prop :=
  ∀ c ∈ rest.head?, chars.contains c = false

variable {alphabet : Alphabet} {chars : CharSet} {number inner : Nat} {cur beyond : Cursor}
  {groups : Groups} {next again : Continue} {visited : Visited}

theorem run_set_of_mem {c : Char} (hnext : cur.advance? = some (c, beyond))
    (hc : chars.contains c = true) :
    run (set alphabet chars) number cur groups next visited = next beyond groups visited := by
  simp only [run, hnext, hc, if_true]

theorem run_set_of_stops (h : Stops chars cur.after) :
    run (set alphabet chars) number cur groups next visited = .failed visited := by
  unfold run Cursor.advance?
  cases hafter : cur.after with
  | nil => rfl
  | cons c rest =>
    have hc : chars.contains c = false := h c (by rw [hafter]; rfl)
    simp [hc]

theorem turn_of_fresh {round : Step} (h : visited.contains (number, cur.offset) = false) :
    turn number true round next again cur groups visited =
      (round cur groups again (visited.insert (number, cur.offset))).orElse (next cur groups) := by
  simp only [turn, meet, h, Bool.false_eq_true, if_false, if_true]

theorem loop_of_stops (h : Stops chars cur.after)
    (hfresh : visited.contains (number, cur.offset) = false) (left : List Char) :
    loop number true (run (set alphabet chars) inner) next left cur groups visited =
      next cur groups (visited.insert (number, cur.offset)) := by
  cases left <;> rw [loop, turn_of_fresh hfresh, run_set_of_stops h, Attempt.orElse]

variable {taken rest : List Char}

/-- A greedy loop over a set takes all of a run. Every round stands at an offset that the loop has
not met yet, so that no round is passed over. -/
theorem loop_set (htaken : ∀ c ∈ taken, chars.contains c = true) (hrest : Stops chars rest)
    (hafter : cur.after = taken ++ rest)
    (hfresh : ∀ offset, cur.offset ≤ offset → visited.contains (number, offset) = false) :
    ∃ last ∈ cur.positions, last.after = rest ∧
      loop number true (run (set alphabet chars) inner) (fun last groups _ ↦ .matched last groups)
        cur.after cur groups visited = .matched last groups := by
  induction taken generalizing cur visited with
  | nil =>
    rw [List.nil_append] at hafter
    refine ⟨cur, cur.mem_positions_self, hafter, ?_⟩
    rw [loop_of_stops (hafter ▸ hrest) (hfresh cur.offset (Nat.le_refl _))]
  | cons c taken ih =>
    rw [List.cons_append] at hafter
    have hnext : cur.advance? = some (c, cur.step c (taken ++ rest)) :=
      Cursor.advance?_eq_some_iff.2 ⟨_, hafter, rfl⟩
    have hfresh' (offset : Nat) (hoffset : (cur.step c (taken ++ rest)).offset ≤ offset) :
        (visited.insert (number, cur.offset)).contains (number, offset) = false := by
      have hpos : 0 < c.utf8Size := Char.utf8Size_pos c
      simp only [Cursor.step] at hoffset
      rw [contains_insert_choice, hfresh offset (by omega), Bool.or_false, decide_eq_false_iff_not]
      omega
    obtain ⟨last, hlast, hlastAfter, hloop⟩ :=
      ih (fun d hd ↦ htaken d (List.mem_cons_of_mem c hd)) rfl hfresh'
    refine ⟨last, Cursor.mem_positions_trans (Cursor.mem_positions_of_advance? hnext) hlast,
      hlastAfter, ?_⟩
    rw [hafter, loop, turn_of_fresh (hfresh cur.offset (Nat.le_refl _)),
      run_set_of_mem hnext (htaken c List.mem_cons_self)]
    change Attempt.orElse (loop number true _ _ (cur.step c (taken ++ rest)).after _ groups _) _ = _
    rw [hloop, Attempt.orElse]

/-- A greedy repetition of a set matches the longest run in front of it. -/
theorem matchAt?_run (hne : taken ≠ []) (htaken : ∀ c ∈ taken, chars.contains c = true)
    (hrest : Stops chars rest) (hafter : cur.after = taken ++ rest) :
    ∃ last ∈ cur.positions, last.after = rest ∧
      (rep true 1 none (set alphabet chars)).matchAt? cur = some ⟨⟨cur, last⟩, []⟩ := by
  obtain ⟨c, taken, rfl⟩ := List.exists_cons_of_ne_nil hne
  rw [List.cons_append] at hafter
  have hnext : cur.advance? = some (c, cur.step c (taken ++ rest)) :=
    Cursor.advance?_eq_some_iff.2 ⟨_, hafter, rfl⟩
  have htaken' : ∀ d ∈ taken, chars.contains d = true :=
    fun d hd ↦ htaken d (List.mem_cons_of_mem c hd)
  have hloop : ∃ last ∈ (cur.step c (taken ++ rest)).positions, last.after = rest ∧
      loop 0 true (run (set alphabet chars) 1) (fun last groups _ ↦ .matched last groups)
        (taken ++ rest) (cur.step c (taken ++ rest)) [] ∅ = .matched last [] :=
    loop_set htaken' hrest rfl fun offset _ ↦ Std.TreeSet.contains_emptyc
  obtain ⟨last, hlast, hlastAfter, hloop⟩ := hloop
  refine ⟨last, Cursor.mem_positions_trans (Cursor.mem_positions_of_advance? hnext) hlast,
    hlastAfter, ?_⟩
  have hrun : (rep true 1 none (set alphabet chars)).run 0 cur []
      (fun last groups _ ↦ .matched last groups) ∅ = .matched last [] := by
    rw [run]
    simp only [Nat.zero_lt_one, if_true, times]
    rw [run_set_of_mem hnext (htaken c List.mem_cons_self)]
    exact hloop
  rw [matchAt?, hrun]

/-- A repetition of a set needs a member of the set to start with. -/
theorem matchAt?_run_of_stops (h : Stops chars cur.after) :
    (rep true 1 none (set alphabet chars)).matchAt? cur = none := by
  have hrun : (rep true 1 none (set alphabet chars)).run 0 cur []
      (fun last groups _ ↦ .matched last groups) ∅ = .failed ∅ := by
    rw [run]
    simp only [Nat.zero_lt_one, if_true, times]
    exact run_set_of_stops h
  rw [matchAt?, hrun]

end OperatorGrammar.Pattern
