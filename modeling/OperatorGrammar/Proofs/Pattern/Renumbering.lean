import OperatorGrammar.Pattern.Match

/-!
# The numbers of choices and groups

How the choices of a pattern are numbered, and which choices outside of it were met before, has no
effect on what it matches: two runs whose tables agree on the pattern's own choices make the same
moves. If the numbers of the groups differ by a constant, so do those of the groups that took part.
-/

namespace OperatorGrammar.Pattern

/-- The pattern with all group numbers raised. -/
def shift (amount : Nat) : Pattern → Pattern
  | empty => empty
  | literal chars => literal chars
  | set alphabet chars => set alphabet chars
  | look assertion => look assertion
  | group index body => group (index + amount) (body.shift amount)
  | rep greedy least most body => rep greedy least most (body.shift amount)
  | cat first second => cat (first.shift amount) (second.shift amount)
  | alt first second => alt (first.shift amount) (second.shift amount)

@[simp]
theorem choices_shift (amount : Nat) (p : Pattern) : (p.shift amount).choices = p.choices := by
  induction p <;> simp_all [shift, choices]

@[simp]
theorem shortest_shift (amount : Nat) (p : Pattern) : (p.shift amount).shortest = p.shortest := by
  induction p <;> simp_all [shift, shortest]

@[simp]
theorem consumes_shift (amount : Nat) (p : Pattern) : (p.shift amount).consumes = p.consumes := by
  simp [consumes]

def shiftGroups (amount : Nat) (groups : Groups) : Groups :=
  groups.map fun mark ↦ (mark.1 + amount, mark.2)

/-- The two tables hold the same of the choices numbered below `bound`, which the second one numbers
from `start` on; all other choices are in the second one as they are in `base`. -/
structure Agree (base : Visited) (bound start : Nat) (visited visited' : Visited) : Prop where
  inside : ∀ number < bound, ∀ offset,
    visited'.contains (number + start, offset) = visited.contains (number, offset)
  outside : ∀ number, number < start ∨ bound + start ≤ number → ∀ offset,
    visited'.contains (number, offset) = base.contains (number, offset)

theorem contains_insert_choice (visited : Visited) (number number' offset offset' : Nat) :
    (visited.insert (number', offset')).contains (number, offset) =
      (decide (number' = number ∧ offset' = offset) || visited.contains (number, offset)) := by
  rw [Std.TreeSet.contains_insert]
  congr 1
  rw [Bool.eq_iff_iff, beq_iff_eq, Std.LawfulEqCmp.compare_eq_iff_eq]
  simp

variable {base : Visited} {bound start amount : Nat} {visited visited' : Visited}

theorem Agree.insert (h : Agree base bound start visited visited') {number : Nat}
    (hnumber : number < bound) (offset : Nat) :
    Agree base bound start (visited.insert (number, offset))
      (visited'.insert (number + start, offset)) where
  inside other hother offset' := by
    rw [contains_insert_choice, contains_insert_choice, h.inside other hother]
    simp
  outside other hother offset' := by
    have hne : ¬ (number + start = other ∧ offset = offset') := by omega
    rw [contains_insert_choice, h.outside other hother, decide_eq_false hne, Bool.false_or]

variable {finish : Cursor → Groups → Groups}

variable (base bound start finish) in
/-- Attempts with the same outcome, where the second one finishes the groups of its match. -/
inductive SameAttempt : Attempt → Attempt → Prop
  | matched (last : Cursor) (groups : Groups) :
    SameAttempt (.matched last groups) (.matched last (finish last groups))
  | failed {visited visited' : Visited} (h : Agree base bound start visited visited') :
    SameAttempt (.failed visited) (.failed visited')

variable (base bound start amount finish) in
def SameContinue (next next' : Continue) : Prop :=
  ∀ cur groups visited visited', Agree base bound start visited visited' →
    SameAttempt base bound start finish (next cur groups visited)
      (next' cur (shiftGroups amount groups) visited')

variable (base bound start amount finish) in
def SameStep (step step' : Step) : Prop :=
  ∀ next next', SameContinue base bound start amount finish next next' →
    SameContinue base bound start amount finish (fun cur groups ↦ step cur groups next)
      fun cur groups ↦ step' cur groups next'

theorem SameAttempt.orElse {first first' : Attempt} {second second' : Visited → Attempt}
    (h : SameAttempt base bound start finish first first')
    (h' : ∀ visited visited', Agree base bound start visited visited' →
      SameAttempt base bound start finish (second visited) (second' visited')) :
    SameAttempt base bound start finish (first.orElse second) (first'.orElse second') := by
  cases h with
  | matched last groups => exact .matched last groups
  | failed h => exact h' _ _ h

theorem sameAttempt_meet {number : Nat} (hnumber : number < bound) (cur : Cursor)
    {go go' : Visited → Attempt} (h : Agree base bound start visited visited')
    (hgo : ∀ visited visited', Agree base bound start visited visited' →
      SameAttempt base bound start finish (go visited) (go' visited')) :
    SameAttempt base bound start finish (meet number cur visited go)
      (meet (number + start) cur visited' go') := by
  unfold meet
  rw [h.inside number hnumber]
  split
  · exact .failed h
  · exact hgo _ _ (h.insert hnumber _)

variable {greedy : Bool} {next next' again again' : Continue} {number : Nat}

theorem sameContinue_turn {round round' : Step} (hnumber : number < bound)
    (hround : SameStep base bound start amount finish round round')
    (hnext : SameContinue base bound start amount finish next next')
    (hagain : SameContinue base bound start amount finish again again') :
    SameContinue base bound start amount finish (turn number greedy round next again)
      (turn (number + start) greedy round' next' again') := by
  intro cur groups visited visited' h
  refine sameAttempt_meet hnumber cur h fun visited visited' h ↦ ?_
  split
  · exact (hround _ _ hagain cur groups _ _ h).orElse (hnext cur groups)
  · exact (hnext cur groups _ _ h).orElse (hround _ _ hagain cur groups)

theorem sameContinue_loop {round round' : Step} (hnumber : number < bound)
    (hround : SameStep base bound start amount finish round round')
    (hnext : SameContinue base bound start amount finish next next') (left : List Char) :
    SameContinue base bound start amount finish (loop number greedy round next left)
      (loop (number + start) greedy round' next' left) := by
  induction left with
  | nil => exact sameContinue_turn hnumber hround hnext fun _ _ _ _ h ↦ .failed h
  | cons _ left ih => exact sameContinue_turn hnumber hround hnext ih

variable {rounds rounds' : Nat → Step} {limit : Nat}

theorem sameContinue_times
    (hrounds : ∀ index < limit,
      SameStep base bound start amount finish (rounds index) (rounds' index))
    (hnext : SameContinue base bound start amount finish next next') {first count : Nat}
    (hlimit : first + count ≤ limit) :
    SameContinue base bound start amount finish (times rounds next first count)
      (times rounds' next' first count) := by
  induction count generalizing first with
  | zero => exact hnext
  | succ count ih => exact hrounds first (by omega) _ _ (ih (by omega))

theorem sameContinue_upTo {numbers : Nat → Nat} (hnumbers : ∀ index < limit, numbers index < bound)
    (hrounds : ∀ index < limit,
      SameStep base bound start amount finish (rounds index) (rounds' index))
    (hnext : SameContinue base bound start amount finish next next') {first count : Nat}
    (hlimit : first + count ≤ limit) :
    SameContinue base bound start amount finish (upTo numbers greedy rounds next first count)
      (upTo (fun index ↦ numbers index + start) greedy rounds' next' first count) := by
  induction count generalizing first with
  | zero => exact hnext
  | succ count ih =>
    exact sameContinue_turn (hnumbers first (by omega)) (hrounds first (by omega)) hnext
      (ih (by omega))

/-- The choices of one copy of the body of a repetition lie among those of the repetition. -/
theorem copy_lt {choices limit index : Nat} (number : Nat) (h : index < limit) :
    number + index * (choices + 1) + 1 + choices ≤ number + (choices + 1) * limit := by
  have hmul : (index + 1) * (choices + 1) ≤ limit * (choices + 1) := Nat.mul_le_mul_right _ h
  rw [Nat.mul_comm (choices + 1) limit]
  rw [Nat.add_mul] at hmul
  omega

/-- A pattern and its renumbered copy make the same moves. -/
theorem sameStep_run (p : Pattern) {number : Nat} (h : number + p.choices ≤ bound) :
    SameStep base bound start amount finish (run p number)
      (run (p.shift amount) (number + start)) := by
  induction p generalizing number with
  | empty => exact fun next next' hnext ↦ hnext
  | literal chars =>
    intro next next' hnext cur groups visited visited' hagree
    simp only [run, shift]
    split
    · exact .failed hagree
    · exact hnext _ _ _ _ hagree
  | set alphabet chars =>
    intro next next' hnext cur groups visited visited' hagree
    simp only [run, shift]
    split
    · exact .failed hagree
    · split
      · exact hnext _ _ _ _ hagree
      · exact .failed hagree
  | look assertion =>
    intro next next' hnext cur groups visited visited' hagree
    simp only [run, shift]
    split
    · exact hnext _ _ _ _ hagree
    · exact .failed hagree
  | group index body ih =>
    intro next next' hnext cur groups visited visited' hagree
    exact ih h _ _ (fun last groups ↦ hnext last ((index, ⟨cur, last⟩) :: groups)) cur groups
      visited visited' hagree
  | rep greedy least most body ih =>
    intro next next' hnext cur groups visited visited' hagree
    have hlimit : ∀ index < max least (most.getD 1) + 1,
        number + index * (body.choices + 1) + 1 + body.choices ≤ bound :=
      fun index hindex ↦ Nat.le_trans (copy_lt number hindex) h
    have hrounds : ∀ index < max least (most.getD 1) + 1, SameStep base bound start amount finish
        (run body (number + index * (body.choices + 1) + 1))
        (run (body.shift amount) (number + index * (body.choices + 1) + start + 1)) := by
      intro index hindex
      have hbody := ih (hlimit index hindex)
      rwa [Nat.add_right_comm _ 1 start] at hbody
    have hnumbers : ∀ index < max least (most.getD 1) + 1,
        number + index * (body.choices + 1) < bound :=
      fun index hindex ↦ Nat.lt_of_lt_of_le (by omega) (hlimit index hindex)
    simp only [run, shift, choices_shift, consumes_shift, Nat.add_right_comm number start]
    cases most with
    | some most =>
      exact sameContinue_times hrounds (sameContinue_upTo hnumbers hrounds hnext
        (by simp only [Option.getD_some]; omega)) (by omega) cur groups _ _ hagree
    | none =>
      have hgoing : SameContinue base bound start amount finish
          (fun cur groups visited ↦ loop (number + (least - 1) * (body.choices + 1)) greedy
            (run body (number + (least - 1) * (body.choices + 1) + 1)) next cur.after cur groups
            visited)
          (fun cur groups visited ↦ loop (number + (least - 1) * (body.choices + 1) + start) greedy
            (run (body.shift amount) (number + (least - 1) * (body.choices + 1) + start + 1)) next'
            cur.after cur groups visited) :=
        fun cur ↦ sameContinue_loop (hnumbers _ (by omega)) (hrounds _ (by omega)) hnext _ cur
      dsimp only
      split
      · exact sameContinue_times hrounds hgoing (by omega) cur groups _ _ hagree
      · split
        · exact hgoing cur groups _ _ hagree
        · exact sameContinue_turn (hnumbers 1 (by simp only [Option.getD_none]; omega))
            (hrounds 0 (by omega)) hnext hgoing cur groups _ _ hagree
  | cat first second ih ih' =>
    simp only [choices] at h
    intro next next' hnext
    refine ih (by omega) _ _ ?_
    rw [choices_shift, Nat.add_right_comm]
    exact ih' (by omega) _ _ hnext
  | alt first second ih ih' =>
    simp only [choices] at h
    intro next next' hnext cur groups visited visited' hagree
    simp only [run, shift, choices_shift, Nat.add_right_comm number start]
    have hfirst := @ih (number + 1) (by omega) _ _ hnext
    have hsecond := @ih' (number + 1 + first.choices) (by omega) _ _ hnext
    rw [Nat.add_right_comm _ first.choices start] at hsecond
    exact sameAttempt_meet (by omega) cur hagree fun visited visited' hagree ↦
      (hfirst cur groups _ _ hagree).orElse (hsecond cur groups)

end OperatorGrammar.Pattern
