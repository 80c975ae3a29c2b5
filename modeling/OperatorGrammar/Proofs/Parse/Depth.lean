import Mathlib.Data.Nat.Init
import Mathlib.Tactic.ByContra
import OperatorGrammar.Parse

/-!
# Computations that are allowed a depth

A computation that finds its result at some depth finds the same one at all greater depths. What it
finds at all of them is its limit; it has none if no depth suffices. Limits obey the equations of
the computation with the depths left out.
-/

namespace OperatorGrammar

variable {α β : Type}

/-- Whatever the first of two computations finds, the second one finds as well. -/
def Refines (first second : Option α) : Prop :=
  ∀ ⦃found⦄, first = some found → second = some found

theorem refines_none (second : Option α) : Refines none second := by
  intro found h
  cases h

theorem Refines.refl (first : Option α) : Refines first first := fun _ h ↦ h

theorem Refines.bind {first second : Option α} (h : Refines first second)
    {next later : α → Option β} (hnext : ∀ found, Refines (next found) (later found)) :
    Refines (first.bind next) (second.bind later) := by
  intro result hresult
  obtain ⟨found, hfound, hresult⟩ := Option.bind_eq_some_iff.1 hresult
  exact Option.bind_eq_some_iff.2 ⟨found, h hfound, hnext found hresult⟩

/-- Whatever is found at one depth is found one deeper. -/
def Steady (attempt : Nat → Option α) : Prop :=
  ∀ depth, Refines (attempt depth) (attempt (depth + 1))

theorem Steady.of_le {attempt : Nat → Option α} (h : Steady attempt) {depth deeper : Nat}
    (hle : depth ≤ deeper) : Refines (attempt depth) (attempt deeper) := by
  induction deeper, hle using Nat.le_induction with
  | base => exact Refines.refl _
  | succ deeper _ ih => exact fun _ hfound ↦ h deeper (ih hfound)

open Classical in
/-- What is found at all depths that suffice, if any does. -/
noncomputable def limit (attempt : Nat → Option α) : Option α :=
  if h : ∃ depth, (attempt depth).isSome then attempt h.choose else none

variable {attempt : Nat → Option α}

theorem Steady.limit_eq_some_iff (h : Steady attempt) {found : α} :
    limit attempt = some found ↔ ∃ depth, attempt depth = some found := by
  constructor
  · intro hlimit
    by_cases hsome : ∃ depth, (attempt depth).isSome
    · rw [limit, dif_pos hsome] at hlimit
      exact ⟨_, hlimit⟩
    · simp [limit, hsome] at hlimit
  · rintro ⟨depth, hdepth⟩
    have hsome : ∃ depth, (attempt depth).isSome := ⟨depth, by simp [hdepth]⟩
    obtain ⟨other, hother⟩ := Option.isSome_iff_exists.1 hsome.choose_spec
    -- the two depths need not be the same, but a greater one finds what both of them find
    calc
      limit attempt = attempt hsome.choose := dif_pos hsome
      _ = some other := hother
      _ = attempt (max depth hsome.choose) := (h.of_le (Nat.le_max_right _ _) hother).symm
      _ = some found := h.of_le (Nat.le_max_left _ _) hdepth

@[simp]
theorem limit_const (found : Option α) : (limit fun _ ↦ found) = found := by
  cases found <;> simp [limit]

theorem Steady.succ (h : Steady attempt) : Steady fun depth ↦ attempt (depth + 1) :=
  fun depth ↦ h (depth + 1)

theorem Steady.limit_succ (h : Steady attempt) :
    (limit fun depth ↦ attempt (depth + 1)) = limit attempt := by
  ext found
  rw [h.succ.limit_eq_some_iff, h.limit_eq_some_iff]
  constructor
  · exact fun ⟨depth, hfound⟩ ↦ ⟨depth + 1, hfound⟩
  · exact fun ⟨depth, hfound⟩ ↦ ⟨depth, h depth hfound⟩

theorem Steady.bind (h : Steady attempt) {next : α → Nat → Option β}
    (hnext : ∀ found, Steady (next found)) :
    Steady fun depth ↦ (attempt depth).bind fun found ↦ next found depth :=
  fun depth ↦ (h depth).bind fun found ↦ hnext found depth

/-- Two computations in a row have the limits in a row as their limit. -/
theorem Steady.limit_bind (h : Steady attempt) {next : α → Nat → Option β}
    (hnext : ∀ found, Steady (next found)) :
    (limit fun depth ↦ (attempt depth).bind fun found ↦ next found depth) =
      (limit attempt).bind fun found ↦ limit (next found) := by
  ext result
  simp only [(h.bind hnext).limit_eq_some_iff, Option.bind_eq_some_iff, h.limit_eq_some_iff,
    (hnext _).limit_eq_some_iff]
  constructor
  · rintro ⟨depth, found, hfound, hresult⟩
    exact ⟨found, ⟨depth, hfound⟩, ⟨depth, hresult⟩⟩
  · rintro ⟨found, ⟨depth, hfound⟩, ⟨depth', hresult⟩⟩
    exact ⟨max depth depth', found, h.of_le (Nat.le_max_left ..) hfound,
      (hnext found).of_le (Nat.le_max_right ..) hresult⟩

theorem repeatM_deepen (attempt : Nat → Option α) (depth : Nat) :
    repeatM (deepen attempt) depth =
      match attempt depth with
      | none => repeatM (deepen attempt) (2 * depth + 1)
      | some found => pure (some found) := by
  rw [repeatM_eq_of_monadTail]
  unfold repeatM.body deepen
  cases attempt depth <;> rfl

/-- Growing depths reach every depth that suffices. -/
theorem Steady.atSomeDepth_eq (h : Steady attempt) {found : α}
    (hlimit : limit attempt = some found) : atSomeDepth attempt = some found := by
  obtain ⟨enough, henough⟩ := h.limit_eq_some_iff.1 hlimit
  suffices hall : ∀ depth, repeatM (deepen attempt) depth = pure (some found) from hall 63
  intro depth
  induction hrest : enough - depth using Nat.strong_induction_on generalizing depth with
  | _ rest ih =>
    rw [repeatM_deepen]
    cases hdepth : attempt depth with
    | some other =>
      have hother := h.of_le (Nat.le_max_left depth enough) hdepth
      rw [h.of_le (Nat.le_max_right depth enough) henough] at hother
      rw [hother]
    | none =>
      have hlt : depth < enough := by
        by_contra hge
        simp [h.of_le (Nat.not_lt.1 hge) henough] at hdepth
      exact ih (enough - (2 * depth + 1)) (by omega) (2 * depth + 1) rfl

end OperatorGrammar
