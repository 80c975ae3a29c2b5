import OperatorGrammar.Pattern.Match
import OperatorGrammar.Proofs.Text.Positions

/-!
# Where a match ends

A search for a pattern succeeds only through the search for what comes after it, which it hands a
position ahead and the groups that took part on the way. Hence a match ends at or behind the
position at which it starts, and its groups lie inside it.
-/

namespace OperatorGrammar

/-- An extent inside another one. -/
structure Extent.Inside (inner outer : Extent) : Prop where
  first_mem : inner.first ∈ outer.first.positions
  last_mem : inner.last ∈ inner.first.positions
  end_mem : outer.last ∈ inner.last.positions

theorem Extent.Inside.mono {inner outer wider : Extent} (h : inner.Inside outer)
    (hfirst : outer.first ∈ wider.first.positions) (hlast : wider.last ∈ outer.last.positions) :
    inner.Inside wider :=
  ⟨Cursor.mem_positions_trans hfirst h.first_mem, h.last_mem,
    Cursor.mem_positions_trans h.end_mem hlast⟩

namespace Pattern

/-- Whenever `go` succeeds, it does so through `next`, at a position ahead and with more groups, all
of them numbered below `bound` and between the two positions. -/
def Reaches (bound : Nat) (go next : Continue) : Prop :=
  ∀ cur groups visited last groups', go cur groups visited = .matched last groups' →
    ∃ beyond ∈ cur.positions, ∃ more : Groups,
      (∀ mark ∈ more, mark.1 < bound ∧ mark.2.Inside ⟨cur, beyond⟩) ∧
      ∃ visited', next beyond (more ++ groups) visited' = .matched last groups'

variable {bound : Nat} {go mid next : Continue}

theorem Reaches.refl (bound : Nat) (next : Continue) : Reaches bound next next :=
  fun cur _ visited _ _ h ↦ ⟨cur, cur.mem_positions_self, [], by simp, visited, h⟩

theorem Reaches.trans (h : Reaches bound go mid) (h' : Reaches bound mid next) :
    Reaches bound go next := by
  intro cur groups visited last groups' hgo
  obtain ⟨pos, hpos, more, hmore, visited₁, hmid⟩ := h _ _ _ _ _ hgo
  obtain ⟨beyond, hbeyond, more', hmore', visited₂, hnext⟩ := h' _ _ _ _ _ hmid
  refine ⟨beyond, Cursor.mem_positions_trans hpos hbeyond, more' ++ more, ?_, visited₂, ?_⟩
  · intro mark hmark
    rcases List.mem_append.1 hmark with hmark | hmark
    · obtain ⟨hbound, hinside⟩ := hmore' mark hmark
      exact ⟨hbound, hinside.mono hpos beyond.mem_positions_self⟩
    · obtain ⟨hbound, hinside⟩ := hmore mark hmark
      exact ⟨hbound, hinside.mono cur.mem_positions_self hbeyond⟩
  · rwa [List.append_assoc]

theorem Reaches.mono {bound' : Nat} (h : Reaches bound go next) (hle : bound ≤ bound') :
    Reaches bound' go next := by
  intro cur groups visited last groups' hgo
  obtain ⟨beyond, hbeyond, more, hmore, rest⟩ := h _ _ _ _ _ hgo
  refine ⟨beyond, hbeyond, more, fun mark hmark ↦ ?_, rest⟩
  exact ⟨Nat.lt_of_lt_of_le (hmore mark hmark).1 hle, (hmore mark hmark).2⟩

theorem Reaches.failed (bound : Nat) (next : Continue) :
    Reaches bound (fun _ _ visited ↦ .failed visited) next := nofun

theorem orElse_eq_matched {first : Attempt} {second : Visited → Attempt} {last : Cursor}
    {groups : Groups} (h : first.orElse second = .matched last groups) :
    first = .matched last groups ∨ ∃ visited, second visited = .matched last groups := by
  cases first with
  | matched => exact .inl h
  | failed visited => exact .inr ⟨visited, h⟩

theorem meet_eq_matched {number : Nat} {cur last : Cursor} {visited : Visited}
    {go : Visited → Attempt} {groups : Groups}
    (h : meet number cur visited go = .matched last groups) :
    ∃ visited', go visited' = .matched last groups := by
  unfold meet at h
  split at h
  · simp at h
  · exact ⟨_, h⟩

/-- A step reaches whatever comes after it. -/
abbrev StepReaches (bound : Nat) (step : Step) : Prop :=
  ∀ next, Reaches bound (fun cur groups ↦ step cur groups next) next

variable {greedy : Bool} {again : Continue}

theorem reaches_turn {round : Step} (number : Nat) (hround : StepReaches bound round)
    (hagain : Reaches bound again next) :
    Reaches bound (turn number greedy round next again) next := by
  have hon : Reaches bound (fun cur groups ↦ round cur groups again) next :=
    (hround again).trans hagain
  intro cur groups visited last groups' h
  obtain ⟨visited', h⟩ := meet_eq_matched h
  split at h
  · rcases orElse_eq_matched h with h | ⟨visited'', h⟩
    · exact hon _ _ _ _ _ h
    · exact Reaches.refl bound next _ _ _ _ _ h
  · rcases orElse_eq_matched h with h | ⟨visited'', h⟩
    · exact Reaches.refl bound next _ _ _ _ _ h
    · exact hon _ _ _ _ _ h

theorem reaches_loop {round : Step} (number : Nat) (hround : StepReaches bound round)
    (left : List Char) : Reaches bound (loop number greedy round next left) next := by
  induction left with
  | nil => exact reaches_turn number hround (.failed bound next)
  | cons _ left ih => exact reaches_turn number hround ih

theorem reaches_times {round : Nat → Step} (hround : ∀ index, StepReaches bound (round index))
    (first count : Nat) : Reaches bound (times round next first count) next := by
  induction count generalizing first with
  | zero => exact .refl bound next
  | succ count ih => exact (hround first _).trans (ih (first + 1))

theorem reaches_upTo {round : Nat → Step} (number : Nat → Nat)
    (hround : ∀ index, StepReaches bound (round index)) (first count : Nat) :
    Reaches bound (upTo number greedy round next first count) next := by
  induction count generalizing first with
  | zero => exact .refl bound next
  | succ count ih => exact reaches_turn (number first) (hround first) (ih (first + 1))

/-- A pattern takes characters and records groups of its own only. -/
theorem reaches_run (p : Pattern) (number : Nat) :
    StepReaches p.groupCount (run p number) := by
  induction p generalizing number with
  | empty => exact fun next ↦ .refl _ next
  | literal chars =>
    intro next cur groups visited last groups' h
    simp only [run] at h
    split at h
    case h_1 => simp at h
    case h_2 beyond hskip =>
      exact ⟨beyond, Cursor.mem_positions_of_skip? hskip, [], by simp, visited, h⟩
  | set alphabet chars =>
    intro next cur groups visited last groups' h
    simp only [run] at h
    split at h
    case h_1 => simp at h
    case h_2 c beyond hadvance =>
      split at h
      · exact ⟨beyond, Cursor.mem_positions_of_advance? hadvance, [], by simp, visited, h⟩
      · simp at h
  | look assertion =>
    intro next cur groups visited last groups' h
    simp only [run] at h
    split at h
    · exact Reaches.refl _ next _ _ _ _ _ h
    · simp at h
  | group index body ih =>
    intro next cur groups visited last groups' h
    obtain ⟨beyond, hbeyond, more, hmore, visited', hnext⟩ := ih number _ _ _ _ _ _ h
    refine ⟨beyond, hbeyond, (index, ⟨cur, beyond⟩) :: more, ?_, visited', hnext⟩
    intro mark hmark
    rcases List.mem_cons.1 hmark with rfl | hmark
    · exact ⟨Nat.lt_of_succ_le (Nat.le_max_left _ _),
        ⟨cur.mem_positions_self, hbeyond, beyond.mem_positions_self⟩⟩
    · obtain ⟨hbound, hinside⟩ := hmore mark hmark
      exact ⟨Nat.lt_of_lt_of_le hbound (Nat.le_max_right _ _), hinside⟩
  | rep greedy least most body ih =>
    intro next cur groups visited last groups' h
    simp only [run] at h
    have hround (index : Nat) : StepReaches body.groupCount
        (run body (number + index * (body.choices + 1) + 1)) := ih _
    have hgoing (index : Nat) : Reaches body.groupCount
        (fun cur groups visited ↦ loop (number + index * (body.choices + 1)) greedy
          (run body (number + index * (body.choices + 1) + 1)) next cur.after cur groups visited)
        next := fun _ _ _ _ _ hgo ↦ reaches_loop _ (hround index) _ _ _ _ _ _ hgo
    cases most with
    | some most =>
      exact (reaches_times hround 0 least).trans (reaches_upTo _ hround _ _) _ _ _ _ _ h
    | none =>
      dsimp only at h
      split at h
      · exact (reaches_times hround 0 least).trans (hgoing _) _ _ _ _ _ h
      · split at h
        · exact hgoing _ _ _ _ _ _ h
        · exact reaches_turn _ (hround 0) (hgoing _) _ _ _ _ _ h
  | cat first second ih ih' =>
    intro next
    exact ((ih number _).mono (Nat.le_max_left _ _)).trans
      ((ih' (number + first.choices) next).mono (Nat.le_max_right _ _))
  | alt first second ih ih' =>
    intro next cur groups visited last groups' h
    obtain ⟨visited', h⟩ := meet_eq_matched h
    rcases orElse_eq_matched h with h | ⟨visited'', h⟩
    · exact (ih _ next).mono (Nat.le_max_left _ _) _ _ _ _ _ h
    · exact (ih' _ next).mono (Nat.le_max_right _ _) _ _ _ _ _ h

theorem groupCount_pos (p : Pattern) : 0 < p.groupCount := by
  induction p <;> simp only [groupCount] <;> omega

/-- A match starts where it was tried, ends at or behind that position, and its groups are groups of
the pattern and lie inside it. -/
theorem matchAt?_eq_some {p : Pattern} {cur : Cursor} {found : Match}
    (h : p.matchAt? cur = some found) :
    found.extent.first = cur ∧ found.extent.last ∈ cur.positions ∧
      ∀ mark ∈ found.groups, mark.1 < p.groupCount ∧ mark.2.Inside found.extent := by
  unfold matchAt? at h
  split at h
  case h_2 => simp at h
  case h_1 last groups hrun =>
    obtain ⟨beyond, hbeyond, more, hmore, visited, hdone⟩ := reaches_run p 0 _ _ _ _ _ _ hrun
    obtain ⟨rfl, rfl⟩ : beyond = last ∧ more = groups := by simpa using hdone
    obtain rfl := Option.some.inj h
    exact ⟨rfl, hbeyond, hmore⟩

/-- The search tries the positions ahead in order. -/
theorem search?_eq_findSome? (p : Pattern) (cur : Cursor) :
    p.search? cur = cur.positions.findSome? p.matchAt? := by
  induction cur using Cursor.induction_on with
  | atEnd cur hend =>
    rw [search?_eq, Cursor.positions_eq, hend]
    cases h : p.matchAt? cur <;> simp [h]
  | step cur c next hstep ih =>
    rw [search?_eq, Cursor.positions_of_advance? hstep, hstep]
    cases h : p.matchAt? cur <;> simp [h, ih]

theorem search?_eq_some {p : Pattern} {cur : Cursor} {found : Match}
    (h : p.search? cur = some found) :
    found.extent.first ∈ cur.positions ∧ found.extent.last ∈ found.extent.first.positions := by
  rw [search?_eq_findSome?] at h
  obtain ⟨start, hstart, hmatch⟩ := List.exists_of_findSome?_eq_some h
  obtain ⟨rfl, hlast, -⟩ := matchAt?_eq_some hmatch
  exact ⟨hstart, hlast⟩

theorem group?_inside_of_search? {p : Pattern} {cur : Cursor} {found : Match} {index : Nat}
    {extent : Extent} (h : p.search? cur = some found)
    (hgroup : found.group? index = some extent) : extent.Inside found.extent := by
  rw [search?_eq_findSome?] at h
  obtain ⟨start, -, hmatch⟩ := List.exists_of_findSome?_eq_some h
  obtain ⟨before, after, hgroups, -⟩ := List.lookup_eq_some_iff.1 hgroup
  have hmark : (index, extent) ∈ found.groups := by simp [hgroups]
  exact ((matchAt?_eq_some hmatch).2.2 _ hmark).2

end Pattern

end OperatorGrammar
