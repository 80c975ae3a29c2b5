import OperatorGrammar.Proofs.Pattern.Alternation
import OperatorGrammar.Proofs.Pattern.Nesting

/-!
# Reading a pattern in parentheses

In parentheses the text of a pattern is one group with the pattern in it, whatever comes before and
behind it, unless the text ends in a comment. Groups in parentheses that are joined by bars are a
choice between these groups.
-/

namespace OperatorGrammar.Pattern

namespace Reader

/-- Nothing is read yet. -/
def start : State := ⟨{}, ⟨none, {}, [], []⟩, [], 0, []⟩

variable {properties : Properties}

theorem read?_eq_some {text : String} {p : Pattern} (h : read? properties text = some p) :
    ∃ fuel st, readItems properties fuel start text.toList = some st ∧ st.outer = [] ∧
      st.frame.body.pattern = p := by
  obtain ⟨st, hst, h⟩ := Option.bind_eq_some_iff.1 h
  dsimp only at h
  split at h
  case isTrue hwhole => exact ⟨_, st, hst, List.isEmpty_iff.1 hwhole.1, Option.some.inj h⟩
  case isFalse => cases h

variable {fuel : Nat} {st last : State} {text later : List Char} {c : Char}

/-- What a whole text becomes in parentheses. -/
def State.asGroup (st : State) (number : Nat) : Item :=
  ⟨group number (st.frame.body.pattern.shift number), st.frame.body.depth + 1, true⟩

/-- The state `next` comes behind `st` when the text of `last` was read in parentheses. -/
structure Enclosed (st last next : State) : Prop where
  flags_eq : next.flags = {}
  frame_eq : next.frame = st.frame.push (last.asGroup (st.groups + 1))
  outer_eq : next.outer = st.outer
  groups_eq : next.groups = last.groups + (st.groups + 1)

theorem Enclosed.branch_eq {next : State} (h : Enclosed st last next)
    (hitems : st.frame.items = []) :
    next.frame.branch = last.asGroup (st.groups + 1) := by
  rw [h.frame_eq, Frame.branch, Frame.push, hitems]
  rfl

theorem Enclosed.branches_eq {next : State} (h : Enclosed st last next) :
    next.frame.branches = st.frame.branches := by
  rw [h.frame_eq]
  rfl

end Reader

end OperatorGrammar.Pattern
