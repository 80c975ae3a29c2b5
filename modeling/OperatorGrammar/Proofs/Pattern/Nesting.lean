import OperatorGrammar.Proofs.Pattern.Brackets
import OperatorGrammar.Proofs.Pattern.Combining

/-!
# Reading a pattern inside of a group

The text of a pattern is read the same on its own and as the body of a group, except that the
numbers of its groups start behind the number of that group. So a state of the one reading goes with
a state of the other one, and each item leads from such a pair of states to the next.
-/

namespace OperatorGrammar.Pattern

variable {amount : Nat}

theorem Flags.shift_of_literal?_eq_some {flags : Flags} {c : Char} {p : Pattern}
    (h : flags.literal? c = some p) : p.shift amount = p := by
  unfold Flags.literal? at h
  split at h
  · obtain rfl := Option.some.inj h
    rfl
  · split at h
    · obtain rfl := Option.some.inj h
      exact ofSet_shift _ _
    · cases h

theorem Flags.shift_of_dot?_eq_some {flags : Flags} {p : Pattern} (h : flags.dot? = some p) :
    p.shift amount = p := by
  unfold Flags.dot? at h
  split at h
  · cases h
  · split at h
    · obtain rfl := Option.some.inj h
      rfl
    · split at h <;> (obtain rfl := Option.some.inj h; rfl)

namespace Reader

def Item.shift (amount : Nat) (item : Item) : Item :=
  { item with pattern := item.pattern.shift amount }

theorem Item.shift_of_ofEscape?_eq_some {flags : Flags} {escape : Escape} {item : Item}
    (h : Item.ofEscape? flags escape = some item) : item.shift amount = item := by
  cases escape with
  | char c =>
    obtain ⟨p, hp, rfl⟩ := Option.map_eq_some_iff.1 h
    rw [Item.shift, Item.plain, Flags.shift_of_literal?_eq_some hp]
  | set chars =>
    obtain rfl := Option.some.inj h
    rw [Item.shift, Item.plain, ofSet_shift]
  | look assertion =>
    obtain rfl := Option.some.inj h
    rfl

theorem join_map {combine : List Pattern → Pattern}
    (hcombine : ∀ ps : List Pattern, combine (ps.map (Pattern.shift amount)) =
      (combine ps).shift amount) (items : List Item) :
    join combine (items.map (Item.shift amount)) = (join combine items).shift amount := by
  have hmany (items : List Item) :
      (⟨combine ((items.map (Item.shift amount)).reverse.map Item.pattern),
        ((items.map (Item.shift amount)).map Item.depth).foldl max 0 + 1, true⟩ : Item) =
      Item.shift amount
        ⟨combine (items.reverse.map Item.pattern), (items.map Item.depth).foldl max 0 + 1,
          true⟩ := by
    rw [Item.shift]
    congr 1
    · rw [← hcombine]
      simp [Function.comp_def, Item.shift]
    · simp [Function.comp_def, Item.shift]
  match items with
  | [] => exact hmany []
  | [item] => rfl
  | first :: second :: items => exact hmany (first :: second :: items)

namespace State

variable {st next : State}

theorem openNamed_eq_some {text left : List Char} (h : st.openNamed text = some (next, left)) :
    ∃ c, text.dropWhile (· ≠ '>') = c :: left ∧
      next = { st.openCapture with names := text.takeWhile (· ≠ '>') :: st.names } := by
  unfold openNamed at h
  dsimp only at h
  split at h
  case h_1 c rest hdrop =>
    split at h
    · obtain ⟨rfl, rfl⟩ := Prod.mk.inj (Option.some.inj h)
      exact ⟨c, hdrop, rfl⟩
    · cases h
  case h_2 => cases h

theorem closeParen_eq_some (h : st.closeParen = some next) :
    ∃ frame outer, st.outer = frame :: outer ∧
      next = { st with
        flags := st.frame.flags
        frame := frame.push st.frame.close
        outer := outer } := by
  unfold closeParen at h
  split at h
  case h_1 => cases h
  case h_2 frame outer houter => exact ⟨frame, outer, houter, (Option.some.inj h).symm⟩

theorem repeatLast_eq_some {greedy : Bool} {least : Nat} {most : Option Nat}
    (h : st.repeatLast greedy least most = some next) :
    ∃ item items, st.frame.items = item :: items ∧
      next = { st with frame := { st.frame with items :=
        ⟨repeated (greedy != st.flags.swapGreed) least most item.pattern, item.depth + 1, true⟩ ::
          items } } := by
  unfold repeatLast at h
  split at h
  case h_1 => cases h
  case h_2 item items hitems =>
    split at h
    · exact ⟨item, items, hitems, (Option.some.inj h).symm⟩
    · cases h

end State

/-- The frames hold the same but for the numbers of the groups in them. -/
structure Frame.Raised (amount : Nat) (frame frame' : Frame) : Prop where
  flags_eq : frame'.flags = frame.flags
  branches_eq : frame'.branches = frame.branches.map (Item.shift amount)
  items_eq : frame'.items = frame.items.map (Item.shift amount)

namespace Frame.Raised

variable {frame frame' : Frame}

theorem push (h : frame.Raised amount frame') (item : Item) :
    (frame.push item).Raised amount (frame'.push (item.shift amount)) :=
  ⟨h.flags_eq, h.branches_eq, by rw [Frame.push, h.items_eq]; rfl⟩

theorem branch_eq (h : frame.Raised amount frame') : frame'.branch = frame.branch.shift amount := by
  rw [branch, branch, h.items_eq, List.isEmpty_map]
  split
  · rfl
  · exact join_map concat_map frame.items

theorem nextBranch (h : frame.Raised amount frame') :
    frame.nextBranch.Raised amount frame'.nextBranch :=
  ⟨h.flags_eq, by rw [Frame.nextBranch, h.branch_eq, h.branches_eq]; rfl, rfl⟩

theorem body_eq (h : frame.Raised amount frame') : frame'.body = frame.body.shift amount := by
  rw [body, body, h.branch_eq, h.branches_eq, ← List.map_cons]
  exact join_map choice_map _

theorem close_eq (h : frame.Raised amount frame')
    (hindex : frame'.index = frame.index.map (· + amount)) :
    frame'.close = frame.close.shift amount := by
  rw [close, close, h.body_eq, hindex]
  cases frame.index <;> rfl

end Frame.Raised

/-- The open groups of a reading, and those of a reading inside of the group numbered `amount`, with
`base` around that group. -/
inductive Stacked (amount : Nat) (base : List Frame) :
    Frame → List Frame → Frame → List Frame → Prop
  | bottom {frame frame' : Frame} : frame.Raised amount frame' → frame'.index = some amount →
    frame'.flags = {} → Stacked amount base frame [] frame' base
  | inner {frame frame' next next' : Frame} {outer outer' : List Frame} :
    frame.Raised amount frame' → frame'.index = frame.index.map (· + amount) →
    Stacked amount base next outer next' outer' →
    Stacked amount base frame (next :: outer) frame' (next' :: outer')

variable {base : List Frame}

theorem Stacked.raised {frame frame' : Frame} {outer outer' : List Frame}
    (h : Stacked amount base frame outer frame' outer') : frame.Raised amount frame' := by
  cases h <;> assumption

/-- The innermost frame may go on to hold other items and branches. -/
theorem Stacked.replace {frame frame' next next' : Frame} {outer outer' : List Frame}
    (h : Stacked amount base frame outer frame' outer') (hnext : next.Raised amount next')
    (hindex : next.index = frame.index) (hindex' : next'.index = frame'.index)
    (hflags' : next'.flags = frame'.flags) : Stacked amount base next outer next' outer' := by
  cases h with
  | bottom _ hown hflags => exact .bottom hnext (hindex'.trans hown) (hflags'.trans hflags)
  | inner _ hown hstacked =>
    exact .inner hnext (by rw [hindex', hindex, hown]) hstacked

/-- A state of reading a text on its own, and one of reading it inside of the group numbered
`amount`. -/
structure Nested (amount : Nat) (base : List Frame) (st st' : State) : Prop where
  flags_eq : st'.flags = st.flags
  groups_eq : st'.groups = st.groups + amount
  stacked : Stacked amount base st.frame st.outer st'.frame st'.outer

namespace Nested

variable {st st' : State}

theorem push (h : Nested amount base st st') (item : Item) :
    Nested amount base (st.push item) (st'.push (item.shift amount)) :=
  ⟨h.flags_eq, h.groups_eq, h.stacked.replace (h.stacked.raised.push item) rfl rfl rfl⟩

theorem nextBranch (h : Nested amount base st st') :
    Nested amount base { st with frame := st.frame.nextBranch }
      { st' with frame := st'.frame.nextBranch } :=
  ⟨h.flags_eq, h.groups_eq, h.stacked.replace h.stacked.raised.nextBranch rfl rfl rfl⟩

theorem openGroup (h : Nested amount base st st') (flags : Flags) {index index' : Option Nat}
    (hindex : index' = index.map (· + amount)) :
    Nested amount base (st.openGroup index flags) (st'.openGroup index' flags) :=
  ⟨rfl, h.groups_eq, .inner ⟨h.flags_eq, rfl, rfl⟩ hindex h.stacked⟩

theorem openCapture (h : Nested amount base st st') :
    Nested amount base st.openCapture st'.openCapture := by
  have hnumber : st'.groups + 1 = st.groups + 1 + amount := by
    rw [h.groups_eq, Nat.add_right_comm]
  exact ⟨h.flags_eq, hnumber, .inner ⟨h.flags_eq, rfl, rfl⟩ (congrArg some hnumber) h.stacked⟩

/-- Named groups need not have the same names before them. -/
theorem openNamed (h : Nested amount base st st') {text left : List Char} {next : State}
    (hnext : st.openNamed text = some (next, left)) {more left' : List Char} {next' : State}
    (hnext' : st'.openNamed (text ++ more) = some (next', left')) :
    left' = left ++ more ∧ Nested amount base next next' := by
  obtain ⟨c, hdrop, rfl⟩ := State.openNamed_eq_some hnext
  obtain ⟨c', hdrop', rfl⟩ := State.openNamed_eq_some hnext'
  rw [dropWhile_append_of_eq_cons hdrop] at hdrop'
  have hopen := h.openCapture
  exact ⟨(List.cons.inj hdrop').2.symm, hopen.flags_eq, hopen.groups_eq, hopen.stacked⟩

theorem closeParen (h : Nested amount base st st') {next next' : State}
    (hnext : st.closeParen = some next) (hnext' : st'.closeParen = some next') :
    Nested amount base next next' := by
  obtain ⟨frame, outer, houter, rfl⟩ := State.closeParen_eq_some hnext
  obtain ⟨frame', outer', houter', rfl⟩ := State.closeParen_eq_some hnext'
  have hstacked := h.stacked
  rw [houter, houter'] at hstacked
  cases hstacked with
  | inner hraised hindex hstacked =>
    refine ⟨hraised.flags_eq, h.groups_eq, ?_⟩
    rw [hraised.close_eq hindex]
    exact hstacked.replace (hstacked.raised.push _) rfl rfl rfl

theorem repeatLast (h : Nested amount base st st') {greedy : Bool} {least : Nat}
    {most : Option Nat} {next next' : State}
    (hnext : st.repeatLast greedy least most = some next)
    (hnext' : st'.repeatLast greedy least most = some next') : Nested amount base next next' := by
  obtain ⟨item, items, hitems, rfl⟩ := State.repeatLast_eq_some hnext
  obtain ⟨item', items', hitems', rfl⟩ := State.repeatLast_eq_some hnext'
  rw [h.stacked.raised.items_eq, hitems, List.map_cons] at hitems'
  obtain ⟨rfl, rfl⟩ := List.cons.inj hitems'
  refine ⟨h.flags_eq, h.groups_eq, h.stacked.replace ?_ rfl rfl rfl⟩
  refine ⟨h.stacked.raised.flags_eq, h.stacked.raised.branches_eq, ?_⟩
  rw [List.map_cons, h.flags_eq, Item.shift, repeated_shift]
  rfl

theorem setFlags (h : Nested amount base st st') (flags : Flags) :
    Nested amount base ({ st with flags := flags }.push .setting)
      ({ st' with flags := flags }.push .setting) := by
  have hflags : Nested amount base { st with flags := flags } { st' with flags := flags } :=
    ⟨rfl, h.groups_eq, h.stacked⟩
  exact hflags.push .setting

end Nested

/-! ## One item -/

variable {st next : State} {text left : List Char}

end Reader

end OperatorGrammar.Pattern
