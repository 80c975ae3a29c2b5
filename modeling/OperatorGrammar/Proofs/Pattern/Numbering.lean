import Mathlib.Data.List.Basic
import Mathlib.Data.List.Flatten
import OperatorGrammar.Proofs.Pattern.Joining

/-!
# The numbers of groups

The groups of a pattern that was read are numbered by their opening parentheses: in the order in
which they open, their numbers ascend. A number may be missing, for a repetition that runs no round
drops its body and all groups in it, although their parentheses were counted.
-/

namespace OperatorGrammar.Pattern

/-- The numbers of the groups in a pattern, in the order in which the groups open. -/
@[simp]
def openings : Pattern → List Nat
  | empty => []
  | literal _ => []
  | set _ _ => []
  | look _ => []
  | group index body => index :: body.openings
  | rep _ _ _ body => body.openings
  | cat first second => first.openings ++ second.openings
  | alt first second => first.openings ++ second.openings

theorem openings_shift (amount : Nat) (p : Pattern) :
    (p.shift amount).openings = p.openings.map (· + amount) := by
  induction p <;> simp_all [shift]

theorem lt_groupCount_of_mem_openings {p : Pattern} {number : Nat} (h : number ∈ p.openings) :
    number < p.groupCount := by
  induction p with
  | group index body ih =>
    rcases List.mem_cons.1 h with rfl | h
    · exact Nat.lt_of_succ_le (Nat.le_max_left _ _)
    · exact Nat.lt_of_lt_of_le (ih h) (Nat.le_max_right _ _)
  | rep _ _ _ body ih => exact ih h
  | cat first second ih ih' | alt first second ih ih' =>
    rcases List.mem_append.1 h with h | h
    · exact Nat.lt_of_lt_of_le (ih h) (Nat.le_max_left _ _)
    · exact Nat.lt_of_lt_of_le (ih' h) (Nat.le_max_right _ _)
  | _ => cases h

/-- The group count is set by the highest number of a group. -/
theorem groupCount_sub_one_mem_openings {p : Pattern} (h : 1 < p.groupCount) :
    p.groupCount - 1 ∈ p.openings := by
  induction p with
  | group index body ih =>
    simp only [groupCount, openings, List.mem_cons] at h ⊢
    rcases Nat.le_total body.groupCount (index + 1) with hle | hle
    · left
      omega
    · rw [Nat.max_eq_right hle] at h ⊢
      exact .inr (ih h)
  | rep _ _ _ body ih => exact ih h
  | cat first second ih ih' | alt first second ih ih' =>
    simp only [groupCount, openings, List.mem_append] at h ⊢
    rcases Nat.le_total first.groupCount second.groupCount with hle | hle
    · rw [Nat.max_eq_right hle] at h ⊢
      exact .inr (ih' h)
    · rw [Nat.max_eq_left hle] at h ⊢
      exact .inl (ih h)
  | _ => simp [groupCount] at h

theorem lt_of_mem_openings_shift {p : Pattern} {amount number : Nat}
    (h : number ∈ (p.shift amount).openings) : number < amount + p.groupCount := by
  rw [openings_shift] at h
  obtain ⟨own, hown, rfl⟩ := List.mem_map.1 h
  have hlt := lt_groupCount_of_mem_openings hown
  omega

/-- A number behind a group and all groups inside of it is behind as many numbers as they count. -/
theorem add_groupCount_le {p : Pattern} {index number : Nat} (hindex : index < number)
    (hinside : ∀ inner ∈ (p.shift index).openings, inner < number) :
    index + p.groupCount ≤ number := by
  by_cases hgroups : 1 < p.groupCount
  · rw [openings_shift] at hinside
    have hhighest := groupCount_sub_one_mem_openings hgroups
    have hlt := hinside _ (List.mem_map_of_mem hhighest)
    omega
  · omega

/-! ## Combining patterns -/

theorem openings_ofSet (alphabet : Alphabet) (chars : CharSet) :
    (ofSet alphabet chars).openings = [] := by
  unfold ofSet nothing
  split
  · rfl
  · split <;> rfl

theorem flatMap_openings_parts (p : Pattern) : p.parts.flatMap openings = p.openings := by
  induction p <;> simp_all [parts]

theorem flatMap_openings_branches (p : Pattern) : p.branches.flatMap openings = p.openings := by
  induction p <;> simp_all [branches]

theorem openings_ofParts (ps : List Pattern) : (ofParts ps).openings = ps.flatMap openings := by
  fun_induction ofParts ps <;> simp_all

theorem openings_ofBranches (ps : List Pattern) :
    (ofBranches ps).openings = ps.flatMap openings := by
  fun_induction ofBranches ps <;> simp_all [nothing]

theorem flatMap_openings_joinLiterals (ps : List Pattern) :
    (joinLiterals ps).flatMap openings = ps.flatMap openings := by
  fun_induction joinLiterals ps <;> simp_all

theorem openings_concat (ps : List Pattern) : (concat ps).openings = ps.flatMap openings := by
  rw [concat, openings_ofParts, flatMap_openings_joinLiterals, List.flatMap_assoc]
  simp only [flatMap_openings_parts]

theorem isPrefix_commonHead (ps qs : List Pattern) : commonHead ps qs <+: ps := by
  induction ps generalizing qs with
  | nil => exact List.nil_prefix
  | cons p ps ih =>
    cases qs with
    | nil => exact List.nil_prefix
    | cons q qs =>
      rw [commonHead]
      split
      · exact (List.prefix_cons_inj p).2 (ih qs)
      · exact List.nil_prefix

theorem isPrefix_foldl_commonHead (b : List Pattern) (bs : List (List Pattern)) :
    bs.foldl commonHead b <+: b := by
  induction bs generalizing b with
  | nil => exact List.prefix_rfl
  | cons b' bs ih => exact (ih _).trans (isPrefix_commonHead b b')

theorem isPrefix_sharedHead (b : List Pattern) (bs : List (List Pattern)) :
    sharedHead (b :: bs) <+: b := by
  rw [sharedHead]
  split
  · exact isPrefix_foldl_commonHead b bs
  · exact List.nil_prefix

theorem openings_select_sublist (ps : List Pattern) :
    (select ps).openings.Sublist (ps.flatMap openings) := by
  have hmany : ((merge? ps).getD (ofBranches ps)).openings.Sublist (ps.flatMap openings) := by
    cases hmerge : merge? ps with
    | none =>
      rw [Option.getD_none, openings_ofBranches]
    | some p =>
      obtain ⟨sets, -, rfl⟩ := Option.map_eq_some_iff.1 hmerge
      rw [Option.getD_some, unite, openings_ofSet]
      exact List.nil_sublist _
  unfold select
  split
  case h_1 p => simp
  case h_2 => exact hmany

/-- A head that the branches share opens groups of the first one only. -/
theorem openings_choice_sublist (ps : List Pattern) :
    (choice ps).openings.Sublist (ps.flatMap openings) := by
  have hbranches (ps : List Pattern) : (ps.flatMap branches).flatMap openings =
      ps.flatMap openings := by
    simp only [List.flatMap_assoc, flatMap_openings_branches]
  rw [← hbranches, choice]
  generalize ps.flatMap branches = bs
  dsimp only
  split
  case isTrue => exact openings_select_sublist bs
  case isFalse hhead =>
    cases bs with
    | nil => exact absurd rfl hhead
    | cons b bs =>
      rw [List.map_cons]
      obtain ⟨rest, hrest⟩ := isPrefix_sharedHead b.parts (bs.map parts)
      generalize sharedHead (b.parts :: bs.map parts) = head at hrest
      let tail (b : Pattern) : Pattern := ofParts (b.parts.drop head.length)
      have hfirst : head.flatMap openings ++ (tail b).openings = b.openings := by
        rw [openings_ofParts, ← hrest, List.drop_left, ← List.flatMap_append, hrest,
          flatMap_openings_parts]
      have htail (b : Pattern) : (tail b).openings.Sublist b.openings := by
        rw [openings_ofParts, ← flatMap_openings_parts b]
        exact (List.drop_sublist _ _).flatMap openings
      have hselect : (select (((b :: bs).map tail).flatMap branches)).openings.Sublist
          ((tail b).openings ++ bs.flatMap fun b ↦ (tail b).openings) := by
        have hall := openings_select_sublist (((b :: bs).map tail).flatMap branches)
        rw [hbranches] at hall
        simpa only [List.flatMap_map, List.flatMap_cons] using hall
      rw [openings_concat, List.flatMap_append, List.flatMap_singleton, List.flatMap_cons,
        ← hfirst, List.append_assoc]
      refine (List.Sublist.refl _).append (hselect.trans ?_)
      exact (List.Sublist.refl _).append (List.Sublist.flatMap_right bs fun b _ ↦ htail b)

theorem openings_repeated_sublist (greedy : Bool) (least : Nat) (most : Option Nat) (p : Pattern) :
    (repeated greedy least most p).openings.Sublist p.openings := by
  unfold repeated
  split
  split
  · exact List.nil_sublist _
  · exact List.Sublist.refl _
  · exact List.Sublist.refl _

/-! ## Reading a pattern -/

namespace Reader

/-- The numbers of the groups in items, of which the latest stands first. -/
def openingsOf (items : List Item) : List Nat := items.reverse.flatMap (·.pattern.openings)

theorem openingsOf_cons (item : Item) (items : List Item) :
    openingsOf (item :: items) = openingsOf items ++ item.pattern.openings := by
  simp [openingsOf]

theorem openingsOf_append (items items' : List Item) :
    openingsOf (items ++ items') = openingsOf items' ++ openingsOf items := by
  simp [openingsOf]

theorem openings_join_sublist {combine : List Pattern → Pattern}
    (hcombine : ∀ ps, (combine ps).openings.Sublist (ps.flatMap Pattern.openings))
    (items : List Item) : (join combine items).pattern.openings.Sublist (openingsOf items) := by
  have hmany : (combine (items.reverse.map Item.pattern)).openings.Sublist (openingsOf items) := by
    rw [openingsOf, ← List.flatMap_map]
    exact hcombine _
  unfold join
  split
  case h_1 item => simp [openingsOf]
  case h_2 => exact hmany

/-- An item that does not change with the numbers of groups has no groups. -/
theorem Item.openings_eq_nil {item : Item} (h : item.shift 1 = item) :
    item.pattern.openings = [] := by
  have hopenings : item.pattern.openings.map (· + 1) = item.pattern.openings := by
    rw [← openings_shift]
    exact congrArg (·.pattern.openings) h
  cases hitem : item.pattern.openings with
  | nil => rfl
  | cons number numbers =>
    rw [hitem] at hopenings
    exact absurd (List.cons.inj hopenings).1 (Nat.succ_ne_self number)

namespace Frame

/-- The numbers of the groups in a frame, behind the number of the open group itself. -/
def openings (frame : Frame) : List Nat :=
  frame.index.toList ++ openingsOf (frame.items ++ frame.branches)

theorem openings_push (frame : Frame) (item : Item) :
    (frame.push item).openings = frame.openings ++ item.pattern.openings := by
  simp [openings, push, openingsOf_cons]

theorem openings_branch_sublist (frame : Frame) :
    frame.branch.pattern.openings.Sublist (openingsOf frame.items) := by
  unfold branch
  split
  · exact List.nil_sublist _
  · apply openings_join_sublist
    intro ps
    rw [openings_concat]

theorem openings_nextBranch_sublist (frame : Frame) :
    frame.nextBranch.openings.Sublist frame.openings := by
  have hitems : openingsOf frame.nextBranch.branches =
      openingsOf frame.branches ++ frame.branch.pattern.openings := openingsOf_cons _ _
  rw [openings, openings, openingsOf_append frame.items]
  apply (List.Sublist.refl _).append
  exact hitems ▸ (List.Sublist.refl _).append frame.openings_branch_sublist

theorem openings_body_sublist (frame : Frame) :
    frame.body.pattern.openings.Sublist (openingsOf (frame.items ++ frame.branches)) := by
  apply (openings_join_sublist openings_choice_sublist _).trans
  rw [openingsOf_cons, openingsOf_append]
  exact (List.Sublist.refl _).append frame.openings_branch_sublist

theorem openings_close_sublist (frame : Frame) :
    frame.close.pattern.openings.Sublist frame.openings := by
  rw [close, openings]
  cases frame.index with
  | none => exact frame.openings_body_sublist
  | some index => exact frame.openings_body_sublist.cons_cons index

end Frame

namespace State

/-- The numbers of all groups that were read, in the order in which the groups opened. -/
def openings (st : State) : List Nat := (st.frame :: st.outer).reverse.flatMap Frame.openings

theorem openings_eq (st : State) :
    st.openings = st.outer.reverse.flatMap Frame.openings ++ st.frame.openings := by
  simp [openings]

/-- The numbers ascend, from 1 at least, and end before the next one that is given. -/
structure Numbered (st : State) : Prop where
  ascending : (0 :: st.openings).Pairwise (· < ·)
  le_groups : ∀ number ∈ st.openings, number ≤ st.groups

namespace Numbered

variable {st next : State} {text left : List Char}

theorem of_sublist (h : st.Numbered) (hopenings : next.openings.Sublist st.openings)
    (hgroups : next.groups = st.groups) : next.Numbered where
  ascending := h.ascending.sublist (hopenings.cons_cons 0)
  le_groups number hnumber := hgroups ▸ h.le_groups number (hopenings.subset hnumber)

theorem replaceFrame (h : st.Numbered) {frame : Frame}
    (hframe : frame.openings.Sublist st.frame.openings) :
    ({ st with frame := frame } : State).Numbered := by
  refine h.of_sublist ?_ rfl
  rw [openings_eq, openings_eq]
  exact (List.Sublist.refl _).append hframe

theorem push (h : st.Numbered) {item : Item} (hitem : item.shift 1 = item) :
    (st.push item).Numbered := by
  apply h.replaceFrame
  rw [Frame.openings_push, item.openings_eq_nil hitem, List.append_nil]

theorem openGroup (h : st.Numbered) (flags : Flags) : (st.openGroup none flags).Numbered := by
  refine h.of_sublist ?_ rfl
  simp [openings, State.openGroup, Frame.openings, openingsOf]

theorem openCapture (h : st.Numbered) : st.openCapture.Numbered := by
  have hopenings : st.openCapture.openings = st.openings ++ [st.groups + 1] := by
    simp [openings, State.openCapture, State.openGroup, Frame.openings, openingsOf]
  constructor
  · rw [hopenings, ← List.cons_append, List.pairwise_append]
    refine ⟨h.ascending, List.pairwise_singleton _ _, fun number hnumber last hlast ↦ ?_⟩
    obtain rfl := List.mem_singleton.1 hlast
    rcases List.mem_cons.1 hnumber with rfl | hnumber
    · exact Nat.succ_pos st.groups
    · exact Nat.lt_succ_of_le (h.le_groups number hnumber)
  · intro number hnumber
    rw [hopenings, List.mem_append, List.mem_singleton] at hnumber
    rcases hnumber with hnumber | rfl
    · exact Nat.le_succ_of_le (h.le_groups number hnumber)
    · exact Nat.le_refl _

theorem openNamed (h : st.Numbered) (hnext : st.openNamed text = some (next, left)) :
    next.Numbered := by
  obtain ⟨c, -, rfl⟩ := openNamed_eq_some hnext
  exact h.openCapture.of_sublist (List.Sublist.refl _) rfl

theorem setFlags (h : st.Numbered) (flags : Flags) :
    ({ st with flags := flags }.push .setting).Numbered := by
  have hflags : ({ st with flags := flags } : State).Numbered :=
    h.of_sublist (List.Sublist.refl _) rfl
  exact hflags.push rfl

theorem openParen (h : st.Numbered) (hnext : st.openParen text = some (next, left)) :
    next.Numbered := by
  unfold State.openParen at hnext
  split at hnext
  case h_1 | h_2 | h_3 | h_4 => cases hnext
  case h_5 | h_6 => exact h.openNamed hnext
  case h_7 =>
    split at hnext
    case h_1 => cases hnext
    case h_2 flags _ _ _ =>
      obtain ⟨rfl, rfl⟩ := Prod.mk.inj (Option.some.inj hnext)
      exact h.openGroup flags
    case h_3 flags _ _ _ _ _ =>
      split at hnext
      · cases hnext
      · obtain ⟨rfl, rfl⟩ := Prod.mk.inj (Option.some.inj hnext)
        exact h.setFlags flags
  case h_8 =>
    obtain ⟨rfl, rfl⟩ := Prod.mk.inj (Option.some.inj hnext)
    exact h.openCapture

theorem closeParen (h : st.Numbered) (hnext : st.closeParen = some next) : next.Numbered := by
  obtain ⟨frame, outer, houter, rfl⟩ := closeParen_eq_some hnext
  refine h.of_sublist ?_ rfl
  rw [openings_eq, openings_eq, houter, Frame.openings_push, List.reverse_cons,
    List.flatMap_append, List.flatMap_singleton, List.append_assoc]
  exact (List.Sublist.refl _).append
    ((List.Sublist.refl _).append st.frame.openings_close_sublist)

/-- A repetition that runs no round drops groups, but does not give their numbers back. -/
theorem repeatLast (h : st.Numbered) {greedy : Bool} {least : Nat} {most : Option Nat}
    (hnext : st.repeatLast greedy least most = some next) : next.Numbered := by
  obtain ⟨item, items, hitems, rfl⟩ := repeatLast_eq_some hnext
  apply h.replaceFrame
  rw [Frame.openings, Frame.openings, hitems, List.cons_append, List.cons_append,
    openingsOf_cons, openingsOf_cons]
  apply (List.Sublist.refl _).append
  exact (List.Sublist.refl _).append (openings_repeated_sublist _ least most item.pattern)

/-- One item gives at most one number, to a group that opens behind all others. -/
theorem step (h : st.Numbered) {properties : Properties} {c : Char}
    (hnext : st.step properties c text = some (next, left)) : next.Numbered := by
  unfold State.step at hnext
  dsimp only at hnext
  -- the cases are in the order of the characters in `State.step`
  split at hnext
  case h_1 => exact h.openParen hnext
  case h_2 =>
    obtain ⟨next', hclose, hfound⟩ := Option.map_eq_some_iff.1 hnext
    obtain ⟨rfl, rfl⟩ := Prod.mk.inj hfound
    exact h.closeParen hclose
  case h_3 =>
    obtain ⟨rfl, rfl⟩ := Prod.mk.inj (Option.some.inj hnext)
    exact h.replaceFrame st.frame.openings_nextBranch_sublist
  case h_4 =>
    obtain ⟨⟨value, rest⟩, -, hfound⟩ := Option.map_eq_some_iff.1 hnext
    obtain ⟨rfl, rfl⟩ := Prod.mk.inj hfound
    apply h.push
    rw [Item.shift, ofSet_shift]
  case h_5 | h_6 | h_7 =>
    obtain ⟨next', hrepeat, hfound⟩ := Option.map_eq_some_iff.1 hnext
    obtain ⟨rfl, rfl⟩ := Prod.mk.inj hfound
    exact h.repeatLast hrepeat
  case h_8 =>
    obtain ⟨bounds, -, hnext⟩ := Option.bind_eq_some_iff.1 hnext
    obtain ⟨next', hrepeat, hfound⟩ := Option.map_eq_some_iff.1 hnext
    obtain ⟨rfl, rfl⟩ := Prod.mk.inj hfound
    exact h.repeatLast hrepeat
  case h_9 =>
    obtain ⟨escape, -, hnext⟩ := Option.bind_eq_some_iff.1 hnext
    obtain ⟨item, hitem, hfound⟩ := Option.map_eq_some_iff.1 hnext
    obtain ⟨rfl, rfl⟩ := Prod.mk.inj hfound
    exact h.push (Item.shift_of_ofEscape?_eq_some hitem)
  case h_10 =>
    obtain ⟨p, hdot, hfound⟩ := Option.map_eq_some_iff.1 hnext
    obtain ⟨rfl, rfl⟩ := Prod.mk.inj hfound
    apply h.push
    rw [Item.shift, Item.plain, Flags.shift_of_dot?_eq_some hdot]
  case h_11 | h_12 =>
    obtain ⟨rfl, rfl⟩ := Prod.mk.inj (Option.some.inj hnext)
    exact h.push rfl
  case h_13 =>
    obtain ⟨p, hliteral, hfound⟩ := Option.map_eq_some_iff.1 hnext
    obtain ⟨rfl, rfl⟩ := Prod.mk.inj hfound
    apply h.push
    rw [Item.shift, Item.plain, Flags.shift_of_literal?_eq_some hliteral]

theorem readItems (h : st.Numbered) {properties : Properties} {fuel : Nat}
    (hnext : readItems properties fuel st text = some next) : next.Numbered := by
  induction fuel generalizing st text with
  | zero => cases hnext
  | succ fuel ih =>
    rw [Reader.readItems] at hnext
    split at hnext
    case h_1 =>
      obtain rfl := Option.some.inj hnext
      exact h
    case h_2 c rest _ =>
      obtain ⟨⟨st', left⟩, hstep, hnext⟩ := Option.bind_eq_some_iff.1 hnext
      exact ih (h.step hstep) hnext

end Numbered

end State

end Reader

/-- In the order in which the groups of a pattern open, their numbers ascend from 1 on. -/
theorem ascending_openings_of_read? {properties : Properties} {text : String} {p : Pattern}
    (h : read? properties text = some p) :
    (0 :: p.openings).Pairwise (· < ·) := by
  obtain ⟨fuel, st, hst, -, rfl⟩ := Reader.read?_eq_some h
  have hstart : Reader.start.Numbered := ⟨List.pairwise_singleton _ _, nofun⟩
  have hbody : st.frame.body.pattern.openings.Sublist st.openings := by
    rw [Reader.State.openings_eq, Reader.Frame.openings, ← List.append_assoc]
    exact st.frame.openings_body_sublist.trans (List.sublist_append_right _ _)
  exact (hstart.readItems hst).ascending.sublist (hbody.cons_cons 0)

end OperatorGrammar.Pattern
