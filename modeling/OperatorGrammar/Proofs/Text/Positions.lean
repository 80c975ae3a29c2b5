import OperatorGrammar.Text.Cursor

/-!
# The positions ahead of a cursor

The positions of a text at or behind a cursor, in order. They are told apart by their offsets, and
what stands before and after each of them is the same text.
-/

namespace OperatorGrammar

theorem takeWidth_width_append (chars rest : List Char) :
    takeWidth (width chars) (chars ++ rest) = chars := by
  induction chars with
  | nil => cases rest <;> simp [takeWidth]
  | cons c chars ih =>
    have hpos : 0 < c.utf8Size := Char.utf8Size_pos c
    rw [width_cons, List.cons_append, takeWidth, if_neg (by omega), Nat.add_sub_cancel_left, ih]

theorem width_pos {chars : List Char} (h : chars ≠ []) : 0 < width chars := by
  obtain ⟨c, rest, rfl⟩ := List.exists_cons_of_ne_nil h
  have hpos : 0 < c.utf8Size := Char.utf8Size_pos c
  rw [width_cons]
  omega

namespace Cursor

/-- The positions from one that stands behind `before` to the end of the text. -/
def positionsFrom (before : List Char) (offset : Nat) (h : offset = width before) :
    List Char → List Cursor
  | [] => [⟨before, [], offset, h⟩]
  | c :: rest =>
    ⟨before, c :: rest, offset, h⟩ ::
      positionsFrom (c :: before) (c.utf8Size + offset) (add_eq_width_cons c h) rest

/-- The cursor and all positions behind it, in order. -/
def positions (cur : Cursor) : List Cursor :=
  positionsFrom cur.before cur.offset cur.offset_eq cur.after

theorem positions_eq (cur : Cursor) :
    cur.positions = cur :: ((cur.advance?.map fun next ↦ next.2.positions).getD []) := by
  obtain ⟨before, after, offset, h⟩ := cur
  cases after with
  | nil => rfl
  | cons c rest => simp [positions, positionsFrom, advance?, step]

@[simp] theorem mem_positions_self (cur : Cursor) : cur ∈ cur.positions := by
  rw [positions_eq]
  exact List.mem_cons_self

theorem positions_of_advance? {cur next : Cursor} {c : Char} (h : cur.advance? = some (c, next)) :
    cur.positions = cur :: next.positions := by
  rw [positions_eq, h]
  rfl

theorem advance?_eq_some_iff {cur next : Cursor} {c : Char} :
    cur.advance? = some (c, next) ↔ ∃ rest, cur.after = c :: rest ∧ next = cur.step c rest := by
  unfold advance?
  split <;> grind

theorem advance?_of_after {cur : Cursor} {c : Char} {rest : List Char}
    (h : cur.after = c :: rest) : cur.advance? = some (c, cur.step c rest) :=
  advance?_eq_some_iff.2 ⟨rest, h, rfl⟩

theorem eq_of_before_of_after {cur cur' : Cursor} (hbefore : cur.before = cur'.before)
    (hafter : cur.after = cur'.after) : cur = cur' := by
  obtain ⟨before, after, offset, h⟩ := cur
  obtain ⟨before', after', offset', h'⟩ := cur'
  simp_all

/-- Induction from the end of the text towards its start. -/
theorem induction_on {motive : Cursor → Prop} (cur : Cursor)
    (atEnd : ∀ cur, cur.advance? = none → motive cur)
    (step : ∀ cur c next, cur.advance? = some (c, next) → motive next → motive cur) :
    motive cur := by
  generalize hsize : cur.after.length = size
  induction size generalizing cur with
  | zero =>
    apply atEnd
    simp [advance?, List.length_eq_zero_iff.1 hsize]
  | succ size ih =>
    obtain ⟨c, rest, hafter⟩ := List.exists_cons_of_length_eq_add_one hsize
    refine step cur c (cur.step c rest) (advance?_eq_some_iff.2 ⟨rest, hafter, rfl⟩) (ih _ ?_)
    simpa [hafter, Cursor.step] using hsize

/-- A position ahead has taken some characters from what comes after to what comes before. -/
theorem mem_positions_iff {cur later : Cursor} :
    later ∈ cur.positions ↔ ∃ chars, cur.after = chars ++ later.after ∧
      later.before = chars.reverse ++ cur.before := by
  induction cur using induction_on with
  | atEnd cur hend =>
    have hafter : cur.after = [] := by
      unfold advance? at hend
      split at hend <;> simp_all
    rw [positions_eq, hend]
    constructor
    · intro hmem
      obtain rfl : later = cur := by simpa using hmem
      exact ⟨[], rfl, rfl⟩
    · rintro ⟨chars, htext, hbefore⟩
      obtain ⟨rfl, hlater⟩ : chars = [] ∧ later.after = [] := by
        simpa [hafter, eq_comm] using htext
      obtain rfl : later = cur :=
        eq_of_before_of_after (by simpa using hbefore) (hlater.trans hafter.symm)
      simp
  | step cur c next hstep ih =>
    obtain ⟨rest, hafter, rfl⟩ := advance?_eq_some_iff.1 hstep
    rw [positions_of_advance? hstep, List.mem_cons, ih]
    constructor
    · rintro (rfl | ⟨chars, htext, hbefore⟩)
      · exact ⟨[], rfl, rfl⟩
      · refine ⟨c :: chars, ?_, ?_⟩
        · rw [hafter, List.cons_append, ← htext]
          rfl
        · simpa [Cursor.step] using hbefore
    · rintro ⟨chars, htext, hbefore⟩
      cases chars with
      | nil =>
        exact .inl (eq_of_before_of_after (by simpa using hbefore) (by simpa using htext.symm))
      | cons d chars =>
        obtain ⟨rfl, hrest⟩ : c = d ∧ rest = chars ++ later.after := by
          simpa [hafter] using htext
        exact .inr ⟨chars, hrest, by simpa [Cursor.step] using hbefore⟩

theorem mem_positions_trans {cur mid later : Cursor} (h : mid ∈ cur.positions)
    (h' : later ∈ mid.positions) : later ∈ cur.positions := by
  obtain ⟨chars, htext, hbefore⟩ := mem_positions_iff.1 h
  obtain ⟨chars', htext', hbefore'⟩ := mem_positions_iff.1 h'
  refine mem_positions_iff.2 ⟨chars ++ chars', ?_, ?_⟩
  · rw [htext, htext', List.append_assoc]
  · rw [hbefore', hbefore, List.reverse_append, List.append_assoc]

theorem mem_positions_of_advance? {cur next : Cursor} {c : Char}
    (h : cur.advance? = some (c, next)) : next ∈ cur.positions := by
  rw [positions_of_advance? h]
  exact List.mem_cons_of_mem _ (mem_positions_self next)

theorem mem_positions_of_skip? {chars : List Char} {cur beyond : Cursor}
    (h : cur.skip? chars = some beyond) : beyond ∈ cur.positions := by
  induction chars generalizing cur with
  | nil =>
    obtain rfl : cur = beyond := by simpa [skip?] using h
    exact mem_positions_self cur
  | cons c chars ih =>
    unfold skip? at h
    split at h
    case h_1 d next hnext =>
      split at h
      · exact mem_positions_trans (mem_positions_of_advance? hnext) (ih h)
      · simp at h
    case h_2 => simp at h

theorem text_of_mem_positions {cur later : Cursor} (h : later ∈ cur.positions) :
    later.text = cur.text := by
  obtain ⟨chars, htext, hbefore⟩ := mem_positions_iff.1 h
  simp [text, htext, hbefore]

theorem offset_of_mem_positions {cur later : Cursor} (h : later ∈ cur.positions) :
    ∃ chars, cur.after = chars ++ later.after ∧ later.offset = cur.offset + width chars := by
  obtain ⟨chars, htext, hbefore⟩ := mem_positions_iff.1 h
  refine ⟨chars, htext, ?_⟩
  calc
    later.offset = width later.before := later.offset_eq
    _ = width chars + width cur.before := by rw [hbefore, width_append, width_reverse]
    _ = cur.offset + width chars := by rw [cur.offset_eq, Nat.add_comm]

/-- What a position ahead has taken is the text up to it. -/
theorem after_eq_upTo_append {cur later : Cursor} (h : later ∈ cur.positions) :
    cur.after = cur.upTo later ++ later.after := by
  obtain ⟨chars, htext, hoffset⟩ := offset_of_mem_positions h
  rw [upTo, hoffset, Nat.add_sub_cancel_left, htext, takeWidth_width_append]

theorem upTo_eq_of_after {cur later : Cursor} {chars : List Char} (h : later ∈ cur.positions)
    (hafter : cur.after = chars ++ later.after) : cur.upTo later = chars :=
  List.append_cancel_right ((after_eq_upTo_append h).symm.trans hafter)

theorem offset_eq_add_width_upTo {cur later : Cursor} (h : later ∈ cur.positions) :
    later.offset = cur.offset + width (cur.upTo later) := by
  obtain ⟨chars, htext, hoffset⟩ := offset_of_mem_positions h
  rw [upTo, hoffset, Nat.add_sub_cancel_left, htext, takeWidth_width_append]

theorem length_after_le {cur later : Cursor} (h : later ∈ cur.positions) :
    later.after.length ≤ cur.after.length := by
  obtain ⟨chars, htext, -⟩ := mem_positions_iff.1 h
  simp [htext]

theorem eq_of_length_after_eq {cur later : Cursor} (h : later ∈ cur.positions)
    (heq : later.after.length = cur.after.length) : later = cur := by
  obtain ⟨chars, htext, hbefore⟩ := mem_positions_iff.1 h
  obtain rfl : chars = [] := by
    rw [htext, List.length_append] at heq
    exact List.eq_nil_of_length_eq_zero (by omega)
  exact eq_of_before_of_after (by simpa using hbefore) (by simpa using htext.symm)

theorem offset_le {cur later : Cursor} (h : later ∈ cur.positions) :
    cur.offset ≤ later.offset := by
  obtain ⟨chars, -, hoffset⟩ := offset_of_mem_positions h
  omega

/-- No character is empty, so that a position ahead with the same offset is the same position. -/
theorem eq_of_offset_eq {cur later : Cursor} (h : later ∈ cur.positions)
    (heq : later.offset = cur.offset) : later = cur := by
  obtain ⟨chars, htext, hoffset⟩ := offset_of_mem_positions h
  apply eq_of_length_after_eq h
  cases chars with
  | nil => rw [htext, List.nil_append]
  | cons c chars =>
    have hpos : 0 < width (c :: chars) := width_pos (List.cons_ne_nil c chars)
    omega

end Cursor

end OperatorGrammar
