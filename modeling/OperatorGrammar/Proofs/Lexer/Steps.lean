import OperatorGrammar.Proofs.Lexer.Attempts

/-!
# What one operation does to a lexer

A scan either finishes the text or accepts one match that lies ahead. All other operations come down
to taking the next token: looking at it takes it and puts it back. Each token that is taken uses up
room, of which a text has as much as it has characters, and one.
-/

namespace OperatorGrammar.Lexer

variable {τ : Type}

/-! ## One scan -/

/-- How many more matches the rest of the text has room for. -/
def room (lx : Lexer τ) : Nat :=
  lx.cursor.after.length + if lx.lastMatch = some lx.cursor.offset then 0 else 1

/-- A match that a scan may accept: it was searched for, lies ahead and leaves less room. -/
structure Admits (lx : Lexer τ) (found : Match) : Prop where
  search_eq : ∃ cursor, lx.lexicon.pattern.search? cursor = some found
  first_mem : found.extent.first ∈ lx.cursor.positions
  last_mem : found.extent.last ∈ found.extent.first.positions
  lt_room : found.extent.last.after.length < lx.room

theorem finish_of_mem_positions {lx : Lexer τ} {next : Cursor} (h : next ∈ lx.cursor.positions) :
    { lx with cursor := next }.finish = lx.finish := by
  have htext : next.text = lx.cursor.text := Cursor.text_of_mem_positions h
  have hend : next.toEnd = lx.cursor.toEnd := by
    obtain ⟨chars, hafter, hbefore⟩ := Cursor.mem_positions_iff.1 h
    apply Cursor.eq_of_before_of_after
    · simp [Cursor.toEnd, hafter, hbefore]
    · rfl
  simp only [finish, hend, endToken, sentinel, htext]

theorem accept_of_mem_positions {lx : Lexer τ} {next : Cursor} (h : next ∈ lx.cursor.positions)
    (found : Match) : { lx with cursor := next }.accept found = lx.accept found := by
  simp only [accept, place, Cursor.text_of_mem_positions h]

theorem admits_of_search? {lx : Lexer τ} {found : Match}
    (h : lx.lexicon.pattern.search? lx.cursor = some found) (hstalls : lx.stalls found = false) :
    lx.Admits found := by
  obtain ⟨hfirst, hlast⟩ := Pattern.search?_eq_some h
  refine ⟨⟨lx.cursor, h⟩, hfirst, hlast, ?_⟩
  have hahead := Cursor.mem_positions_trans hfirst hlast
  have hle := Cursor.length_after_le hahead
  unfold room
  split
  case isFalse => omega
  case isTrue hlastMatch =>
    -- without room to spare the match would be empty and at the end of the last one
    refine Nat.lt_of_le_of_ne hle fun heq ↦ ?_
    have hcursor : found.extent.last = lx.cursor := Cursor.eq_of_length_after_eq hahead heq
    have hempty : found.extent.first.offset = found.extent.last.offset := by
      have := Cursor.offset_le hfirst
      have := Cursor.offset_le hlast
      rw [hcursor] at *
      omega
    simp [stalls, hempty, hcursor, hlastMatch] at hstalls

/-- A search from the next character on has no more room than the one that made no progress. -/
theorem room_step_le {lx : Lexer τ} {c : Char} {next : Cursor}
    (h : lx.cursor.advance? = some (c, next)) : { lx with cursor := next }.room ≤ lx.room := by
  obtain ⟨rest, hafter, rfl⟩ := Cursor.advance?_eq_some_iff.1 h
  have hspare : ∀ p : Prop, ∀ _ : Decidable p, (if p then 0 else 1) ≤ 1 := by
    intro p _
    split <;> omega
  calc
    { lx with cursor := lx.cursor.step c rest }.room ≤ rest.length + 1 :=
      Nat.add_le_add_left (hspare _ _) _
    _ = lx.cursor.after.length := by rw [hafter, List.length_cons]
    _ ≤ lx.room := Nat.le_add_right _ _

/-- The positions that a scan of a text with more to come searches from, in order, and the match
that it accepts, if any. -/
def hunt (lx : Lexer τ) : List Cursor × Option Match :=
  match lx.lexicon.pattern.search? lx.cursor with
  | none => ([lx.cursor], none)
  | some found =>
    if lx.stalls found then
      match _h : lx.cursor.after with
      | [] => ([lx.cursor], none)
      | c :: rest =>
        let later := hunt { lx with cursor := lx.cursor.step c rest }
        (lx.cursor :: later.1, later.2)
    else ([lx.cursor], some found)
termination_by lx.cursor.after.length
decreasing_by simp [Cursor.step, _h]

theorem seek_eq_hunt (lx : Lexer τ) :
    lx.seek =
      match lx.hunt.2 with
      | none => (.ok lx.sentinel, lx.finish)
      | some found => lx.accept found := by
  fun_induction hunt lx with
  | case1 lx hsearch => rw [seek_eq, hsearch]
  | case2 lx found hsearch hstalls hend =>
    have hadvance : lx.cursor.advance? = none := by simp [Cursor.advance?, hend]
    simp only [seek_eq lx, hsearch, hstalls, if_true, hadvance]
  | case3 lx found hsearch hstalls c rest hafter later ih =>
    have hadvance := Cursor.advance?_of_after hafter
    have hnext := Cursor.mem_positions_of_advance? hadvance
    simp only [seek_eq lx, hsearch, hstalls, if_true, hadvance, ih]
    cases later.2 with
    | none =>
      dsimp only
      rw [finish_of_mem_positions hnext]
      rfl
    | some found => exact accept_of_mem_positions hnext found
  | case4 lx found hsearch hstalls =>
    simp only [seek_eq lx, hsearch, hstalls, Bool.false_eq_true, if_false]

theorem admits_of_hunt {lx : Lexer τ} {found : Match} (h : lx.hunt.2 = some found) :
    lx.Admits found := by
  fun_induction hunt lx with
  | case1 => cases h
  | case2 => cases h
  | case3 lx _ _ _ c rest hafter _ ih =>
    have hadvance := Cursor.advance?_of_after hafter
    obtain ⟨hsearch, hfirst, hlast, hroom⟩ := ih h
    exact ⟨hsearch,
      Cursor.mem_positions_trans (Cursor.mem_positions_of_advance? hadvance) hfirst, hlast,
      Nat.lt_of_lt_of_le hroom (room_step_le hadvance)⟩
  | case4 lx found' hsearch hstalls =>
    obtain rfl := Option.some.inj h
    exact admits_of_search? hsearch (by simpa using hstalls)

theorem mem_positions_of_mem_hunt {lx : Lexer τ} {searched : Cursor} (h : searched ∈ lx.hunt.1) :
    searched ∈ lx.cursor.positions := by
  fun_induction hunt lx with
  | case1 lx => exact List.mem_singleton.1 h ▸ lx.cursor.mem_positions_self
  | case2 lx => exact List.mem_singleton.1 h ▸ lx.cursor.mem_positions_self
  | case3 lx _ _ _ c rest hafter _ ih =>
    have hadvance := Cursor.advance?_of_after hafter
    rcases List.mem_cons.1 h with rfl | h
    · exact lx.cursor.mem_positions_self
    · exact Cursor.mem_positions_trans (Cursor.mem_positions_of_advance? hadvance) (ih h)
  | case4 lx => exact List.mem_singleton.1 h ▸ lx.cursor.mem_positions_self

/-- Behind the end of the last match every match makes progress. -/
theorem hunt_of_lastMatch_lt {lx : Lexer τ} (h : ∀ last ∈ lx.lastMatch, last < lx.cursor.offset) :
    lx.hunt.1 = [lx.cursor] := by
  unfold hunt
  split
  case h_1 => rfl
  case h_2 found hsearch =>
    obtain ⟨hfirst, hlast⟩ := Pattern.search?_eq_some hsearch
    have hle := Cursor.offset_le (Cursor.mem_positions_trans hfirst hlast)
    have hstalls : lx.stalls found = false := by
      rw [stalls, Bool.and_eq_false_iff]
      refine .inr (beq_eq_false_iff_ne.2 fun hmatch ↦ ?_)
      exact absurd (h _ hmatch) (Nat.not_lt.2 hle)
    simp [hstalls]

/-- After one character is skipped, the match that ended last lies behind. -/
theorem length_hunt_le {lx : Lexer τ} (h : ∀ last ∈ lx.lastMatch, last ≤ lx.cursor.offset) :
    lx.hunt.1.length ≤ 2 := by
  unfold hunt
  split
  case h_1 => exact Nat.le_succ 1
  case h_2 found hsearch =>
    split
    case isFalse => exact Nat.le_succ 1
    case isTrue hstalls =>
      split
      case h_1 => exact Nat.le_succ 1
      case h_2 c rest hafter =>
        have hnext : { lx with cursor := lx.cursor.step c rest }.hunt.1 =
            [lx.cursor.step c rest] := by
          refine hunt_of_lastMatch_lt fun last hlast ↦ ?_
          have hle := h last hlast
          have hpos : 0 < c.utf8Size := Char.utf8Size_pos c
          simp only [Cursor.step]
          omega
        simp [hnext]

/-- The positions that a scan searches from, in order. -/
def searches (lx : Lexer τ) : List Cursor := if lx.exhausted then [] else lx.hunt.1

/-- The match that a scan accepts. It accepts none if it goes to the end of the text. -/
def found? (lx : Lexer τ) : Option Match := if lx.exhausted then none else lx.hunt.2

theorem scan_eq (lx : Lexer τ) :
    lx.scan =
      match lx.found? with
      | none => (.ok lx.sentinel, lx.finish)
      | some found => lx.accept found := by
  rw [scan, found?]
  split
  · rfl
  · exact lx.seek_eq_hunt

theorem admits_of_found? {lx : Lexer τ} {found : Match} (h : lx.found? = some found) :
    lx.exhausted = false ∧ lx.Admits found := by
  rw [found?] at h
  split at h
  case isTrue => cases h
  case isFalse hexhausted => exact ⟨by simpa using hexhausted, admits_of_hunt h⟩

/-- All that a scan can do. -/
theorem scan_cases (lx : Lexer τ) :
    lx.scan = (.ok lx.sentinel, lx.finish) ∨
      lx.exhausted = false ∧ ∃ found, lx.Admits found ∧ lx.scan = lx.accept found := by
  rw [scan_eq]
  cases hfound : lx.found? with
  | none => exact .inl rfl
  | some found =>
    obtain ⟨hexhausted, hadmits⟩ := admits_of_found? hfound
    exact .inr ⟨hexhausted, found, hadmits, rfl⟩

theorem accept_of_identify?_eq_none {lx : Lexer τ} {found : Match}
    (h : lx.lexicon.identify? found = none) :
    lx.accept found =
      (.error (.unidentified (lx.place found.extent.first.offset
        (found.extent.last.offset - found.extent.first.offset))),
        { lx with cursor := found.extent.last, lastMatch := some found.extent.last.offset }) := by
  rw [accept, h]

theorem accept_cases (lx : Lexer τ) (found : Match) :
    (∃ place, lx.accept found = (.error (.unidentified place),
      { lx with cursor := found.extent.last, lastMatch := some found.extent.last.offset })) ∨
    ∃ kind extent, lx.lexicon.identify? found = some (kind, extent) ∧
      lx.accept found = (.ok kind,
        { lx with
          cursor := found.extent.last
          lastMatch := some found.extent.last.offset
          current := some (tokenOf kind extent) }) := by
  cases h : lx.lexicon.identify? found with
  | none => exact .inl ⟨_, accept_of_identify?_eq_none h⟩
  | some rule => exact .inr ⟨rule.1, rule.2, rfl, accept_of_identify? h⟩

/-- Behind an accepted match at most the current token is another one. -/
theorem accept_snd (lx : Lexer τ) (found : Match) :
    ∃ current, (lx.accept found).2 =
      { lx with
        cursor := found.extent.last
        lastMatch := some found.extent.last.offset
        current := current } := by
  rcases lx.accept_cases found with ⟨place, haccept⟩ | ⟨kind, extent, -, haccept⟩
  · exact ⟨lx.current, by rw [haccept]⟩
  · exact ⟨some (tokenOf kind extent), by rw [haccept]⟩

end OperatorGrammar.Lexer
