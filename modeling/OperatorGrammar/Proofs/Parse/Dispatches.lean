import OperatorGrammar.Proofs.Lexer.Ahead
import OperatorGrammar.Proofs.Parse.Equations

/-!
# Dispatches

A parse with a record of the tokens whose strategies it plays, in nested expressions too. If the
sentinel has no strategy, each of them is a match of the lexer, so that there are no more dispatches
than matches that the lexer has still to deliver.
-/

namespace OperatorGrammar

/-- A token whose strategy was played, at the start of an expression or behind one. -/
inductive Dispatch (τ : Type) where
  | starter (token : τ)
  | follower (token : τ)
deriving DecidableEq

namespace Grammar

variable {τ π ε : Type}

/-- The dispatches of a computation, in order, and what it finds. -/
abbrev Traced (τ ε : Type) := List (Dispatch τ) × Parsed τ ε

/-- Puts the dispatches that were made before in front. -/
def following (before : List (Dispatch τ)) (later : Option (Traced τ ε)) : Option (Traced τ ε) :=
  later.map fun later ↦ (before ++ later.1, later.2)

/-- Goes on with the value that was parsed, and passes a fault on. -/
def andThenTraced (traced : Option (Traced τ ε)) (next : ε → Lexer τ → Option (Traced τ ε)) :
    Option (Traced τ ε) :=
  traced.bind fun
    | (dispatches, .error fault, lx) => some (dispatches, .error fault, lx)
    | (dispatches, .ok value, lx) => following dispatches (next value lx)

variable [DecidableEq τ]

mutual

/-- Parses one expression as `parse` does. -/
def parseTraced (g : Grammar τ π ε) : Nat → π → Lexer τ → Option (Traced τ ε)
  | 0, _, _ => none
  | depth + 1, min, lx =>
    match lx.advance with
    | (.error fault, lx) => some ([], .error fault, lx)
    | (.ok token, lx) =>
      match g.starter token with
      | none => some ([], .error (.noStarter token lx.currentOrEnd.literal lx.currentPlace), lx)
      | some strategy =>
        following [.starter token]
          (andThenTraced (actTraced g depth strategy [] lx) (climbTraced g depth min))

/-- Continues an expression as `climb` does. -/
def climbTraced (g : Grammar τ π ε) : Nat → π → ε → Lexer τ → Option (Traced τ ε)
  | 0, _, _, _ => none
  | depth + 1, min, left, lx =>
    match lx.peek with
    | (.error fault, lx) => some ([], .error fault, lx)
    | (.ok token, lx) =>
      if g.binds min token then
        match lx.advance with
        | (.error fault, lx) => some ([], .error fault, lx)
        | (.ok token, lx) =>
          match g.follower token with
          | none =>
            some ([], .error (.noFollower token lx.currentOrEnd.literal lx.currentPlace), lx)
          | some strategy =>
            following [.follower token]
              (andThenTraced (actTraced g depth (strategy left) [] lx) (climbTraced g depth min))
      else some ([], .ok left, lx)

/-- Plays a strategy as `act` does. -/
def actTraced (g : Grammar τ π ε) :
    Nat → Strategy τ π ε → List (Answer τ ε) → Lexer τ → Option (Traced τ ε)
  | 0, _, _, _ => none
  | depth + 1, strategy, heard, lx =>
    match strategy heard with
    | .done result => some ([], result, lx)
    | .ask (.parse level) =>
      (parseTraced g depth level lx).bind fun nested ↦
        following nested.1
          (actTraced g depth strategy (heard ++ [.parsed nested.2.1]) nested.2.2)
    | .ask (.call call) =>
      actTraced g depth strategy (heard ++ [.reply (lx.call call).1]) (lx.call call).2

end

/-! ## The record changes nothing -/

omit [DecidableEq τ] in
theorem map_snd_following (before : List (Dispatch τ)) (later : Option (Traced τ ε)) :
    (following before later).map Prod.snd = later.map Prod.snd := by
  rw [following, Option.map_map]
  rfl

omit [DecidableEq τ] in
theorem map_snd_andThenTraced (traced : Option (Traced τ ε))
    (next : ε → Lexer τ → Option (Traced τ ε)) :
    (andThenTraced traced next).map Prod.snd =
      andThen (traced.map Prod.snd) fun value lx ↦ (next value lx).map Prod.snd := by
  rcases traced with _ | ⟨dispatches, fault | value, lx⟩
  · rfl
  · rfl
  · exact map_snd_following ..

variable (g : Grammar τ π ε)

/-- Without the record, the three functions find what the plain ones do at the same depth. -/
theorem map_snd_traced (depth : Nat) :
    (∀ min lx, (g.parseTraced depth min lx).map Prod.snd = g.parse depth min lx) ∧
    (∀ min left lx, (g.climbTraced depth min left lx).map Prod.snd = g.climb depth min left lx) ∧
    ∀ strategy heard lx,
      (g.actTraced depth strategy heard lx).map Prod.snd = g.act depth strategy heard lx := by
  induction depth with
  | zero =>
    refine ⟨fun min lx ↦ ?parse, fun min left lx ↦ ?climb, fun strategy heard lx ↦ ?act⟩
    case parse => rw [parseTraced, parse, Option.map_none]
    case climb => rw [climbTraced, climb, Option.map_none]
    case act => rw [actTraced, act, Option.map_none]
  | succ depth ih =>
    obtain ⟨hparse, hclimb, hact⟩ := ih
    have hcontinue (before : List (Dispatch τ)) (strategy : Strategy τ π ε) (min : π)
        (lx : Lexer τ) : (following before (andThenTraced (g.actTraced depth strategy [] lx)
          (g.climbTraced depth min))).map Prod.snd =
            andThen (g.act depth strategy [] lx) (g.climb depth min) := by
      rw [map_snd_following, map_snd_andThenTraced, hact]
      congr 1
      funext left lx
      exact hclimb min left lx
    refine ⟨fun min lx ↦ ?parse, fun min left lx ↦ ?climb, fun strategy heard lx ↦ ?act⟩
    case parse =>
      rw [parseTraced, parse_succ]
      rcases lx.advance with ⟨fault | token, lx⟩
      · rfl
      · dsimp only
        cases g.starter token with
        | none => rfl
        | some strategy => exact hcontinue [.starter token] strategy min lx
    case climb =>
      rw [climbTraced, climb_succ]
      rcases lx.peek with ⟨fault | token, lx⟩
      · rfl
      · dsimp only
        split
        · rcases lx.advance with ⟨fault | token, lx⟩
          · rfl
          · dsimp only
            cases g.follower token with
            | none => rfl
            | some strategy => exact hcontinue [.follower token] (strategy left) min lx
        · rfl
    case act =>
      rw [actTraced, act]
      cases strategy heard with
      | done result => rfl
      | ask request =>
        cases request with
        | parse level =>
          dsimp only
          rw [← hparse level lx]
          cases g.parseTraced depth level lx with
          | none => rfl
          | some nested => exact (map_snd_following ..).trans (hact ..)
        | call call => exact hact strategy _ (lx.call call).2

theorem exists_parseTraced {depth : Nat} {min : π} {lx : Lexer τ} {parsed : Parsed τ ε}
    (h : g.parse depth min lx = some parsed) :
    ∃ dispatches, g.parseTraced depth min lx = some (dispatches, parsed) := by
  rw [← (g.map_snd_traced depth).1] at h
  obtain ⟨⟨dispatches, _⟩, htraced, rfl⟩ := Option.map_eq_some_iff.1 h
  exact ⟨dispatches, htraced⟩

/-! ## No more dispatches than matches -/

variable {lexicon : Lexicon τ} {text : List Char} {bound : Nat} {lx : Lexer τ}

/-- If a computation has an end, its dispatches and the matches that it leaves are no more than
`bound` together. -/
def Spends (lexicon : Lexicon τ) (text : List Char) (bound : Nat) (traced : Option (Traced τ ε)) :
    Prop :=
  ∀ dispatches result last, traced = some (dispatches, result, last) →
    last.Invariant lexicon text ∧ dispatches.length + last.matchesLeft ≤ bound

omit [DecidableEq τ] in
theorem spends_nil (h : lx.Within lexicon text bound) (result : Except (Fault τ) ε) :
    Spends lexicon text bound (some ([], result, lx)) := by
  rintro _ _ _ ⟨⟩
  exact ⟨h.invariant, by rw [List.length_nil, Nat.zero_add]; exact h.matchesLeft_le⟩

omit [DecidableEq τ] in
theorem Spends.following {left : Nat} {before : List (Dispatch τ)} {later : Option (Traced τ ε)}
    (hlater : Spends lexicon text left later) (hle : before.length + left ≤ bound) :
    Spends lexicon text bound (following before later) := by
  rintro _ result last hsome
  obtain ⟨⟨own, _⟩, hown, hpair⟩ := Option.map_eq_some_iff.1 hsome
  obtain ⟨rfl, rfl⟩ := Prod.mk.inj hpair
  obtain ⟨hlast, hlength⟩ := hlater own result last hown
  refine ⟨hlast, ?_⟩
  calc
    (before ++ own).length + last.matchesLeft =
        before.length + (own.length + last.matchesLeft) := by
      rw [List.length_append, Nat.add_assoc]
    _ ≤ before.length + left := Nat.add_le_add_left hlength _
    _ ≤ bound := hle

omit [DecidableEq τ] in
theorem Spends.andThenTraced {traced : Option (Traced τ ε)} (h : Spends lexicon text bound traced)
    {next : ε → Lexer τ → Option (Traced τ ε)}
    (hnext : ∀ value left lx, lx.Within lexicon text left →
      Spends lexicon text left (next value lx)) :
    Spends lexicon text bound (andThenTraced traced next) := by
  rcases traced with _ | ⟨dispatches, fault | value, lx⟩
  · exact h
  · exact h
  · obtain ⟨hinvariant, hle⟩ := h dispatches _ lx rfl
    exact (hnext value _ lx hinvariant.within).following hle

omit [DecidableEq τ] in
theorem Spends.following_one {left : Nat} {later : Option (Traced τ ε)}
    (h : Spends lexicon text left later) (hlt : left < bound) (dispatch : Dispatch τ) :
    Spends lexicon text bound (Grammar.following [dispatch] later) :=
  h.following (by rwa [List.length_singleton, Nat.add_comm])

/-- The sentinel has neither a starter nor a follower. -/
structure IsIdle (g : Grammar τ π ε) (sentinel : τ) : Prop where
  starter_eq : g.starter sentinel = none
  follower_eq : g.follower sentinel = none

section

variable {g} (hidle : g.IsIdle lexicon.sentinel) {depth : Nat}

include hidle

omit [DecidableEq τ] in
theorem IsIdle.ne_of_starter {token : τ} {strategy : Strategy τ π ε}
    (h : g.starter token = some strategy) : token ≠ lexicon.sentinel := by
  rintro rfl
  cases hidle.starter_eq.symm.trans h

omit [DecidableEq τ] in
theorem IsIdle.ne_of_follower {token : τ} {strategy : ε → Strategy τ π ε}
    (h : g.follower token = some strategy) : token ≠ lexicon.sentinel := by
  rintro rfl
  cases hidle.follower_eq.symm.trans h

/-- A token that starts an expression is a match. -/
theorem IsIdle.spends_parse (min : π) (h : lx.Within lexicon text bound)
    (hcontinue : ∀ strategy left lx, lx.Within lexicon text left →
      Spends lexicon text left
        (andThenTraced (g.actTraced depth strategy [] lx) (g.climbTraced depth min))) :
    Spends lexicon text bound (g.parseTraced (depth + 1) min lx) := by
  rcases hadvance : lx.advance with ⟨fault | kind, next⟩
  · rw [parseTraced, hadvance]
    exact spends_nil (h.of_advance hadvance) _
  · have hnext := h.of_advance hadvance
    obtain ⟨token, rfl, hdelivers⟩ := Lexer.delivers_of_advance hadvance
    rw [parseTraced, hadvance]
    dsimp only
    cases hstarter : g.starter token.kind with
    | none => exact spends_nil hnext _
    | some strategy =>
      have hlt := h.matchesLeft_lt hdelivers (hidle.ne_of_starter hstarter)
      exact (hcontinue strategy _ next hnext.invariant.within).following_one hlt _

/-- A token that continues an expression is a match, and one that does not is put back. -/
theorem IsIdle.spends_climb (min : π) (left : ε) (h : lx.Within lexicon text bound)
    (hcontinue : ∀ strategy left lx, lx.Within lexicon text left →
      Spends lexicon text left
        (andThenTraced (g.actTraced depth strategy [] lx) (g.climbTraced depth min))) :
    Spends lexicon text bound (g.climbTraced (depth + 1) min left lx) := by
  rcases hadvance : lx.advance with ⟨fault | kind, next⟩
  · rw [climbTraced, Lexer.peek_of_advance_error hadvance]
    exact spends_nil (h.of_advance hadvance) _
  · have hnext := h.of_advance hadvance
    obtain ⟨token, rfl, hdelivers⟩ := Lexer.delivers_of_advance hadvance
    simp only [climbTraced, hdelivers.peek_eq, (Lexer.delivers_putBack hdelivers).advance_eq]
    split
    case isFalse => exact spends_nil (h.putBack hdelivers) _
    case isTrue =>
      cases hfollower : g.follower token.kind with
      | none => exact spends_nil hnext _
      | some strategy =>
        have hlt := h.matchesLeft_lt hdelivers (hidle.ne_of_follower hfollower)
        exact (hcontinue (strategy left) _ next hnext.invariant.within).following_one hlt _

omit hidle in
theorem spends_act (strategy : Strategy τ π ε) (heard : List (Answer τ ε))
    (h : lx.Within lexicon text bound)
    (hparse : ∀ level, Spends lexicon text bound (g.parseTraced depth level lx))
    (hact : ∀ heard left lx, lx.Within lexicon text left →
      Spends lexicon text left (g.actTraced depth strategy heard lx)) :
    Spends lexicon text bound (g.actTraced (depth + 1) strategy heard lx) := by
  rw [actTraced]
  split
  case h_1 => exact spends_nil h _
  case h_2 level _ =>
    intro dispatches result last hsome
    obtain ⟨⟨nested, between, mid⟩, hnested, hlater⟩ := Option.bind_eq_some_iff.1 hsome
    obtain ⟨hmid, hle⟩ := hparse level nested between mid hnested
    exact (hact _ _ mid hmid.within).following hle dispatches result last hlater
  case h_3 call _ => exact hact _ bound _ (h.call call)

/-- A dispatch takes the token that it is for; nothing else that the three functions do to the lexer
gives a match back. -/
theorem IsIdle.spends (depth : Nat) :
    (∀ min bound lx, lx.Within lexicon text bound →
      Spends lexicon text bound (g.parseTraced depth min lx)) ∧
    (∀ min left bound lx, lx.Within lexicon text bound →
      Spends lexicon text bound (g.climbTraced depth min left lx)) ∧
    ∀ strategy heard bound lx, lx.Within lexicon text bound →
      Spends lexicon text bound (g.actTraced depth strategy heard lx) := by
  induction depth with
  | zero =>
    refine ⟨fun min bound lx h ↦ ?parse, fun min left bound lx h ↦ ?climb,
      fun strategy heard bound lx h ↦ ?act⟩
    case parse =>
      rw [parseTraced]
      nofun
    case climb =>
      rw [climbTraced]
      nofun
    case act =>
      rw [actTraced]
      nofun
  | succ depth ih =>
    obtain ⟨hparse, hclimb, hact⟩ := ih
    have hcontinue (min : π) (strategy : Strategy τ π ε) (bound : Nat) (lx : Lexer τ)
        (h : lx.Within lexicon text bound) : Spends lexicon text bound
          (andThenTraced (g.actTraced depth strategy [] lx) (g.climbTraced depth min)) :=
      (hact strategy [] bound lx h).andThenTraced (hclimb min)
    exact ⟨fun min bound lx h ↦ hidle.spends_parse min h (hcontinue min),
      fun min left bound lx h ↦ hidle.spends_climb min left h (hcontinue min),
      fun strategy heard bound lx h ↦ spends_act strategy heard h (hparse · bound lx h)
        (hact strategy)⟩

end

variable {g}

/-- Only a fault is found without a dispatch. -/
theorem ne_nil_of_parseTraced_eq_ok {depth : Nat} {min : π} {lx last : Lexer τ}
    {dispatches : List (Dispatch τ)} {value : ε}
    (h : g.parseTraced depth min lx = some (dispatches, .ok value, last)) : dispatches ≠ [] := by
  cases depth with
  | zero =>
    rw [parseTraced] at h
    cases h
  | succ depth =>
    rw [parseTraced] at h
    split at h
    case h_1 => cases h
    case h_2 =>
      split at h
      case h_1 => cases h
      case h_2 =>
        obtain ⟨found, -, hfound⟩ := Option.map_eq_some_iff.1 h
        obtain ⟨rfl, -⟩ := Prod.mk.inj hfound
        exact List.cons_ne_nil _ _

/-- A parse with an end leaves no more matches, and fewer if it found an expression. -/
theorem IsIdle.within_of_parseLimit (hidle : g.IsIdle lexicon.sentinel) {min : π} {last : Lexer τ}
    (h : lx.Within lexicon text bound) {result : Except (Fault τ) ε}
    (hlimit : g.parseLimit min lx = some (result, last)) :
    last.Within lexicon text bound ∧ ∀ value, result = .ok value → last.matchesLeft < bound := by
  obtain ⟨depth, hdepth⟩ := (g.steady_parse min lx).limit_eq_some_iff.1 hlimit
  obtain ⟨dispatches, htraced⟩ := g.exists_parseTraced hdepth
  obtain ⟨hlast, hle⟩ := (hidle.spends depth).1 min bound lx h dispatches result last htraced
  refine ⟨⟨hlast, Nat.le_of_add_left_le hle⟩, ?_⟩
  rintro value rfl
  have hpos : 0 < dispatches.length :=
    List.length_pos_iff.2 (ne_nil_of_parseTraced_eq_ok htraced)
  omega

end Grammar

end OperatorGrammar
