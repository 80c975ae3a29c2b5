import OperatorGrammar.Proofs.Lexer.Tokens
import OperatorGrammar.Proofs.Parse.Depth

/-!
# What a parse does with the next token

Parsing an expression and continuing one at whichever depth it takes, told by the token that comes
next.
-/

namespace OperatorGrammar.Grammar

variable {τ π ε : Type}

/-- Goes on with the value that was parsed, and passes a fault on. -/
def andThen (parsed : Option (Parsed τ ε)) (next : ε → Lexer τ → Option (Parsed τ ε)) :
    Option (Parsed τ ε) :=
  parsed.bind fun
    | (.error fault, lx) => some (.error fault, lx)
    | (.ok value, lx) => next value lx

@[simp]
theorem andThen_ok (value : ε) (lx : Lexer τ) (next : ε → Lexer τ → Option (Parsed τ ε)) :
    andThen (some (.ok value, lx)) next = next value lx := rfl

@[simp]
theorem andThen_error (fault : Fault τ) (lx : Lexer τ)
    (next : ε → Lexer τ → Option (Parsed τ ε)) :
    andThen (some (.error fault, lx)) next = some (.error fault, lx) := rfl

/-- Two computations in a row end with the fault of the first one, or as the second one does. -/
theorem andThen_eq_some_iff {parsed : Option (Parsed τ ε)}
    {next : ε → Lexer τ → Option (Parsed τ ε)} {found : Parsed τ ε} :
    andThen parsed next = some found ↔
      (∃ fault lx, parsed = some (.error fault, lx) ∧ found = (.error fault, lx)) ∨
        ∃ value lx, parsed = some (.ok value, lx) ∧ next value lx = some found := by
  rcases parsed with _ | ⟨fault | value, lx⟩
  · simp [andThen]
  · simp [eq_comm]
  · simp

theorem andThen_assoc (parsed : Option (Parsed τ ε)) (next later : ε → Lexer τ → Option (Parsed τ ε)) :
    andThen (andThen parsed next) later =
      andThen parsed fun value lx ↦ andThen (next value lx) later := by
  rcases parsed with _ | ⟨fault | value, lx⟩ <;> rfl

theorem andThen_some_some (result : Except (Fault τ) ε) (last : Lexer τ)
    (f : ε → Except (Fault τ) ε) :
    (andThen (some (result, last)) fun value lx ↦ some (f value, lx)) =
      some (result >>= f, last) := by
  cases result <;> rfl

theorem refines_andThen {first second : Option (Parsed τ ε)} (h : Refines first second)
    {next later : ε → Lexer τ → Option (Parsed τ ε)}
    (hnext : ∀ value lx, Refines (next value lx) (later value lx)) :
    Refines (andThen first next) (andThen second later) := by
  refine h.bind fun parsed ↦ ?_
  rcases parsed with ⟨fault | value, lx⟩
  · exact Refines.refl _
  · exact hnext value lx

theorem limit_andThen {parsed : Nat → Option (Parsed τ ε)} (h : Steady parsed)
    {next : Nat → ε → Lexer τ → Option (Parsed τ ε)}
    (hnext : ∀ value lx, Steady fun depth ↦ next depth value lx) :
    (limit fun depth ↦ andThen (parsed depth) (next depth)) =
      andThen (limit parsed) fun value lx ↦ limit fun depth ↦ next depth value lx := by
  have hrest (found : Parsed τ ε) : Steady fun depth ↦ andThen (some found) (next depth) := by
    rcases found with ⟨fault | value, lx⟩
    · exact fun _ ↦ Refines.refl _
    · exact hnext value lx
  calc
    (limit fun depth ↦ andThen (parsed depth) (next depth)) =
        (limit parsed).bind fun found ↦ limit fun depth ↦ andThen (some found) (next depth) :=
      h.limit_bind hrest
    _ = andThen (limit parsed) fun value lx ↦ limit fun depth ↦ next depth value lx := by
      congr 1
      funext found
      rcases found with ⟨fault | value, lx⟩
      · exact limit_const _
      · rfl

variable [DecidableEq τ] (g : Grammar τ π ε) (min : π)

theorem parse_succ (depth : Nat) (lx : Lexer τ) :
    g.parse (depth + 1) min lx =
      match lx.advance with
      | (.error fault, lx) => some (.error fault, lx)
      | (.ok token, lx) =>
        match g.starter token with
        | none => some (.error (.noStarter token lx.currentOrEnd.literal lx.currentPlace), lx)
        | some strategy => andThen (g.act depth strategy [] lx) (g.climb depth min) := by
  rw [parse]
  rfl

theorem climb_succ (depth : Nat) (left : ε) (lx : Lexer τ) :
    g.climb (depth + 1) min left lx =
      match lx.peek with
      | (.error fault, lx) => some (.error fault, lx)
      | (.ok token, lx) =>
        if g.binds min token then
          match lx.advance with
          | (.error fault, lx) => some (.error fault, lx)
          | (.ok token, lx) =>
            match g.follower token with
            | none => some (.error (.noFollower token lx.currentOrEnd.literal lx.currentPlace), lx)
            | some strategy => andThen (g.act depth (strategy left) [] lx) (g.climb depth min)
        else some (.ok left, lx) := by
  rw [climb]
  rfl

/-- Whatever the three functions find at one depth they find one deeper, since all that they call
gets one more level of depth, too. -/
theorem refines_succ (depth : Nat) :
    (∀ min lx, Refines (g.parse depth min lx) (g.parse (depth + 1) min lx)) ∧
    (∀ min left lx, Refines (g.climb depth min left lx) (g.climb (depth + 1) min left lx)) ∧
    ∀ strategy heard lx,
      Refines (g.act depth strategy heard lx) (g.act (depth + 1) strategy heard lx) := by
  induction depth with
  | zero =>
    refine ⟨fun min lx ↦ ?parse, fun min left lx ↦ ?climb, fun strategy heard lx ↦ ?act⟩
    case parse =>
      rw [parse]
      exact refines_none _
    case climb =>
      rw [climb]
      exact refines_none _
    case act =>
      rw [act]
      exact refines_none _
  | succ depth ih =>
    obtain ⟨hparse, hclimb, hact⟩ := ih
    have hcontinue (strategy : Strategy τ π ε) (min : π) (lx : Lexer τ) :
        Refines (andThen (g.act depth strategy [] lx) (g.climb depth min))
          (andThen (g.act (depth + 1) strategy [] lx) (g.climb (depth + 1) min)) :=
      refines_andThen (hact strategy [] lx) (hclimb min)
    refine ⟨fun min lx ↦ ?parse, fun min left lx ↦ ?climb, fun strategy heard lx ↦ ?act⟩
    case parse =>
      rw [parse_succ, parse_succ]
      rcases lx.advance with ⟨fault | token, lx⟩
      · exact Refines.refl _
      · dsimp only
        cases g.starter token with
        | none => exact Refines.refl _
        | some strategy => exact hcontinue strategy min lx
    case climb =>
      rw [climb_succ, climb_succ]
      rcases lx.peek with ⟨fault | token, lx⟩
      · exact Refines.refl _
      · dsimp only
        split
        · rcases lx.advance with ⟨fault | token, lx⟩
          · exact Refines.refl _
          · dsimp only
            cases g.follower token with
            | none => exact Refines.refl _
            | some strategy => exact hcontinue (strategy left) min lx
        · exact Refines.refl _
    case act =>
      rw [act, act]
      cases strategy heard with
      | done result => exact Refines.refl _
      | ask request =>
        cases request with
        | parse level => exact (hparse level lx).bind fun parsed ↦ hact strategy _ parsed.2
        | call call => exact hact strategy _ (lx.call call).2

theorem steady_parse (lx : Lexer τ) : Steady fun depth ↦ g.parse depth min lx :=
  fun depth ↦ (g.refines_succ depth).1 min lx

theorem steady_climb (left : ε) (lx : Lexer τ) : Steady fun depth ↦ g.climb depth min left lx :=
  fun depth ↦ (g.refines_succ depth).2.1 min left lx

theorem steady_act (strategy : Strategy τ π ε) (heard : List (Answer τ ε)) (lx : Lexer τ) :
    Steady fun depth ↦ g.act depth strategy heard lx :=
  fun depth ↦ (g.refines_succ depth).2.2 strategy heard lx

/-- What parsing an expression finds at whichever depth it takes. -/
noncomputable def parseLimit (lx : Lexer τ) : Option (Parsed τ ε) :=
  limit fun depth ↦ g.parse depth min lx

/-- What continuing an expression finds at whichever depth it takes. -/
noncomputable def climbLimit (left : ε) (lx : Lexer τ) : Option (Parsed τ ε) :=
  limit fun depth ↦ g.climb depth min left lx

/-- What playing a strategy finds at whichever depth it takes. -/
noncomputable def actLimit (strategy : Strategy τ π ε) (heard : List (Answer τ ε))
    (lx : Lexer τ) : Option (Parsed τ ε) :=
  limit fun depth ↦ g.act depth strategy heard lx

theorem parseExpression_eq_some {lx : Lexer τ} {parsed : Parsed τ ε}
    (h : g.parseLimit min lx = some parsed) : g.parseExpression min lx = some parsed :=
  (g.steady_parse min lx).atSomeDepth_eq h

theorem parseExpression_of_parse {depth : Nat} {lx : Lexer τ} {parsed : Parsed τ ε}
    (h : g.parse depth min lx = some parsed) : g.parseExpression min lx = some parsed :=
  g.parseExpression_eq_some min ((g.steady_parse min lx).limit_eq_some_iff.2 ⟨depth, h⟩)

theorem parseLimit_eq (lx : Lexer τ) :
    g.parseLimit min lx = limit fun depth ↦ g.parse (depth + 1) min lx :=
  (g.steady_parse min lx).limit_succ.symm

theorem climbLimit_eq (left : ε) (lx : Lexer τ) :
    g.climbLimit min left lx = limit fun depth ↦ g.climb (depth + 1) min left lx :=
  (g.steady_climb min left lx).limit_succ.symm

theorem actLimit_eq (strategy : Strategy τ π ε) (heard : List (Answer τ ε)) (lx : Lexer τ) :
    g.actLimit strategy heard lx = limit fun depth ↦ g.act (depth + 1) strategy heard lx :=
  (g.steady_act strategy heard lx).limit_succ.symm

theorem limit_continue (strategy : Strategy τ π ε) (lx : Lexer τ) :
    (limit fun depth ↦ andThen (g.act depth strategy [] lx) (g.climb depth min)) =
      andThen (g.actLimit strategy [] lx) (g.climbLimit min) :=
  limit_andThen (g.steady_act strategy [] lx) fun left lx ↦ g.steady_climb min left lx

theorem parseLimit_of_error {lx next : Lexer τ} {fault : Fault τ}
    (h : lx.advance = (.error fault, next)) :
    g.parseLimit min lx = some (.error fault, next) := by
  rw [parseLimit_eq]
  simp only [parse_succ, h, limit_const]

theorem parseLimit_of_delivers {lx next : Lexer τ} {token : Token τ}
    (h : lx.Delivers token next) :
    g.parseLimit min lx =
      match g.starter token.kind with
      | none => some (.error (.noStarter token.kind token.literal next.currentPlace), next)
      | some strategy => andThen (g.actLimit strategy [] next) (g.climbLimit min) := by
  rw [parseLimit_eq]
  simp only [parse_succ, h.advance_eq, h.currentOrEnd_eq]
  cases g.starter token.kind with
  | none => exact limit_const _
  | some strategy => exact g.limit_continue min strategy next

theorem climbLimit_of_error {lx next : Lexer τ} {fault : Fault τ} (left : ε)
    (h : lx.advance = (.error fault, next)) :
    g.climbLimit min left lx = some (.error fault, next) := by
  rw [climbLimit_eq]
  simp only [climb_succ, Lexer.peek_of_advance_error h, limit_const]

/-- A token that does not bind is put back. -/
theorem climbLimit_of_delivers {lx next : Lexer τ} {token : Token τ} (left : ε)
    (h : lx.Delivers token next) :
    g.climbLimit min left lx =
      if g.binds min token.kind then
        match g.follower token.kind with
        | none => some (.error (.noFollower token.kind token.literal next.currentPlace), next)
        | some strategy => andThen (g.actLimit (strategy left) [] next) (g.climbLimit min)
      else some (.ok left, next.putBack) := by
  have hadvance : next.putBack.advance = (.ok token.kind, next) := by
    rw [h.advance_putBack, h.advance_eq]
  rw [climbLimit_eq]
  simp only [climb_succ, h.peek_eq, hadvance, h.currentOrEnd_eq]
  split
  · cases g.follower token.kind with
    | none => exact limit_const _
    | some strategy => exact g.limit_continue min (strategy left) next
  · exact limit_const _

theorem actLimit_of_done {strategy : Strategy τ π ε} {heard : List (Answer τ ε)}
    {result : Except (Fault τ) ε} (h : strategy heard = .done result) (lx : Lexer τ) :
    g.actLimit strategy heard lx = some (result, lx) := by
  rw [actLimit_eq]
  simp only [act, h, limit_const]

theorem actLimit_of_call {strategy : Strategy τ π ε} {heard : List (Answer τ ε)}
    {call : Lexer.Call τ} (h : strategy heard = .ask (.call call)) (lx : Lexer τ) :
    g.actLimit strategy heard lx =
      g.actLimit strategy (heard ++ [.reply (lx.call call).1]) (lx.call call).2 := by
  rw [actLimit_eq]
  simp only [act, h]
  rfl

theorem actLimit_of_request {strategy : Strategy τ π ε} {heard : List (Answer τ ε)} {level : π}
    (h : strategy heard = .ask (.parse level)) (lx : Lexer τ) :
    g.actLimit strategy heard lx =
      (g.parseLimit level lx).bind fun parsed ↦
        g.actLimit strategy (heard ++ [.parsed parsed.1]) parsed.2 := by
  have hrest (parsed : Parsed τ ε) :
      Steady fun depth ↦ g.act depth strategy (heard ++ [.parsed parsed.1]) parsed.2 :=
    g.steady_act strategy _ parsed.2
  have hsucc (depth : Nat) : g.act (depth + 1) strategy heard lx =
      (g.parse depth level lx).bind fun parsed ↦
        g.act depth strategy (heard ++ [.parsed parsed.1]) parsed.2 := by
    rw [act, h]
    rfl
  calc
    g.actLimit strategy heard lx = limit fun depth ↦ (g.parse depth level lx).bind fun parsed ↦
        g.act depth strategy (heard ++ [.parsed parsed.1]) parsed.2 := by
      rw [actLimit_eq]
      simp only [hsucc]
    _ = (g.parseLimit level lx).bind fun parsed ↦
        g.actLimit strategy (heard ++ [.parsed parsed.1]) parsed.2 :=
      (g.steady_parse level lx).limit_bind hrest

/-- A strategy that only passes a fault on is continued with the value that was parsed. -/
theorem actLimit_of_parse {strategy : Strategy τ π ε} {heard : List (Answer τ ε)} {level : π}
    (h : strategy heard = .ask (.parse level))
    (hfault : ∀ fault, strategy (heard ++ [.parsed (.error fault)]) = .done (.error fault))
    (lx : Lexer τ) :
    g.actLimit strategy heard lx =
      andThen (g.parseLimit level lx) fun value lx ↦
        g.actLimit strategy (heard ++ [.parsed (.ok value)]) lx := by
  rw [g.actLimit_of_request h, andThen]
  congr 1
  funext parsed
  rcases parsed with ⟨fault | value, lx⟩
  · exact actLimit_of_done g (hfault fault) lx
  · rfl

/-- Two strategies act alike if one does what the other does once it has heard some answers more. -/
theorem actLimit_shift (before : List (Answer τ ε)) {strategy strategy' : Strategy τ π ε}
    (h : ∀ heard, strategy (before ++ heard) = strategy' heard) (heard : List (Answer τ ε))
    (lx : Lexer τ) :
    g.actLimit strategy (before ++ heard) lx = g.actLimit strategy' heard lx := by
  suffices hact : ∀ depth heard lx,
      g.act depth strategy (before ++ heard) lx = g.act depth strategy' heard lx by
    simp only [actLimit, hact]
  intro depth
  induction depth with
  | zero =>
    intro heard lx
    rw [act, act]
  | succ depth ih =>
    intro heard lx
    rw [act, act, h]
    simp only [List.append_assoc, ih]

/-- Of the lexer, only what taking its next token gives is ever used. -/
theorem parse_congr {lx lx' : Lexer τ} (h : lx.advance = lx'.advance) (depth : Nat) :
    g.parse depth min lx = g.parse depth min lx' := by
  cases depth with
  | zero => rw [parse, parse]
  | succ depth => rw [parse_succ, parse_succ, h]

theorem climbLimit_congr {lx lx' : Lexer τ} (left : ε) (h : lx.advance = lx'.advance) :
    g.climbLimit min left lx = g.climbLimit min left lx' := by
  rcases hadvance : lx'.advance with ⟨fault | kind, next⟩
  · rw [climbLimit_of_error g min left hadvance, climbLimit_of_error g min left (h.trans hadvance)]
  · obtain ⟨token, -, hdelivers⟩ := Lexer.delivers_of_advance hadvance
    have hdelivers' : lx.Delivers token next := ⟨h.trans hdelivers.1, hdelivers.2, hdelivers.3⟩
    rw [climbLimit_of_delivers g min left hdelivers,
      climbLimit_of_delivers g min left hdelivers']

end OperatorGrammar.Grammar
