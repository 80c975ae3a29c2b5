import OperatorGrammar.Parselet.Routine
import OperatorGrammar.Proofs.Parse.Termination

/-!
# Routines as programs

What a routine does to a lexer, told step by step: of two routines in a row, the second one goes on
from where the first one ends, and so does what is left of a loop after one round. A routine ends if
its steps do, and a loop if each of its rounds takes a match.
-/

namespace OperatorGrammar.Routine

variable {τ π ε α β σ : Type}

theorem bind_of_ok {r : Routine τ π ε α} {next : α → Routine τ π ε β} {heard rest : List (Answer τ ε)}
    {value : α} (h : r heard = .ok (value, rest)) : (r >>= next) heard = next value rest := by
  change (r heard >>= fun found ↦ next found.1 found.2) = next value rest
  rw [h]
  rfl

theorem bind_of_error {r : Routine τ π ε α} {next : α → Routine τ π ε β}
    {heard : List (Answer τ ε)} {move : Move τ π ε} (h : r heard = .error move) :
    (r >>= next) heard = .error move := by
  change (r heard >>= fun found ↦ next found.1 found.2) = .error move
  rw [h]
  rfl

/-! ## Answers -/

theorem kindOf_ofKind (result : Except (Fault τ) τ) :
    kindOf (.reply (.ofKind result) : Answer τ ε) = some result := by
  cases result <;> rfl

theorem tokenOf_ofToken (result : Except (Fault τ) (Token τ)) :
    tokenOf (.reply (.ofToken result) : Answer τ ε) = some (result.map some) := by
  cases result <;> rfl

/-! ## Loops -/

/-- A routine that hears at least `count` answers before it returns a value. -/
def Hears (count : Nat) (r : Routine τ π ε α) : Prop :=
  ∀ ⦃heard value rest⦄, r heard = .ok (value, rest) → rest.length + count ≤ heard.length

theorem hears_pure (value : α) : Hears 0 (pure value : Routine τ π ε α) := by
  rintro heard _ _ ⟨⟩
  exact Nat.le_refl _

theorem hears_fail (fault : Fault τ) : Hears 0 (fail fault : Routine τ π ε α) := nofun

theorem hears_propagate (result : Except (Fault τ) α) :
    Hears 0 (propagate result : Routine τ π ε α) := by
  cases result with
  | error fault => exact hears_fail fault
  | ok value => exact hears_pure value

theorem hears_ask (request : Request τ π) (accept : Answer τ ε → Option α) :
    Hears 1 (ask request accept) := by
  intro heard value rest h
  cases heard with
  | nil => cases h
  | cons answer heard =>
    rw [ask] at h
    split at h
    case h_1 =>
      cases h
      exact Nat.le_refl _
    case h_2 => cases h

theorem Hears.bind {r : Routine τ π ε α} {next : α → Routine τ π ε β} {count more : Nat}
    (h : Hears count r) (hnext : ∀ value, Hears more (next value)) :
    Hears (more + count) (r >>= next) := by
  intro heard result rest hresult
  rcases hfirst : r heard with move | ⟨value, mid⟩
  · cases (bind_of_error hfirst).symm.trans hresult
  · rw [bind_of_ok hfirst] at hresult
    calc
      rest.length + (more + count) = rest.length + more + count := (Nat.add_assoc ..).symm
      _ ≤ mid.length + count := Nat.add_le_add_right (hnext value hresult) count
      _ ≤ heard.length := h hfirst

theorem hears_operand (level : π) : Hears 1 (operand level : Routine τ π ε ε) :=
  (hears_ask ..).bind hears_propagate

theorem hears_advance : Hears 1 (advance : Routine τ π ε τ) :=
  (hears_ask ..).bind hears_propagate

theorem hears_peek : Hears 1 (peek : Routine τ π ε τ) :=
  (hears_ask ..).bind hears_propagate

theorem hears_expect (token : τ) : Hears 1 (expect token : Routine τ π ε Unit) :=
  (hears_ask ..).bind fun found ↦ (hears_propagate found).bind fun _ ↦ hears_pure ()

theorem Hears.mono {r : Routine τ π ε α} {count more : Nat} (h : Hears more r) (hle : count ≤ more) :
    Hears count r :=
  fun _ _ _ hresult ↦ (Nat.add_le_add_left hle _).trans (h hresult)

variable {step : σ → Routine τ π ε (σ ⊕ α)}

/-- As many rounds as answers suffice. -/
theorem iterate_congr (h : ∀ state, Hears 1 (step state)) {rounds rounds' : Nat} {state : σ}
    {heard : List (Answer τ ε)} (hrounds : heard.length < rounds) (hrounds' : heard.length < rounds') :
    iterate step rounds state heard = iterate step rounds' state heard := by
  induction rounds generalizing rounds' state heard with
  | zero => exact absurd hrounds (Nat.not_lt_zero _)
  | succ rounds ih =>
    cases rounds' with
    | zero => exact absurd hrounds' (Nat.not_lt_zero _)
    | succ rounds' =>
      rw [iterate, iterate]
      rcases hstep : step state heard with move | ⟨next | value, rest⟩
      · rw [bind_of_error hstep, bind_of_error hstep]
      · have hrest : rest.length + 1 ≤ heard.length := h state hstep
        rw [bind_of_ok hstep, bind_of_ok hstep]
        exact ih (by omega) (by omega)
      · rw [bind_of_ok hstep, bind_of_ok hstep]

/-- A loop is its first round and what is left of it. -/
theorem loop_eq (h : ∀ state, Hears 1 (step state)) (state : σ) :
    loop step state = step state >>= fun
      | .inl next => loop step next
      | .inr value => pure value := by
  funext heard
  rw [loop, iterate]
  rcases hstep : step state heard with move | ⟨next | value, rest⟩
  · rw [bind_of_error hstep, bind_of_error hstep]
  · have hrest : rest.length + 1 ≤ heard.length := h state hstep
    rw [bind_of_ok hstep, bind_of_ok hstep]
    exact iterate_congr h (by omega) (by omega)
  · rw [bind_of_ok hstep, bind_of_ok hstep]

/-! ## Ends -/

variable [DecidableEq τ] {g : Grammar τ π ε} {lx mid last : Lexer τ}

/-- From `lx` on, a routine ends with `result` and leaves `last`: whatever is to be done with its
value is done from there. -/
def RunsTo (g : Grammar τ π ε) (r : Routine τ π ε α) (lx : Lexer τ) (result : Except (Fault τ) α)
    (last : Lexer τ) : Prop :=
  ∀ next : α → Routine τ π ε ε, g.actLimit (r >>= next).toStrategy [] lx =
    match result with
    | .ok value => g.actLimit (next value).toStrategy [] last
    | .error fault => some (.error fault, last)

theorem runsTo_pure (value : α) (lx : Lexer τ) :
    RunsTo g (pure value : Routine τ π ε α) lx (.ok value) lx := by
  intro next
  rw [pure_bind]

theorem runsTo_fail (fault : Fault τ) (lx : Lexer τ) :
    RunsTo g (fail fault : Routine τ π ε α) lx (.error fault) lx :=
  fun _ ↦ g.actLimit_of_done rfl lx

theorem runsTo_propagate (result : Except (Fault τ) α) (lx : Lexer τ) :
    RunsTo g (propagate result : Routine τ π ε α) lx result lx := by
  cases result with
  | error fault => exact runsTo_fail fault lx
  | ok value => exact runsTo_pure value lx

theorem RunsTo.bind {r : Routine τ π ε α} {value : α} (h : RunsTo g r lx (.ok value) mid)
    {next : α → Routine τ π ε β} {result : Except (Fault τ) β}
    (hnext : RunsTo g (next value) mid result last) : RunsTo g (r >>= next) lx result last := by
  intro later
  rw [bind_assoc, h]
  exact hnext later

theorem RunsTo.bind_error {r : Routine τ π ε α} {fault : Fault τ}
    (h : RunsTo g r lx (.error fault) last) (next : α → Routine τ π ε β) :
    RunsTo g (r >>= next) lx (.error fault) last := by
  intro later
  rw [bind_assoc, h]

/-- A question ends with what its answer stands for. -/
theorem runsTo_ask {request : Request τ π} {accept : Answer τ ε → Option α} (answer : Answer τ ε)
    {value : α} (haccept : accept answer = some value)
    (hanswer : ∀ strategy : Strategy τ π ε, strategy [] = .ask request →
      g.actLimit strategy [] lx = g.actLimit strategy [answer] last) :
    RunsTo g (ask request accept) lx (.ok value) last := by
  intro next
  have hshift (heard : List (Answer τ ε)) :
      (ask request accept >>= next).toStrategy ([answer] ++ heard) =
        (next value).toStrategy heard := by
    have hask : ask request accept (answer :: heard) = .ok (value, heard) := by rw [ask, haccept]
    rw [List.singleton_append, toStrategy, bind_of_ok hask, toStrategy]
  calc
    g.actLimit (ask request accept >>= next).toStrategy [] lx =
        g.actLimit (ask request accept >>= next).toStrategy [answer] last := hanswer _ rfl
    _ = g.actLimit (next value).toStrategy [] last := g.actLimit_shift [answer] hshift [] last

theorem runsTo_call {call : Lexer.Call τ} {accept : Answer τ ε → Option α} {value : α}
    (h : accept (.reply (lx.call call).1) = some value) :
    RunsTo g (ask (.call call) accept) lx (.ok value) (lx.call call).2 :=
  runsTo_ask _ h fun _ hask ↦ g.actLimit_of_call hask lx

theorem runsTo_attempt {level : π} {result : Except (Fault τ) ε}
    (h : g.parseLimit level lx = some (result, last)) :
    RunsTo g (attempt level) lx (.ok result) last := by
  refine runsTo_ask (.parsed result) rfl fun strategy hask ↦ ?_
  rw [g.actLimit_of_request hask, h]
  rfl

theorem runsTo_operand {level : π} {result : Except (Fault τ) ε}
    (h : g.parseLimit level lx = some (result, last)) : RunsTo g (operand level) lx result last :=
  (runsTo_attempt h).bind (runsTo_propagate result last)

theorem runsTo_advance (lx : Lexer τ) :
    RunsTo g (advance : Routine τ π ε τ) lx lx.advance.1 lx.advance.2 :=
  (runsTo_call (kindOf_ofKind lx.advance.1)).bind (runsTo_propagate _ _)

theorem runsTo_peek (lx : Lexer τ) :
    RunsTo g (peek : Routine τ π ε τ) lx lx.peek.1 lx.peek.2 :=
  (runsTo_call (kindOf_ofKind lx.peek.1)).bind (runsTo_propagate _ _)

theorem runsTo_expect (lx : Lexer τ) (token : τ) :
    RunsTo g (expect token : Routine τ π ε Unit) lx ((lx.expect token).1.map fun _ ↦ ())
      (lx.expect token).2 := by
  refine (runsTo_call (tokenOf_ofToken (lx.expect token).1)).bind ?_
  rcases (lx.expect token).1 with fault | found
  · exact (runsTo_fail fault _).bind_error _
  · exact (runsTo_pure _ _).bind (runsTo_pure () _)

theorem runsTo_current (lx : Lexer τ) :
    RunsTo g (current : Routine τ π ε (Option (Token τ))) lx (.ok lx.current) lx := by
  have htoken : tokenOf (.reply (lx.call .current).1 : Answer τ ε) = some (.ok lx.current) := rfl
  exact (runsTo_call htoken).bind (runsTo_propagate _ _)

/-- From `lx` on, a routine ends, and its result and the lexer that it leaves are as said. -/
def Ends (g : Grammar τ π ε) (r : Routine τ π ε α) (lx : Lexer τ)
    (post : Except (Fault τ) α → Lexer τ → Prop) : Prop :=
  ∃ result last, RunsTo g r lx result last ∧ post result last

variable {post : Except (Fault τ) α → Lexer τ → Prop}
  {later : Except (Fault τ) β → Lexer τ → Prop}

theorem ends_pure {value : α} (h : post (.ok value) lx) : Ends g (pure value) lx post :=
  ⟨.ok value, lx, runsTo_pure value lx, h⟩

theorem ends_fail {fault : Fault τ} (h : post (.error fault) lx) : Ends g (fail fault) lx post :=
  ⟨.error fault, lx, runsTo_fail fault lx, h⟩

theorem Ends.mono {r : Routine τ π ε α} {weaker : Except (Fault τ) α → Lexer τ → Prop}
    (h : Ends g r lx post) (himp : ∀ result last, post result last → weaker result last) :
    Ends g r lx weaker := by
  obtain ⟨result, last, hruns, hpost⟩ := h
  exact ⟨result, last, hruns, himp result last hpost⟩

theorem Ends.bind {r : Routine τ π ε α} (h : Ends g r lx post) {next : α → Routine τ π ε β}
    (hok : ∀ value mid, post (.ok value) mid → Ends g (next value) mid later)
    (herror : ∀ fault last, post (.error fault) last → later (.error fault) last) :
    Ends g (r >>= next) lx later := by
  obtain ⟨fault | value, mid, hruns, hpost⟩ := h
  · exact ⟨.error fault, mid, hruns.bind_error next, herror fault mid hpost⟩
  · obtain ⟨result, last, hnext, hlater⟩ := hok value mid hpost
    exact ⟨result, last, hruns.bind hnext, hlater⟩

theorem Ends.actLimit {r : Routine τ π ε ε} {post : Except (Fault τ) ε → Lexer τ → Prop}
    (h : Ends g r lx post) :
    ∃ result last, g.actLimit r.toStrategy [] lx = some (result, last) ∧ post result last := by
  obtain ⟨result, last, hruns, hpost⟩ := h
  refine ⟨result, last, ?_, hpost⟩
  have hact := hruns pure
  rw [bind_pure] at hact
  rw [hact]
  cases result with
  | error fault => rfl
  | ok value => exact g.actLimit_of_done rfl last

/-! ## Routines that give no match back -/

variable {lexicon : Lexicon τ} {text : List Char} {bound : Nat}

/-- A routine that ends wherever there are at most so many matches left, and leaves no more. -/
def Halts (g : Grammar τ π ε) (lexicon : Lexicon τ) (text : List Char) (bound : Nat)
    (r : Routine τ π ε α) : Prop :=
  ∀ lx, lx.Within lexicon text bound → Ends g r lx fun _ last ↦ last.Within lexicon text bound

theorem halts_pure (value : α) : Halts g lexicon text bound (pure value : Routine τ π ε α) :=
  fun _ h ↦ ends_pure h

theorem halts_fail (fault : Fault τ) :
    Halts g lexicon text bound (fail fault : Routine τ π ε α) :=
  fun _ h ↦ ends_fail h

theorem Halts.bind {r : Routine τ π ε α} (h : Halts g lexicon text bound r)
    {next : α → Routine τ π ε β} (hnext : ∀ value, Halts g lexicon text bound (next value)) :
    Halts g lexicon text bound (r >>= next) :=
  fun lx hlx ↦ (h lx hlx).bind (fun value mid ↦ hnext value mid) fun _ _ hlast ↦ hlast

theorem halts_advance : Halts g lexicon text bound (advance : Routine τ π ε τ) :=
  fun lx h ↦ ⟨_, _, runsTo_advance lx, h.call .advance⟩

theorem halts_peek : Halts g lexicon text bound (peek : Routine τ π ε τ) :=
  fun lx h ↦ ⟨_, _, runsTo_peek lx, h.call .peek⟩

theorem halts_expect (token : τ) :
    Halts g lexicon text bound (expect token : Routine τ π ε Unit) :=
  fun lx h ↦ ⟨_, _, runsTo_expect lx token, h.call (.expect token)⟩

theorem halts_current :
    Halts g lexicon text bound (current : Routine τ π ε (Option (Token τ))) :=
  fun lx h ↦ ⟨_, _, runsTo_current lx, h⟩

/-- Every token besides the sentinel takes a match. -/
theorem ends_advance (h : lx.Within lexicon text bound) :
    Ends g (advance : Routine τ π ε τ) lx fun result last ↦ last.Within lexicon text bound ∧
      ∀ kind, result = .ok kind → kind ≠ lexicon.sentinel → last.matchesLeft < bound := by
  refine ⟨_, _, runsTo_advance lx, h.call .advance, fun kind hresult hkind ↦ ?_⟩
  have hadvance : lx.advance = (.ok kind, lx.advance.2) := Prod.ext hresult rfl
  obtain ⟨token, rfl, hdelivers⟩ := Lexer.delivers_of_advance hadvance
  exact h.matchesLeft_lt hdelivers hkind

section

variable (hidle : g.IsIdle lexicon.sentinel) (hparses : g.ParsesWithin lexicon text bound)

include hidle hparses

/-- An expression takes a match. -/
theorem ends_operand (level : π) (h : lx.Within lexicon text bound) :
    Ends g (operand level) lx fun result last ↦ last.Within lexicon text bound ∧
      ∀ value, result = .ok value → last.matchesLeft < bound := by
  obtain ⟨⟨result, last⟩, hlimit⟩ := hparses level lx h
  exact ⟨result, last, runsTo_operand hlimit, hidle.within_of_parseLimit h hlimit⟩

/-- What is done behind an expression does not give its match back. -/
theorem ends_operand_bind (level : π) {next : ε → Routine τ π ε β}
    (hnext : ∀ value left, Halts g lexicon text left (next value))
    (h : lx.Within lexicon text bound) :
    Ends g (operand level >>= next) lx fun result last ↦ last.Within lexicon text bound ∧
      ∀ value, result = .ok value → last.matchesLeft < bound := by
  refine (ends_operand hidle hparses level h).bind (fun value mid hmid ↦ ?_)
    fun fault last hlast ↦ ⟨hlast.1, nofun⟩
  have hlt := hmid.2 value rfl
  refine (hnext value _ mid hmid.1.invariant.within).mono fun result last hlast ↦ ?_
  exact ⟨hlast.mono hlt.le, fun _ _ ↦ hlast.matchesLeft_le.trans_lt hlt⟩

theorem halts_operand (level : π) : Halts g lexicon text bound (operand level) :=
  fun _ h ↦ (ends_operand hidle hparses level h).mono fun _ _ hlast ↦ hlast.1

theorem halts_attempt (level : π) : Halts g lexicon text bound (attempt level) := by
  intro lx h
  obtain ⟨⟨result, last⟩, hlimit⟩ := hparses level lx h
  exact ⟨.ok result, last, runsTo_attempt hlimit, (hidle.within_of_parseLimit h hlimit).1⟩

end

/-- A loop ends if each round but the last takes a match. -/
theorem halts_loop (hhears : ∀ state, Hears 1 (step state))
    (hround : ∀ left, left ≤ bound → ∀ state lx, lx.Within lexicon text left →
      Ends g (step state) lx fun result last ↦ last.Within lexicon text left ∧
        ∀ next, result = .ok (.inl next) → last.matchesLeft < left) (state : σ) :
    Halts g lexicon text bound (loop step state) := by
  -- what is left of the loop after one round starts with fewer matches
  induction bound using Nat.strong_induction_on generalizing state with
  | _ bound ih =>
    intro lx h
    rw [loop_eq hhears]
    refine (hround bound (Nat.le_refl _) state lx h).bind (fun round mid hmid ↦ ?_)
      fun fault last hlast ↦ hlast.1
    cases round with
    | inr value => exact ends_pure hmid.1
    | inl next =>
      have hlt := hmid.2 next rfl
      have hrest := ih _ hlt (fun left hle ↦ hround left (hle.trans hlt.le)) next mid
        hmid.1.invariant.within
      exact hrest.mono fun _ _ hlast ↦ hlast.mono hlt.le

end OperatorGrammar.Routine
