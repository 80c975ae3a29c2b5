import OperatorGrammar.Proofs.Parselet.Correspondence
import OperatorGrammar.Proofs.Parselet.Notated

/-!
# Strategies that make no faults but reports

The faults of tokens and of matches are made by lexers and parsers. A strategy may pass them on, in
a context or without one, and it may end with a report of its own.
-/

namespace OperatorGrammar

variable {τ π ε : Type}

/-- The fault that an answer tells of. -/
def Answer.fault? : Answer τ ε → Option (Fault τ)
  | .parsed (.error fault) => some fault
  | .reply (.fault fault) => some fault
  | .parsed (.ok _) | .reply (.kind _) | .reply (.token _) => none

/-- The strategy ends with a fault only if it has heard it or made it as a report, in whichever
contexts. -/
def Strategy.Honest (strategy : Strategy τ π ε) : Prop :=
  ∀ heard fault, strategy heard = .done (.error fault) →
    (∃ message, fault.root = .report message) ∨
      ∃ answer ∈ heard, ∃ cause ∈ answer.fault?, cause.root = fault.root

/-- Asks for one thing after the other and ends with what it hears last. -/
def Strategy.asking (requests : List (Request τ π)) : Strategy τ π ε := fun heard ↦
  match requests[heard.length]? with
  | some request => .ask request
  | none =>
    match heard.getLast? with
    | some (.parsed result) => .done result
    | some (.reply (.fault fault)) => .done (.error fault)
    | _ => .done (.error (.report "nothing was parsed"))

theorem Strategy.honest_asking (requests : List (Request τ π)) :
    (asking requests : Strategy τ π ε).Honest := by
  intro heard fault hdone
  unfold asking at hdone
  split at hdone
  case h_1 => cases hdone
  case h_2 =>
    split at hdone
    case h_1 result hlast =>
      obtain rfl : result = .error fault := Move.done.inj hdone
      exact .inr ⟨_, List.mem_of_getLast? hlast, fault, rfl, rfl⟩
    case h_2 own hlast =>
      obtain rfl : own = fault := Except.error.inj (Move.done.inj hdone)
      exact .inr ⟨_, List.mem_of_getLast? hlast, own, rfl, rfl⟩
    case h_3 =>
      obtain rfl := Except.error.inj (Move.done.inj hdone)
      exact .inl ⟨_, rfl⟩

structure Grammar.Honest (g : Grammar τ π ε) : Prop where
  starter : ∀ token strategy, g.starter token = some strategy → strategy.Honest
  follower : ∀ token strategy left, g.follower token = some strategy → (strategy left).Honest

/-- Faults count by their roots only, and reports count. -/
structure Fault.Closed (made : Fault τ → Prop) : Prop where
  report : ∀ fault message, fault.root = .report message → made fault
  root : ∀ fault cause, cause.root = fault.root → made cause → made fault

theorem Fault.closed_report_or (arises : Fault τ → Prop) :
    Fault.Closed fun fault ↦ (∃ message, fault.root = .report message) ∨ arises fault.root := by
  refine ⟨fun fault message hroot ↦ .inl ⟨message, hroot⟩, fun fault cause hroot hcause ↦ ?_⟩
  rwa [hroot] at hcause

theorem Strategy.Honest.made {strategy : Strategy τ π ε} (h : strategy.Honest)
    {made : Fault τ → Prop} (hmade : Fault.Closed made) {heard : List (Answer τ ε)}
    (hheard : ∀ answer ∈ heard, ∀ fault ∈ answer.fault?, made fault) {fault : Fault τ}
    (hdone : strategy heard = .done (.error fault)) : made fault := by
  rcases h heard fault hdone with ⟨message, hroot⟩ | ⟨answer, hanswer, cause, hcause, hroot⟩
  · exact hmade.report fault message hroot
  · exact hmade.root fault cause hroot (hheard answer hanswer cause hcause)

namespace Likeness

/-- Nothing may differ, and only some faults may occur. -/
def ofFaults (made : Fault τ → Prop) : Likeness τ π π where
  level := Eq
  fault fault fault' := fault = fault' ∧ made fault
  token := Eq

variable {made : Fault τ → Prop}

theorem plain_ofFaults (hmade : Fault.Closed made) : (ofFaults made : Likeness τ π π).Plain where
  kind_eq _ _ := congrArg Token.kind
  literal_eq _ _ := congrArg Token.literal
  report message := ⟨rfl, hmade.report _ message rfl⟩
  context _ fault _ h := ⟨congrArg _ h.1, hmade.root _ fault rfl h.2⟩

theorem answers_ofFaults {answer : Answer τ ε} (h : ∀ fault ∈ answer.fault?, made fault) :
    (ofFaults made : Likeness τ π π).Answers answer answer := by
  rcases answer with (fault | value) | (kind | token | fault)
  · exact .parsed (.error ⟨rfl, h fault rfl⟩)
  · exact .parsed (.ok rfl)
  · exact .reply (.kind kind)
  · cases token with
    | none => exact .reply (.token .none)
    | some token => exact .reply (.token (.some rfl))
  · exact .reply (.fault ⟨rfl, h fault rfl⟩)

theorem made_of_moves {fault : Fault τ} {move : Move τ π ε}
    (h : (ofFaults made : Likeness τ π π).Moves (.done (.error fault)) move) : made fault := by
  cases h with
  | done hresult =>
    cases hresult with
    | error hfault => exact hfault.2

end Likeness

/-- A strategy is honest if it corresponds to itself whichever faults may occur. -/
theorem Strategy.honest_of_strategies {strategy : Strategy τ π ε}
    (h : ∀ made : Fault τ → Prop, Fault.Closed made →
      (Likeness.ofFaults made).Strategies strategy strategy) : strategy.Honest := by
  intro heard fault hdone
  let made (fault : Fault τ) : Prop := (∃ message, fault.root = .report message) ∨
    ∃ answer ∈ heard, ∃ cause ∈ answer.fault?, cause.root = fault.root
  have hmade : Fault.Closed made :=
    Fault.closed_report_or fun root ↦ ∃ answer ∈ heard, ∃ cause ∈ answer.fault?, cause.root = root
  have hheard : List.Forall₂ (Likeness.ofFaults made : Likeness τ π π).Answers heard heard :=
    List.forall₂_same.2 fun answer hanswer ↦ Likeness.answers_ofFaults fun cause hcause ↦
      .inr ⟨answer, hanswer, cause, hcause, rfl⟩
  have hmoves := h made hmade hheard
  rw [hdone] at hmoves
  exact Likeness.made_of_moves hmoves

theorem Grammar.IsNotated.honest [DecidableEq τ] {g : Grammar τ π String} {naming : Naming τ}
    {sentinel : τ} (h : g.IsNotated naming sentinel) : g.Honest where
  starter token strategy hstarter := by
    obtain ⟨kind, rfl⟩ := h.starter token strategy hstarter
    exact Strategy.honest_of_strategies fun made hmade ↦
      Notated.strategies_starter (Likeness.plain_ofFaults hmade) (fun _ ↦ rfl) naming sentinel kind
  follower token strategy left hfollower := by
    obtain ⟨kind, rfl⟩ := h.follower token strategy hfollower
    exact Strategy.honest_of_strategies fun made hmade ↦
      Notated.strategies_follower (Likeness.plain_ofFaults hmade) (fun _ ↦ rfl) naming left kind

end OperatorGrammar
