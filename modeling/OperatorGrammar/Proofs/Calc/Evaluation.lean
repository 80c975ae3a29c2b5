import OperatorGrammar.Calc.Command
import OperatorGrammar.Proofs.Calc.Lexicon
import OperatorGrammar.Proofs.Text.Lines

/-!
# Evaluating files line by line

Lines are evaluated one after the other, up to the first one without a value. Hence a file in two
parts, the first of which ends with its last line, comes to what its parts come to: the second part
counts for nothing if evaluating stops in the first one, and else only its line numbers change.
-/

namespace OperatorGrammar.Calc

/-- A line at which evaluating stops, below so many others. -/
structure Stop where
  above : Nat
  line : String
  fault : Fault Symbol

namespace Stop

def number (stop : Stop) : Nat := stop.above + 1

def complaint (stop : Stop) : String := Calc.complaint stop.number stop.line stop.fault

/-- The stop when there are more lines above. -/
def below (lines : Nat) (stop : Stop) : Stop := { stop with above := lines + stop.above }

end Stop

section

variable (calculator : Calculator) (name : String)

/-- The values of the lines that are not blank, in order. -/
def Valued (lines : List String) (values : List Int) : Prop :=
  (lines.filter fun line ↦ !CharSet.isBlankText line.toList).map (calculator.eval name) =
    values.map .ok

/-- All lines but the blank ones have values, or those above the line at which evaluating stops. -/
inductive Evaluates (lines : List String) : List Int → Option Stop → Prop where
  | all {values : List Int} : Valued calculator name lines values → Evaluates lines values none
  | upTo {values : List Int} {earlier later : List String} {line : String}
      {fault : Fault Symbol} : lines = earlier ++ line :: later →
      Valued calculator name earlier values → CharSet.isBlankText line.toList = false →
      calculator.eval name line = .error fault →
      Evaluates lines values (some ⟨earlier.length, line, fault⟩)

end

/-- What is printed for some values, and what is said of the line at which they end. -/
def outcome (values : List Int) (stop : Option Stop) : Outcome where
  printed := values.map toString
  complaint := stop.map Stop.complaint
  status := if stop.isSome then 65 else 0

variable {calculator : Calculator} {name : String} {lines earlier rest : List String}
  {values : List Int} {stop : Option Stop}

/-! ## One line -/

theorem evalLines_of_blank {line : String} (h : CharSet.isBlankText line.toList = true)
    (number : Nat) : evalLines calculator name number (line :: rest) =
      evalLines calculator name (number + 1) rest := by
  rw [evalLines, if_pos h]

theorem evalLines_of_ok {line : String} {value : Int}
    (h : CharSet.isBlankText line.toList = false) (hvalue : calculator.eval name line = .ok value)
    (number : Nat) : evalLines calculator name number (line :: rest) =
      (evalLines calculator name (number + 1) rest).print (toString value) := by
  rw [evalLines, if_neg (by simp [h]), hvalue]

theorem evalLines_of_error {line : String} {fault : Fault Symbol}
    (h : CharSet.isBlankText line.toList = false)
    (hfault : calculator.eval name line = .error fault) (number : Nat) :
    evalLines calculator name number (line :: rest) =
      .stop (complaint number line fault) := by
  rw [evalLines, if_neg (by simp [h]), hfault]

theorem valued_cons_of_blank {line : String} (h : CharSet.isBlankText line.toList = true) :
    Valued calculator name (line :: rest) values ↔ Valued calculator name rest values := by
  rw [Valued, Valued, List.filter_cons_of_neg (by simp [h])]

theorem valued_cons {line : String} (h : CharSet.isBlankText line.toList = false) :
    Valued calculator name (line :: rest) values ↔
      ∃ value later, values = value :: later ∧ calculator.eval name line = .ok value ∧
        Valued calculator name rest later := by
  rw [Valued, List.filter_cons_of_pos (by simp [h]), List.map_cons]
  constructor
  · intro hvalues
    obtain ⟨value, later, rfl, hvalue, hlater⟩ := List.map_eq_cons_iff.1 hvalues.symm
    exact ⟨value, later, rfl, hvalue.symm, hlater.symm⟩
  · rintro ⟨value, later, rfl, hvalue, hlater⟩
    rw [hvalue, List.map_cons]
    exact congrArg _ hlater

/-! ## All lines -/

namespace Outcome

/-- Prints lines in front of what there is. -/
def printAll (printed : List String) (outcome : Outcome) : Outcome :=
  { outcome with printed := printed ++ outcome.printed }

end Outcome

/-- Lines with values are passed, and what comes below them is numbered on. -/
theorem evalLines_append (h : Valued calculator name earlier values) (number : Nat)
    (rest : List String) : evalLines calculator name number (earlier ++ rest) =
      (evalLines calculator name (number + earlier.length) rest).printAll
        (values.map toString) := by
  induction earlier generalizing number values with
  | nil =>
    obtain rfl : values = [] := List.map_eq_nil_iff.1 h.symm
    rfl
  | cons line earlier ih =>
    have hnumber : number + (line :: earlier).length = number + 1 + earlier.length := by
      rw [List.length_cons, Nat.add_assoc, Nat.add_comm 1]
    rw [List.cons_append, hnumber]
    cases hblank : CharSet.isBlankText line.toList with
    | true => rw [evalLines_of_blank hblank, ih ((valued_cons_of_blank hblank).1 h)]
    | false =>
      obtain ⟨value, later, rfl, hvalue, hlater⟩ := (valued_cons hblank).1 h
      rw [evalLines_of_ok hblank hvalue, ih hlater]
      rfl

theorem exists_evaluates (calculator : Calculator) (name : String) (lines : List String) :
    ∃ values stop, Evaluates calculator name lines values stop := by
  induction lines with
  | nil => exact ⟨[], none, .all rfl⟩
  | cons line rest ih =>
    obtain ⟨values, stop, h⟩ := ih
    cases hblank : CharSet.isBlankText line.toList with
    | true =>
      have hvalued {lines : List String} {values : List Int}
          (h : Valued calculator name lines values) :
          Valued calculator name (line :: lines) values := (valued_cons_of_blank hblank).2 h
      cases h with
      | all h => exact ⟨_, _, .all (hvalued h)⟩
      | upTo hlines h hstop hfault =>
        exact ⟨_, _, .upTo (congrArg (line :: ·) hlines) (hvalued h) hstop hfault⟩
    | false =>
      cases heval : calculator.eval name line with
      | error fault => exact ⟨[], _, .upTo (List.nil_append (line :: rest)).symm rfl hblank heval⟩
      | ok value =>
        have hvalued {lines : List String} {values : List Int}
            (h : Valued calculator name lines values) :
            Valued calculator name (line :: lines) (value :: values) :=
          (valued_cons hblank).2 ⟨value, values, rfl, heval, h⟩
        cases h with
        | all h => exact ⟨_, _, .all (hvalued h)⟩
        | upTo hlines h hstop hfault =>
          exact ⟨_, _, .upTo (congrArg (line :: ·) hlines) (hvalued h) hstop hfault⟩

/-- The numbers of the lines go on from the lines above. -/
theorem Evaluates.evalLines_eq (h : Evaluates calculator name lines values stop) (above : Nat) :
    evalLines calculator name (above + 1) lines = outcome values (stop.map (·.below above)) := by
  cases h with
  | all h =>
    have hend := evalLines_append h (above + 1) []
    rw [List.append_nil] at hend
    rw [hend, evalLines]
    exact congrArg (Outcome.mk · none 0) (List.append_nil _)
  | @upTo earlier later line fault hlines h hblank hfault =>
    have hnumber : above + 1 + earlier.length = above + earlier.length + 1 := by omega
    rw [hlines, evalLines_append h, evalLines_of_error hblank hfault, hnumber]
    exact congrArg (Outcome.mk · _ 65) (List.append_nil _)

theorem Stop.below_zero (stop : Stop) : stop.below 0 = stop := by
  rw [Stop.below, Nat.zero_add]

theorem Evaluates.run_eq {text : String}
    (h : Evaluates calculator name (Lines.split text) values stop) :
    run calculator .eval name (some text) = outcome values stop := by
  have hlines := h.evalLines_eq 0
  rw [Option.map_congr fun stop _ ↦ stop.below_zero, Option.map_id'] at hlines
  exact hlines

theorem Evaluates.append_of_stop {stop : Stop}
    (h : Evaluates calculator name lines values (some stop)) (rest : List String) :
    Evaluates calculator name (lines ++ rest) values (some stop) := by
  cases h with
  | @upTo earlier later line fault hlines h hblank hfault =>
    have hall : lines ++ rest = earlier ++ line :: (later ++ rest) := by
      rw [hlines, List.append_assoc, List.cons_append]
    exact .upTo hall h hblank hfault

/-- A text ends with its last line, and another one follows. Evaluating both comes to what
evaluating the first one comes to, if that stops. Else the values of the second one are printed
behind those of the first, and the line at which the second one stops has all lines of the first
above it, blank ones too. Every text comes to the values of its lines up to the first one without a
value. -/
theorem eval_append :
    ∃ calculator, Calculator.make? = .ok calculator ∧ ∀ name : String,
      let eval (text : String) := run calculator .eval name (some text)
      (∀ text, ∃ values stop, Evaluates calculator name (Lines.split text) values stop ∧
        eval text = outcome values stop) ∧
      ∀ text rest, Lines.Closed text →
        ((eval text).status = 65 → eval (text ++ rest) = eval text) ∧
        ((eval text).status ≠ 65 → ∀ values stop,
          Evaluates calculator name (Lines.split rest) values stop →
            eval rest = outcome values stop ∧
            eval (text ++ rest) =
              (outcome values (stop.map (·.below (Lines.split text).length))).printAll
                (eval text).printed) := by
  refine ⟨_, make?_eq, fun name ↦ ?_⟩
  intro eval
  have hrun (text : String) : ∃ values stop,
      Evaluates ⟨lexicon, grammar⟩ name (Lines.split text) values stop ∧
        eval text = outcome values stop := by
    obtain ⟨values, stop, h⟩ := exists_evaluates ⟨lexicon, grammar⟩ name (Lines.split text)
    exact ⟨values, stop, h, h.run_eq⟩
  refine ⟨hrun, fun text rest hclosed ↦ ?_⟩
  have hlines := Lines.split_append hclosed rest
  obtain ⟨values, stop, h, heval⟩ := hrun text
  cases stop with
  | some stop =>
    refine ⟨fun _ ↦ ?_, fun hstatus ↦ absurd (congrArg Outcome.status heval) hstatus⟩
    have happend := h.append_of_stop (Lines.split rest)
    rw [← hlines] at happend
    exact happend.run_eq.trans heval.symm
  | none =>
    have hzero : (eval text).status = 0 := congrArg Outcome.status heval
    refine ⟨fun hstatus ↦ absurd (hzero.symm.trans hstatus) (by decide), ?_⟩
    intro _ later stop hlater
    refine ⟨hlater.run_eq, ?_⟩
    obtain ⟨hvalued⟩ := h
    calc
      eval (text ++ rest) = evalLines _ name 1 (Lines.split text ++ Lines.split rest) := by
        rw [← hlines]
        rfl
      _ = (evalLines _ name (1 + (Lines.split text).length) (Lines.split rest)).printAll
          (values.map toString) := evalLines_append hvalued 1 _
      _ = _ := by
        rw [Nat.add_comm, hlater.evalLines_eq, heval]
        rfl

/-- The line with a value ends with a carriage return and a line feed, and an empty line stands
between it and the line at which evaluating stops. -/
theorem eval_append_below_empty_line :
    ∃ calculator, Calculator.make? = .ok calculator ∧ Lines.Closed "1\r\n\n" ∧
      run calculator .eval "f" (some ("1\r\n\n" ++ "(")) =
        ⟨["1"], some "[line 3] Error: unexpected Eof in `(`", 65⟩ := by
  have hclosed : Lines.Closed "1\r\n\n" := .inr ⟨"1\r\n", rfl⟩
  have hparse (line : String) (depth : Nat) {parsed : Grammar.Parsed Symbol Int}
      (h : grammar.parse depth .lowest (Lexer.ofText lexicon (some "f") line) = some parsed) :=
    grammar.parseExpression_of_parse .lowest h
  have hone : (⟨lexicon, grammar⟩ : Calculator).eval "f" "1" = .ok 1 := by
    rw [Calculator.eval, hparse "1" 4 (by cbv)]
    cbv
  let fault : Fault Symbol := .noStarter .eof none ⟨"f", "(", 1, 0⟩
  have hopen : (⟨lexicon, grammar⟩ : Calculator).eval "f" "(" = .error fault := by
    rw [Calculator.eval, hparse "(" 5 (by cbv)]
  have htext : Evaluates ⟨lexicon, grammar⟩ "f" (Lines.split "1\r\n\n") [1] none := by
    rw [show Lines.split "1\r\n\n" = ["1", ""] by cbv]
    exact .all (congrArg (fun value ↦ [value]) hone)
  have hrest : Evaluates ⟨lexicon, grammar⟩ "f" (Lines.split "(") [] (some ⟨0, "(", fault⟩) := by
    rw [show Lines.split "(" = ["("] by cbv]
    exact .upTo (List.nil_append ["("]).symm rfl (by decide) hopen
  obtain ⟨calculator, hmake, h⟩ := eval_append
  obtain rfl := Except.ok.inj (make?_eq.symm.trans hmake)
  have hstatus : (run ⟨lexicon, grammar⟩ .eval "f" (some "1\r\n\n")).status ≠ 65 := by
    rw [htext.run_eq]
    decide
  obtain ⟨-, happend⟩ := ((h "f").2 _ "(" hclosed).2 hstatus _ _ hrest
  refine ⟨_, hmake, hclosed, happend.trans ?_⟩
  dsimp only
  rw [htext.run_eq]
  cbv

end OperatorGrammar.Calc
