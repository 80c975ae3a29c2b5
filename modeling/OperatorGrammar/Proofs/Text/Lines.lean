import OperatorGrammar.Proofs.Text.Positions
import OperatorGrammar.Text.Lines

/-!
# Where lines start

The lines of a text with the offsets at which they start. Splitting a text finds these lines, and a
text that ends with a line feed is split on its own, whatever follows it.
-/

namespace OperatorGrammar.Lines

/-- A line without the carriage return in front of its line feed. -/
def chomp (line : List Char) : List Char := (dropReturn line.reverse).reverse

theorem chomp_cases (line : List Char) : chomp line = line ∨ line = chomp line ++ ['\r'] := by
  unfold chomp dropReturn
  split
  case h_1 rest hline =>
    apply Or.inr
    rw [← List.reverse_reverse line, hline, List.reverse_cons]
  case h_2 => exact .inl (List.reverse_reverse line)

/-- The lines of a text that starts at an offset, each with the offset at which it starts. -/
inductive Laid : Nat → List Char → List (Nat × List Char) → Prop where
  | nil (offset : Nat) : Laid offset [] []
  | last {offset : Nat} {line : List Char} : line ≠ [] → '\n' ∉ line →
      Laid offset line [(offset, line)]
  | cons {offset : Nat} {line rest : List Char} {lines : List (Nat × List Char)} : '\n' ∉ line →
      Laid (offset + width line + Char.utf8Size '\n') rest lines →
      Laid offset (line ++ '\n' :: rest) ((offset, chomp line) :: lines)

variable {line text : List Char}

theorem splitFrom_of_notMem (h : '\n' ∉ text) (line rest : List Char) :
    splitFrom line (text ++ rest) = splitFrom (text.reverse ++ line) rest := by
  induction text generalizing line with
  | nil => rfl
  | cons c text ih =>
    obtain ⟨hc, htext⟩ := List.ne_and_not_mem_of_not_mem_cons h
    rw [List.cons_append, splitFrom, if_neg hc.symm, ih htext, List.reverse_cons,
      List.append_assoc]
    rfl

theorem splitFrom_last (hne : line ≠ []) (h : '\n' ∉ line) : splitFrom [] line = [line] := by
  have hlast := splitFrom_of_notMem h [] []
  rw [List.append_nil, List.append_nil] at hlast
  rw [hlast, splitFrom, if_neg (by simpa using hne), List.reverse_reverse]

theorem splitFrom_line (h : '\n' ∉ line) (rest : List Char) :
    splitFrom [] (line ++ '\n' :: rest) = chomp line :: splitFrom [] rest := by
  rw [splitFrom_of_notMem h, List.append_nil, splitFrom, if_pos rfl]
  rfl

theorem Laid.map_snd {offset : Nat} {lines : List (Nat × List Char)} (h : Laid offset text lines) :
    lines.map Prod.snd = splitFrom [] text := by
  induction h with
  | nil offset => rfl
  | last hne hline => exact (splitFrom_last hne hline).symm
  | cons hline _ ih => rw [splitFrom_line hline, List.map_cons, ih]

/-- By induction on the length of the text: its first line is cut off. -/
theorem exists_laid (offset : Nat) (text : List Char) : ∃ lines, Laid offset text lines := by
  induction hlength : text.length using Nat.strongRecOn generalizing offset text with
  | ind length ih =>
    by_cases hmem : '\n' ∈ text
    · obtain ⟨line, rest, rfl, hline⟩ := List.eq_append_cons_of_mem hmem
      have hlt : rest.length < length := by
        rw [← hlength, List.length_append, List.length_cons]
        omega
      obtain ⟨lines, hlines⟩ := ih _ hlt (offset + width line + Char.utf8Size '\n') rest rfl
      exact ⟨_, .cons hline hlines⟩
    · by_cases hne : text = []
      · exact ⟨[], hne ▸ .nil offset⟩
      · exact ⟨_, .last hne hmem⟩

/-- Behind a line feed the lines start anew. -/
theorem splitFrom_append (line text rest : List Char) :
    splitFrom line (text ++ '\n' :: rest) =
      splitFrom line (text ++ ['\n']) ++ splitFrom [] rest := by
  induction text generalizing line with
  | nil => simp [splitFrom]
  | cons c text ih =>
    simp only [List.cons_append, splitFrom]
    split
    · rw [ih, List.cons_append]
    · exact ih _

/-- No line of the text goes on behind it. -/
def Closed (text : String) : Prop := text = "" ∨ ∃ front, text = front ++ "\n"

theorem split_append {text : String} (h : Closed text) (rest : String) :
    split (text ++ rest) = split text ++ split rest := by
  rcases h with rfl | ⟨front, rfl⟩
  · rw [String.empty_append]
    rfl
  · simp only [split, String.toList_append, List.append_assoc, ← List.map_append]
    exact congrArg _ (splitFrom_append [] front.toList rest.toList)

end OperatorGrammar.Lines
