import OperatorGrammar.Pattern.Basic
import Std.Data.TreeSet

/-!
# Matching a pattern at a position

Among all matches that start at a position one is preferred: at every choice what comes from the
first branch is preferred to what comes from the second, and a loop is a choice between another
round and going on. The search tries the choices in that order and goes back when the rest of the
pattern fails. A choice that was met at an offset before is not tried there again: it failed, or it
is being tried and a loop has come back to it without taking a character.
-/

namespace OperatorGrammar

/-- The part of the text that a group matched, by its two ends. -/
structure Extent where
  first : Cursor
  last : Cursor

namespace Extent

def text (extent : Extent) : List Char := extent.first.upTo extent.last

end Extent

/-- What the groups matched last, the latest first. -/
abbrev Groups := List (Nat × Extent)

/-- Orders pairs of a choice and an offset by the offset first. -/
def visitOrder (a b : Nat × Nat) : Ordering := (compare a.2 b.2).then (compare a.1 b.1)

instance : Std.TransCmp visitOrder :=
  inferInstanceAs (Std.TransCmp (compareLex (compareOn Prod.snd) (compareOn Prod.fst)))

instance : Std.LawfulEqCmp visitOrder where
  eq_of_compare {a b} h := by
    simp only [visitOrder, Ordering.then_eq_eq, Nat.compare_eq_eq] at h
    exact Prod.ext h.2 h.1

/-- Choices, each with the offset at which it was met. -/
abbrev Visited := Std.TreeSet (Nat × Nat) visitOrder

/-- A failed attempt tells which choices it met. -/
inductive Attempt where
  | matched (last : Cursor) (groups : Groups)
  | failed (visited : Visited)

/-- The rest of a search after a part of the pattern has matched. -/
abbrev Continue := Cursor → Groups → Visited → Attempt

/-- A search for a part of the pattern, before the rest. -/
abbrev Step := Cursor → Groups → Continue → Visited → Attempt

namespace Attempt

/-- The second attempt is made if the first one fails. -/
def orElse (first : Attempt) (second : Visited → Attempt) : Attempt :=
  match first with
  | matched last groups => matched last groups
  | failed visited => second visited

end Attempt

namespace Pattern

/-- At least the number of choices in a pattern. They are numbered from left to right; each copy of
the body of a repetition has its own numbers, behind the one of the choice in front of the copy. -/
def choices : Pattern → Nat
  | empty => 0
  | literal _ => 0
  | set _ _ => 0
  | look _ => 0
  | group _ body => body.choices
  | rep _ least most body => (body.choices + 1) * (max least (most.getD 1) + 1)
  | cat first second => first.choices + second.choices
  | alt first second => 1 + first.choices + second.choices

/-- Meets the choice `number` at a position: fails if it was met there before. -/
def meet (number : Nat) (cur : Cursor) (visited : Visited) (go : Visited → Attempt) : Attempt :=
  if visited.contains (number, cur.offset) then .failed visited
  else go (visited.insert (number, cur.offset))

/-- The choice between another round and going on. -/
def turn (number : Nat) (greedy : Bool) (round : Step) (next again : Continue) : Continue :=
  fun cur groups visited ↦
    meet number cur visited fun visited ↦
      if greedy then (round cur groups again visited).orElse (next cur groups)
      else (next cur groups visited).orElse (round cur groups again)

/-- A loop that stands at its choice. It meets the choice at most once at every position, so that
there are no more rounds than characters left. -/
def loop (number : Nat) (greedy : Bool) (round : Step) (next : Continue) : List Char → Continue
  | [] => turn number greedy round next fun _ _ visited ↦ .failed visited
  | _ :: left => turn number greedy round next (loop number greedy round next left)

/-- So many rounds from the round `first` on. -/
def times (round : Nat → Step) (next : Continue) : Nat → Nat → Continue
  | _, 0 => next
  | first, count + 1 => fun cur groups visited ↦
    round first cur groups (times round next (first + 1) count) visited

/-- At most so many rounds from the round `first` on. -/
def upTo (number : Nat → Nat) (greedy : Bool) (round : Nat → Step) (next : Continue) :
    Nat → Nat → Continue
  | _, 0 => next
  | first, count + 1 =>
    turn (number first) greedy (round first) next (upTo number greedy round next (first + 1) count)

/-- Matches a pattern whose choices are numbered from `number` on, and then what comes after it. A
loop whose body may take nothing runs it once, and the choice to do so stands before the loop. -/
def run : Pattern → Nat → Step
  | empty, _, cur, groups, next, visited => next cur groups visited
  | literal chars, _, cur, groups, next, visited =>
    match cur.skip? chars with
    | none => .failed visited
    | some beyond => next beyond groups visited
  | set _ chars, _, cur, groups, next, visited =>
    match cur.advance? with
    | none => .failed visited
    | some (c, beyond) =>
      if chars.contains c then next beyond groups visited else .failed visited
  | look assertion, _, cur, groups, next, visited =>
    if assertion.holds cur then next cur groups visited else .failed visited
  | group index body, number, cur, groups, next, visited =>
    run body number cur groups (fun last groups visited ↦
      next last ((index, ⟨cur, last⟩) :: groups) visited) visited
  | rep greedy least most body, number, cur, groups, next, visited =>
    let copy (round : Nat) := number + round * (body.choices + 1)
    let round (round : Nat) : Step := run body (copy round + 1)
    match most with
    | some most =>
      times round (upTo copy greedy round next least (most - least)) 0 least cur groups visited
    | none =>
      let last := least - 1
      let going : Continue := fun cur groups visited ↦
        loop (copy last) greedy (round last) next cur.after cur groups visited
      if 0 < least then times round going 0 least cur groups visited
      else if body.consumes then going cur groups visited
      else turn (copy 1) greedy (round 0) next going cur groups visited
  | cat first second, number, cur, groups, next, visited =>
    run first number cur groups (fun cur groups visited ↦
      run second (number + first.choices) cur groups next visited) visited
  | alt first second, number, cur, groups, next, visited =>
    meet number cur visited fun visited ↦
      (run first (number + 1) cur groups next visited).orElse
        (run second (number + 1 + first.choices) cur groups next)

end Pattern

/-- A match: its extent and what the groups took part with. -/
structure Match where
  extent : Extent
  groups : Groups

namespace Match

def group? (found : Match) (index : Nat) : Option Extent := found.groups.lookup index

end Match

namespace Pattern

/-- The preferred match that starts at the cursor. -/
def matchAt? (p : Pattern) (cur : Cursor) : Option Match :=
  match p.run 0 cur [] (fun last groups _ ↦ .matched last groups) ∅ with
  | .matched last groups => some ⟨⟨cur, last⟩, groups⟩
  | .failed _ => none

/-- The match that starts first at or after a position, of which `rest` is what follows. -/
def searchFrom (p : Pattern) (before : List Char) (offset : Nat) (h : offset = width before) :
    List Char → Option Match
  | [] => p.matchAt? ⟨before, [], offset, h⟩
  | c :: rest =>
    match p.matchAt? ⟨before, c :: rest, offset, h⟩ with
    | some found => some found
    | none => searchFrom p (c :: before) (c.utf8Size + offset) (add_eq_width_cons c h) rest

def search? (p : Pattern) (cur : Cursor) : Option Match :=
  p.searchFrom cur.before cur.offset cur.offset_eq cur.after

theorem search?_eq (p : Pattern) (cur : Cursor) :
    p.search? cur = (p.matchAt? cur).or (cur.advance?.bind fun next ↦ p.search? next.2) := by
  obtain ⟨before, after, offset, h⟩ := cur
  cases after with
  | nil => simp [search?, searchFrom, Cursor.advance?]
  | cons c rest =>
    simp only [search?, searchFrom, Cursor.advance?, Cursor.step, Option.bind_some]
    cases p.matchAt? ⟨before, c :: rest, offset, h⟩ <;> simp

end Pattern

end OperatorGrammar
