/-!
# Sets of characters

A set is the ascending list of the code points at which membership flips, starting from "outside".
Every set operation is one sweep over two such lists.

The surrogate code points are no characters, but one range that runs across them is not the same as
two ranges that end and start beside them, and patterns that differ in this count as different. A
set therefore holds the surrogates if one of its ranges runs across them.
-/

namespace OperatorGrammar

structure CharSet where
  edges : List Nat
deriving DecidableEq, Repr

namespace CharSet

/-- Whether a code point is inside, when the walk along the edges starts with `inside`. -/
def insideFrom (inside : Bool) : List Nat → Nat → Bool
  | [], _ => inside
  | edge :: edges, point => if point < edge then inside else insideFrom (!inside) edges point

def contains (s : CharSet) (c : Char) : Bool := insideFrom false s.edges c.toNat

instance : Membership Char CharSet := ⟨fun s c ↦ s.contains c = true⟩

instance (c : Char) (s : CharSet) : Decidable (c ∈ s) :=
  inferInstanceAs (Decidable (s.contains c = true))

theorem mem_iff {s : CharSet} {c : Char} : c ∈ s ↔ s.contains c = true := Iff.rfl

def empty : CharSet := ⟨[]⟩

/-- Every character, in one range. -/
def all : CharSet := ⟨[0, 0x110000]⟩

/-- The surrogates. -/
def gap : CharSet := ⟨[0xD800, 0xE000]⟩

theorem not_mem_empty (c : Char) : ¬ c ∈ empty := by simp [mem_iff, contains, empty, insideFrom]

/-- Both lists are walked at once; `left` and `right` say whether the walk is inside either set, and
an edge is written where `keep` of the two changes. -/
def sweep (keep : Bool → Bool → Bool) (left right : Bool) : List Nat → List Nat → List Nat
  | [], [] => []
  | x :: xs, [] =>
    let rest := sweep keep (!left) right xs []
    if keep left right = keep (!left) right then rest else x :: rest
  | [], y :: ys =>
    let rest := sweep keep left (!right) [] ys
    if keep left right = keep left (!right) then rest else y :: rest
  | x :: xs, y :: ys =>
    if x < y then
      let rest := sweep keep (!left) right xs (y :: ys)
      if keep left right = keep (!left) right then rest else x :: rest
    else if y < x then
      let rest := sweep keep left (!right) (x :: xs) ys
      if keep left right = keep left (!right) then rest else y :: rest
    else
      let rest := sweep keep (!left) (!right) xs ys
      if keep left right = keep (!left) (!right) then rest else x :: rest
termination_by xs ys => xs.length + ys.length

def union (s t : CharSet) : CharSet := ⟨sweep (· || ·) false false s.edges t.edges⟩

def inter (s t : CharSet) : CharSet := ⟨sweep (· && ·) false false s.edges t.edges⟩

/-- Both characters beside the surrogates are members. -/
def spansGap (s : CharSet) : Bool :=
  insideFrom false s.edges 0xD7FF && insideFrom false s.edges 0xE000

def remove (s t : CharSet) : CharSet := ⟨sweep (fun a b ↦ a && !b) false false s.edges t.edges⟩

/-- A range that was cut beside the surrogates, or within them, no longer runs across them. -/
def trim (s : CharSet) : CharSet := if s.spansGap then s else s.remove gap

def diff (s t : CharSet) : CharSet := (s.remove t).trim

def symmDiff (s t : CharSet) : CharSet :=
  trim ⟨sweep (· ^^ ·) false false s.edges t.edges⟩

/-- The complement takes every gap between two ranges as a range from the character behind the one
to the character before the other. Between two ranges that meet at the surrogates these are in
descending order, and both become members. -/
def compl (s : CharSet) : CharSet :=
  if s.spansGap && !insideFrom false s.edges 0xD800 then (all.remove s).union ⟨[0xD7FF, 0xE001]⟩
  else all.diff s

instance : Union CharSet := ⟨union⟩

instance : Inter CharSet := ⟨inter⟩

instance : SDiff CharSet := ⟨diff⟩

def singleton (c : Char) : CharSet := ⟨[c.toNat, c.toNat + 1]⟩

/-- The characters from `first` to `last`, both included. -/
def range (first last : Char) : CharSet := ⟨[first.toNat, last.toNat + 1]⟩

def ofPoint (point : Nat) : CharSet := ⟨[point, point + 1]⟩

def ofPoints (points : List Nat) : CharSet := points.foldl (fun s p ↦ s ∪ ofPoint p) empty

/-- The maximal ranges of a set, each by its first and its last code point. -/
def ranges (s : CharSet) : List (Nat × Nat) := pairUp s.edges
where
  pairUp : List Nat → List (Nat × Nat)
    | first :: beyond :: rest => (first, beyond - 1) :: pairUp rest
    | _ => []

/-- The only member. -/
def single? (s : CharSet) : Option Char :=
  match s.edges with
  | [first, beyond] => if beyond = first + 1 then some (Char.ofNat first) else none
  | _ => none

/-- All members are ASCII characters. -/
def isAscii (s : CharSet) : Bool := s.edges.all (· ≤ 0x80)

theorem mem_singleton {c d : Char} : d ∈ singleton c ↔ d = c := by
  simp only [mem_iff, contains, singleton, insideFrom]
  constructor
  · intro h
    apply Char.toNat_inj.1
    split at h <;> try split at h
    all_goals simp at h
    omega
  · rintro rfl
    simp

end CharSet

end OperatorGrammar
