import OperatorGrammar.CharSet.Basic

/-!
# Sets in UTF-8

The UTF-8 forms of a set's members, as a list of sequences of byte ranges: a form belongs to a
sequence if its bytes lie in the ranges of the sequence one by one.
-/

namespace OperatorGrammar.CharSet

/-- Where a range of code points has to be cut: after the code point returned. No part may run
across the surrogates, hold forms of different length, or end in the middle of a run of trailing
bytes. -/
def cut? (first last : Nat) : Option Nat :=
  if first < 0xE000 ∧ 0xD7FF < last then some 0xD7FF
  else
    match [0x7F, 0x7FF, 0xFFFF].find? fun bound ↦ first ≤ bound ∧ bound < last with
    | some bound => some bound
    | none => if last < 0x80 then none else [64, 4096, 262144].findSome? trailing?
where
  /-- The cut at the first or last full run of `size` code points. -/
  trailing? (size : Nat) : Option Nat :=
    if first / size = last / size then none
    else if first % size ≠ 0 then some (first + (size - 1 - first % size))
    else if last % size ≠ size - 1 then some (last - last % size - 1)
    else none

/-- The part of a range behind the surrogates, if it was cut there. -/
def beyondCut (bound : Nat) : Nat := if bound = 0xD7FF then 0xE000 else bound + 1

/-- Cuts a range into parts with ranges of bytes. A range is cut once at the surrogates, at three
lengths, and twice at each of three trailing bytes at most, so that no part is cut out of more than
ten larger ones. -/
def pieces : Nat → Nat → Nat → List (Nat × Nat)
  | 0, first, last => [(first, last)]
  | fuel + 1, first, last =>
    match cut? first last with
    | none => [(first, last)]
    | some bound => pieces fuel first bound ++ pieces fuel (beyondCut bound) last

/-- The bytes of a code point. -/
def encode (point : Nat) : List UInt8 := String.utf8EncodeChar (Char.ofNat point)

/-- The forms of all members, in ascending order. -/
def byteRanges (s : CharSet) : List (List (UInt8 × UInt8)) :=
  s.ranges.flatMap fun (first, last) ↦
    (pieces 10 first last).map fun (first, last) ↦ (encode first).zip (encode last)

end OperatorGrammar.CharSet
