import OperatorGrammar.Pattern.Escape

/-!
# Sets in brackets

Reads a set in brackets: a union of characters, ranges, escapes, named ASCII sets and sets in
brackets of their own, with intersection, difference and symmetric difference between unions. The
operators bind alike and to the left.
-/

namespace OperatorGrammar.Pattern

/-- A set with how deep its brackets and operators are nested. -/
structure NestedSet where
  chars : CharSet
  depth : Nat

namespace Bracket

/-- An open bracket: the union read so far, of `count` items, and the operation that waits for it as
its right side. -/
structure Frame where
  negated : Bool
  chars : CharSet
  count : Nat
  depth : Nat
  waiting : Option ((CharSet → CharSet → CharSet) × NestedSet)

namespace Frame

def add (frame : Frame) (item : NestedSet) : Frame :=
  { frame with
    chars := frame.chars ∪ item.chars
    count := frame.count + 1
    depth := max frame.depth item.depth }

/-- The waiting operation applied to the union, or the union itself. -/
def value (flags : Flags) (frame : Frame) : NestedSet :=
  let right : NestedSet := ⟨frame.chars, if frame.count ≤ 1 then frame.depth else frame.depth + 1⟩
  match frame.waiting with
  | none => right
  | some (operation, left) =>
    ⟨operation (flags.fold left.chars) (flags.fold right.chars), 1 + max left.depth right.depth⟩

def operate (flags : Flags) (operation : CharSet → CharSet → CharSet) (frame : Frame) : Frame :=
  { negated := frame.negated
    chars := CharSet.empty
    count := 0
    depth := 0
    waiting := some (operation, frame.value flags) }

def close? (flags : Flags) (frame : Frame) : Option NestedSet :=
  let value := frame.value flags
  (flags.negate? frame.negated (flags.fold value.chars)).map (⟨·, value.depth + 1⟩)

end Frame

/-- Outside of Unicode a set holds ASCII characters only. -/
def literal? (flags : Flags) (c : Char) : Option CharSet :=
  if flags.unicode ∨ c.toNat < 0x80 then some (CharSet.singleton c) else none

def leadingMinuses (flags : Flags) : Nat → Frame → List Char → Frame × List Char
  | fuel + 1, frame, '-' :: rest =>
    leadingMinuses flags fuel (frame.add ⟨CharSet.singleton '-', 0⟩) (flags.skip rest)
  | _, frame, text => (frame, text)

/-- What may follow an opening bracket: the sign of a complement, minuses that stand for themselves,
or a closing bracket that does. -/
def openFrame? (flags : Flags) (text : List Char) : Option (Frame × List Char) :=
  let (negated, text) := match flags.skip text with
    | '^' :: rest => (true, flags.skip rest)
    | text => (false, text)
  match leadingMinuses flags text.length ⟨negated, CharSet.empty, 0, 0, none⟩ text with
  | (_, []) => none
  | (frame, ']' :: rest) =>
    if frame.count = 0 then
      match flags.skip rest with
      | [] => none
      | rest => some (frame.add ⟨CharSet.singleton ']', 0⟩, rest)
    else some (frame, ']' :: rest)
  | (frame, text) => some (frame, text)

/-- The name of an ASCII set between colons, with whether the complement is meant. -/
def named? (text : List Char) : Option (Bool × CharSet × List Char) :=
  match text with
  | ':' :: text =>
    let (negated, text) := match text with
      | '^' :: rest => (true, rest)
      | text => (false, text)
    match text.dropWhile (· ≠ ':') with
    | ':' :: ']' :: rest =>
      (CharSet.Ascii.ofName? (String.ofList (text.takeWhile (· ≠ ':')))).map (negated, ·, rest)
    | _ => none
  | _ => none

/-- A character or an escape that stands for a character or a set. -/
def readItem (properties : Properties) (flags : Flags) : List Char → Option (Escape × List Char)
  | [] => none
  | '\\' :: rest => Escape.read properties flags rest
  | c :: rest => some (.char c, rest)

def single? (flags : Flags) : Escape → Option CharSet
  | .char c => literal? flags c
  | .set chars => some chars
  | .look _ => none

/-- Both ends of a range are characters in ascending order. -/
def range? (flags : Flags) : Escape → Escape → Option CharSet
  | .char first, .char last =>
    (literal? flags first).bind fun _ ↦
      (literal? flags last).bind fun _ ↦
        if first ≤ last then some (CharSet.range first last) else none
  | _, _ => none

/-- An item, or a range if a minus follows that is neither the last character of the bracket nor
part of an operator. -/
def readRange (properties : Properties) (flags : Flags) (text : List Char) :
    Option (CharSet × List Char) :=
  (readItem properties flags text).bind fun (first, rest) ↦
    match flags.skip rest with
    | [] => none
    | '-' :: rest =>
      if flags.peek? rest = some ']' ∨ flags.peek? rest = some '-' then
        (single? flags first).map (·, '-' :: rest)
      else
        (readItem properties flags (flags.skip rest)).bind fun (last, rest) ↦
          (range? flags first last).map (·, rest)
    | rest => (single? flags first).map (·, rest)

/-- Reads up to the bracket that closes the outermost frame. -/
def readFrames (properties : Properties) (flags : Flags) : Nat → Frame → List Frame → List Char →
    Option (NestedSet × List Char)
  | 0, _, _, _ => none
  | fuel + 1, frame, outer, text =>
    match flags.skip text with
    | [] => none
    | '[' :: rest =>
      match named? rest with
      | some (negated, chars, rest) =>
        (flags.negate? negated (flags.fold chars)).bind fun chars ↦
          readFrames properties flags fuel (frame.add ⟨chars, 0⟩) outer rest
      | none =>
        (openFrame? flags rest).bind fun (inner, rest) ↦
          readFrames properties flags fuel inner (frame :: outer) rest
    | ']' :: rest =>
      (frame.close? flags).bind fun value ↦
        match outer with
        | [] => some (value, rest)
        | frame :: outer => readFrames properties flags fuel (frame.add value) outer rest
    | '&' :: '&' :: rest =>
      readFrames properties flags fuel (frame.operate flags (· ∩ ·)) outer rest
    | '-' :: '-' :: rest =>
      readFrames properties flags fuel (frame.operate flags (· \ ·)) outer rest
    | '~' :: '~' :: rest =>
      readFrames properties flags fuel (frame.operate flags CharSet.symmDiff) outer rest
    | text =>
      (readRange properties flags text).bind fun (chars, rest) ↦
        readFrames properties flags fuel (frame.add ⟨chars, 0⟩) outer rest

/-- Reads what follows an opening bracket. -/
def read (properties : Properties) (flags : Flags) (text : List Char) :
    Option (NestedSet × List Char) :=
  (openFrame? flags text).bind fun (frame, rest) ↦
    readFrames properties flags (rest.length + 1) frame [] rest

end Bracket

end OperatorGrammar.Pattern
