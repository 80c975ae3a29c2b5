import OperatorGrammar.CharSet.Name
import OperatorGrammar.Pattern.Bracket
import OperatorGrammar.Pattern.Footprint

/-!
# Reading a pattern

Turns the text of a regular expression into a pattern, or refuses it. The text is read item by item;
open groups wait on a stack with the branches and items read so far, and a repetition takes the item
read last. Flags hold from where they are set to the end of the group around them.
-/

namespace OperatorGrammar.Pattern

/-- Groups, repetitions, brackets and lists may be nested this deep. -/
def maxDepth : Nat := 250

namespace Reader

/-- A part of the text that was read. Flag settings are items too, but cannot be repeated. -/
structure Item where
  pattern : Pattern
  depth : Nat
  repeatable : Bool

def Item.plain (p : Pattern) : Item := ⟨p, 0, true⟩

def Item.setting : Item := ⟨empty, 0, false⟩

/-- An open group, or the whole text: its branches and the items of the current branch, the latest
first, and the flags to return to behind it. -/
structure Frame where
  index : Option Nat
  flags : Flags
  branches : List Item
  items : List Item

def Frame.push (frame : Frame) (item : Item) : Frame := { frame with items := item :: frame.items }

/-- Joins items in reverse order of reading; a single one stays as it is. -/
def join (combine : List Pattern → Pattern) (items : List Item) : Item :=
  match items with
  | [item] => { item with repeatable := true }
  | items =>
    { pattern := combine (items.reverse.map Item.pattern)
      depth := (items.map Item.depth).foldl max 0 + 1
      repeatable := true }

def Frame.branch (frame : Frame) : Item :=
  if frame.items.isEmpty then Item.plain empty else join concat frame.items

def Frame.nextBranch (frame : Frame) : Frame :=
  { frame with branches := frame.branch :: frame.branches, items := [] }

def Frame.body (frame : Frame) : Item := join choice (frame.branch :: frame.branches)

/-- What a group stands for when it is closed. -/
def Frame.close (frame : Frame) : Item :=
  let body := frame.body
  { pattern := match frame.index with
      | some index => group index body.pattern
      | none => body.pattern
    depth := body.depth + 1
    repeatable := true }

/-- The state of reading: the flags in force, the innermost open group and those around it, and the
numbers and names that groups have taken. -/
structure State where
  flags : Flags
  frame : Frame
  outer : List Frame
  groups : Nat
  names : List (List Char)

def State.push (st : State) (item : Item) : State := { st with frame := st.frame.push item }

def State.openGroup (st : State) (index : Option Nat) (flags : Flags) : State :=
  { st with
    flags := flags
    frame := ⟨index, st.flags, [], []⟩
    outer := st.frame :: st.outer }

def State.openCapture (st : State) : State :=
  { st.openGroup (some (st.groups + 1)) st.flags with groups := st.groups + 1 }

/-- A name starts with a letter or an underscore and goes on with letters, numbers, underscores,
dots and brackets. -/
def isNameChar (isFirst : Bool) (c : Char) : Bool :=
  c == '_' ||
    if isFirst then CharSet.nameLetter.contains c
    else c == '.' || c == '[' || c == ']' || CharSet.nameLetterOrNumber.contains c

def isName : List Char → Bool
  | [] => false
  | c :: rest => isNameChar true c && rest.all (isNameChar false)

/-- A named group; no two groups have the same name. -/
def State.openNamed (st : State) (text : List Char) : Option (State × List Char) :=
  let name := text.takeWhile (· ≠ '>')
  match text.dropWhile (· ≠ '>') with
  | _ :: rest =>
    if isName name ∧ name ∉ st.names then
      some ({ st.openCapture with names := name :: st.names }, rest)
    else none
  | [] => none

/-- Reads what follows an opening parenthesis. There is no look-around. -/
def State.openParen (st : State) (text : List Char) : Option (State × List Char) :=
  match st.flags.skip text with
  | '?' :: '=' :: _ => none
  | '?' :: '!' :: _ => none
  | '?' :: '<' :: '=' :: _ => none
  | '?' :: '<' :: '!' :: _ => none
  | '?' :: 'P' :: '<' :: rest => st.openNamed rest
  | '?' :: '<' :: rest => st.openNamed rest
  | '?' :: rest =>
    match st.flags.readLetters [] true rest with
    | none => none
    | some (flags, _, ':', rest) => some (st.openGroup none flags, rest)
    | some (flags, letters, _, rest) =>
      if letters.isEmpty then none else some ({ st with flags := flags }.push .setting, rest)
  | text => some (st.openCapture, text)

def State.closeParen (st : State) : Option State :=
  match st.outer with
  | [] => none
  | frame :: outer =>
    some { st with
      flags := st.frame.flags
      frame := frame.push st.frame.close
      outer := outer }

/-- Repeats the last item. -/
def State.repeatLast (st : State) (greedy : Bool) (least : Nat) (most : Option Nat) :
    Option State :=
  match st.frame.items with
  | [] => none
  | item :: items =>
    if item.repeatable then
      let repeated : Item :=
        { pattern := repeated (greedy != st.flags.swapGreed) least most item.pattern
          depth := item.depth + 1
          repeatable := true }
      some { st with frame := { st.frame with items := repeated :: items } }
    else none

/-- A question mark behind a repetition makes it lazy. -/
def readGreed : List Char → Bool × List Char
  | '?' :: rest => (false, rest)
  | text => (true, text)

/-- The bounds of a counted repetition, behind the opening brace. -/
def readBounds (flags : Flags) (text : List Char) : Option (Nat × Option Nat × List Char) :=
  match readDecimal flags (flags.skip text) with
  | some (least, ',' :: rest) =>
    match flags.skip rest with
    | '\x7d' :: rest => some (least, none, rest)
    | rest =>
      match readDecimal flags rest with
      | some (most, '\x7d' :: rest) =>
        if least ≤ most then some (least, some most, rest) else none
      | _ => none
  | some (count, '\x7d' :: rest) => some (count, some count, rest)
  | _ => none

def Item.ofEscape? (flags : Flags) : Escape → Option Item
  | .char c => (flags.literal? c).map .plain
  | .set chars => some (.plain (ofSet flags.alphabet chars))
  | .look assertion => some (.plain (look assertion))

/-- Reads the item that starts with `c`. -/
def State.step (properties : Properties) (st : State) (c : Char) (rest : List Char) :
    Option (State × List Char) :=
  let uncounted (least : Nat) (most : Option Nat) :=
    let (greedy, rest) := readGreed rest
    (st.repeatLast greedy least most).map (·, rest)
  match c with
  | '(' => st.openParen rest
  | ')' => st.closeParen.map (·, rest)
  | '|' => some ({ st with frame := st.frame.nextBranch }, rest)
  | '[' =>
    (Bracket.read properties st.flags rest).map fun (value, rest) ↦
      (st.push ⟨ofSet st.flags.alphabet value.chars, value.depth, true⟩, rest)
  | '?' => uncounted 0 (some 1)
  | '*' => uncounted 0 none
  | '+' => uncounted 1 none
  | '\x7b' =>
    (readBounds st.flags rest).bind fun (least, most, rest) ↦
      let (greedy, rest) := readGreed (st.flags.skip rest)
      (st.repeatLast greedy least most).map (·, rest)
  | '\\' =>
    (Escape.read properties st.flags rest).bind fun (escape, rest) ↦
      (Item.ofEscape? st.flags escape).map fun item ↦ (st.push item, rest)
  | '.' => st.flags.dot?.map fun p ↦ (st.push (.plain p), rest)
  | '^' => some (st.push (.plain (look st.flags.lineStart)), rest)
  | '$' => some (st.push (.plain (look st.flags.lineEnd)), rest)
  | c => (st.flags.literal? c).map fun p ↦ (st.push (.plain p), rest)

/-- Every item takes at least one character, which bounds their number. -/
def readItems (properties : Properties) : Nat → State → List Char → Option State
  | 0, _, _ => none
  | fuel + 1, st, text =>
    match st.flags.skip text with
    | [] => some st
    | c :: rest =>
      (st.step properties c rest).bind fun (st, rest) ↦ readItems properties fuel st rest

end Reader

/-- The pattern that a text denotes; nothing if the text is malformed, names a property that is not
in the table, or is too large or too deeply nested. -/
def read? (properties : Properties) (text : String) : Option Pattern :=
  let chars := text.toList
  let frame : Reader.Frame := ⟨none, {}, [], []⟩
  (Reader.readItems properties (chars.length + 1) ⟨{}, frame, [], 0, []⟩ chars).bind fun st ↦
    let body := st.frame.body
    if st.outer.isEmpty ∧ body.depth ≤ maxDepth ∧ body.pattern.fits then some body.pattern
    else none

end OperatorGrammar.Pattern
