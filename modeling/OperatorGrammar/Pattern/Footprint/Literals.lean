import OperatorGrammar.Pattern.Footprint.Basic

/-!
# The size of a choice between literals

A choice between literals alone is built as a tree in which they share their beginnings, as long as
none ends on the way: where one ends, those that come later start a new list of transitions, so that
the order of preference is kept.
-/

namespace OperatorGrammar.Footprint

/-- The bytes of a literal in the order in which they are read. -/
def Direction.bytes (dir : Direction) (chars : List Char) : List UInt8 :=
  match dir with
  | .forward => chars.flatMap String.utf8EncodeChar
  | .backward => (chars.flatMap String.utf8EncodeChar).reverse

/-- The words between those that end here. -/
def sections : List (List UInt8) → List (List (List UInt8))
  | [] => [[]]
  | [] :: words => [] :: sections words
  | word :: words =>
    match sections words with
    | [] => [[word]]
    | first :: rest => (word :: first) :: rest

/-- A word that ends where another one has just ended counts only behind some that go on. -/
def dropRepeated : List (List UInt8) → List (List UInt8)
  | [] :: words => [] :: words.dropWhile List.isEmpty
  | words => words

/-- What is left of the words behind their first byte, for each first byte. -/
def tails (words : List (List UInt8)) : List (List (List UInt8)) :=
  (words.filterMap List.head?).eraseDups.map fun byte ↦
    words.filterMap fun word ↦ if word.head? = some byte then some word.tail else none

/-- The state in which `words` are read, and those behind it. No word is longer than the fuel. -/
def addWords : Nat → List (List UInt8) → Build Unit
  | 0, _ => pure ()
  | fuel + 1, words => do
    let lists := sections (dropRepeated words)
    let children := lists.map tails
    children.forM fun child ↦ do
      child.forM fun words ↦ if words.all List.isEmpty then pure () else addWords fuel words
      if child.length = 1 then
        let _ ← addState 0
      else if 1 < child.length then
        let _ ← addRanges child.length
    let _ ← addChoice ((children.filter (!·.isEmpty)).length + (lists.length - 1))

/-- A choice between literals, none of which is empty. -/
def addLiterals (dir : Direction) (literals : List (List Char)) : Build Unit := do
  let words := literals.map dir.bytes
  let _ ← addState 0
  addWords ((words.map List.length).foldl max 0) words

end OperatorGrammar.Footprint
