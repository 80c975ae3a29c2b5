/-!
# Positions in a text

A cursor is a text cut in two at a character boundary, together with the number of bytes that the
part before the cut takes in UTF-8. Offsets and lengths are counted in these bytes throughout.
-/

namespace OperatorGrammar

/-- The number of bytes of a text in UTF-8. -/
def width : List Char → Nat
  | [] => 0
  | c :: rest => c.utf8Size + width rest

@[simp] theorem width_nil : width [] = 0 := rfl

@[simp] theorem width_cons (c : Char) (text : List Char) :
    width (c :: text) = c.utf8Size + width text := rfl

@[simp] theorem width_append (s t : List Char) : width (s ++ t) = width s + width t := by
  induction s with
  | nil => simp
  | cons c s ih => simp [ih, Nat.add_assoc]

@[simp] theorem width_reverse (text : List Char) : width text.reverse = width text := by
  induction text with
  | nil => rfl
  | cons c text ih => simp [ih, Nat.add_comm]

theorem add_eq_width_cons {before : List Char} {offset : Nat} (c : Char)
    (h : offset = width before) : c.utf8Size + offset = width (c :: before) := by
  rw [width_cons, h]

/-- The characters of a text up to `bytes` bytes. -/
def takeWidth : Nat → List Char → List Char
  | _, [] => []
  | bytes, c :: rest => if bytes = 0 then [] else c :: takeWidth (bytes - c.utf8Size) rest

/-- The part before the cut is kept with the nearest character first. -/
structure Cursor where
  before : List Char
  after : List Char
  offset : Nat
  offset_eq : offset = width before

namespace Cursor

def start (text : List Char) : Cursor := ⟨[], text, 0, rfl⟩

def text (cur : Cursor) : List Char := cur.before.reverse ++ cur.after

def atStart (cur : Cursor) : Bool := cur.before.isEmpty

def atEnd (cur : Cursor) : Bool := cur.after.isEmpty

def previous? (cur : Cursor) : Option Char := cur.before.head?

def next? (cur : Cursor) : Option Char := cur.after.head?

/-- The cursor beyond the character `c`, which it stands before. -/
def step (cur : Cursor) (c : Char) (rest : List Char) : Cursor :=
  ⟨c :: cur.before, rest, c.utf8Size + cur.offset, add_eq_width_cons c cur.offset_eq⟩

/-- The next character and the cursor beyond it. -/
def advance? (cur : Cursor) : Option (Char × Cursor) :=
  match cur.after with
  | [] => none
  | c :: rest => some (c, cur.step c rest)

/-- The cursor beyond `chars`, if it stands before them. -/
def skip? : List Char → Cursor → Option Cursor
  | [], cur => some cur
  | c :: chars, cur =>
    match cur.advance? with
    | some (d, beyond) => if d = c then skip? chars beyond else none
    | none => none

/-- The cursor at the end of the same text. -/
def toEnd (cur : Cursor) : Cursor :=
  ⟨cur.after.reverse ++ cur.before, [], width cur.after + cur.offset, by
    simp [cur.offset_eq]⟩

/-- The text between two cursors of one text. -/
def upTo (first last : Cursor) : List Char := takeWidth (last.offset - first.offset) first.after

theorem text_start (text : List Char) : (start text).text = text := rfl

theorem text_step {cur : Cursor} {c : Char} {rest : List Char} (h : cur.after = c :: rest) :
    (cur.step c rest).text = cur.text := by simp [text, step, h]

theorem text_toEnd (cur : Cursor) : cur.toEnd.text = cur.text := by simp [text, toEnd]

theorem offset_toEnd (cur : Cursor) : cur.toEnd.offset = width cur.text := by
  simp [toEnd, text, cur.offset_eq, Nat.add_comm]

end Cursor

end OperatorGrammar
