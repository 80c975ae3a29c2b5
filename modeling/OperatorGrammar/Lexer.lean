import OperatorGrammar.Lexicon
import OperatorGrammar.Token

/-!
# Lexers

A lexer walks over one text and delivers its tokens with one token of lookahead. Text that no rule
matches is skipped silently. Once the text is exhausted every further token is the sentinel.

A rule may match the empty text. Such a match is a token without a literal, but an empty match where
the last match ended is skipped, so that the lexer always moves on.
-/

namespace OperatorGrammar

/-- The state of a lexer: where the next search starts, where the last match ended, whether the text
is exhausted, the token delivered last, and whether that one was only looked at. -/
structure Lexer (τ : Type) where
  lexicon : Lexicon τ
  name : Option String
  cursor : Cursor
  lastMatch : Option Nat
  exhausted : Bool
  current : Option (Token τ)
  pending : Bool

namespace Lexer

variable {τ : Type}

def ofChars (lexicon : Lexicon τ) (name : Option String) (text : List Char) : Lexer τ :=
  ⟨lexicon, name, .start text, none, false, none, false⟩

def ofText (lexicon : Lexicon τ) (name : Option String) (text : String) : Lexer τ :=
  ofChars lexicon name text.toList

def sentinel (lx : Lexer τ) : τ := lx.lexicon.sentinel

/-- A stretch of the lexer's text; a text without a name is called `<input>`. -/
def place (lx : Lexer τ) (offset length : Nat) : Place :=
  ⟨lx.name.getD "<input>", String.ofList lx.cursor.text, offset, length⟩

/-- The token that stands for the end of the text. -/
def endToken (lx : Lexer τ) : Token τ := ⟨lx.sentinel, none, width lx.cursor.text⟩

def currentOrEnd (lx : Lexer τ) : Token τ := lx.current.getD lx.endToken

def currentPlace (lx : Lexer τ) : Place :=
  lx.place lx.currentOrEnd.offset lx.currentOrEnd.length

/-- Goes to the end of the text for good. -/
def finish (lx : Lexer τ) : Lexer τ :=
  { lx with
    cursor := lx.cursor.toEnd
    exhausted := true
    current := some lx.endToken }

/-- The token for what a rule's group matched. -/
def tokenOf (kind : τ) (extent : Extent) : Token τ :=
  { kind := kind
    literal := if extent.first.offset < extent.last.offset then
      some (String.ofList extent.text) else none
    offset := extent.first.offset }

/-- Moves behind a match and delivers its token. A match that belongs to no rule is a fault, and the
token delivered before it remains the current one. -/
def accept (lx : Lexer τ) (found : Match) : Except (Fault τ) τ × Lexer τ :=
  let first := found.extent.first
  let last := found.extent.last
  let moved := { lx with cursor := last, lastMatch := some last.offset }
  match lx.lexicon.identify? found with
  | none => (.error (.unidentified (lx.place first.offset (last.offset - first.offset))), moved)
  | some (kind, extent) => (.ok kind, { moved with current := some (tokenOf kind extent) })

/-- An empty match at the end of the last match makes no progress. -/
def stalls (lx : Lexer τ) (found : Match) : Bool :=
  found.extent.first.offset == found.extent.last.offset &&
    lx.lastMatch == some found.extent.last.offset

/-- Searches from the cursor. When the match makes no progress, the search is repeated from the next
character on. -/
def seek (lx : Lexer τ) : Except (Fault τ) τ × Lexer τ :=
  match lx.lexicon.pattern.search? lx.cursor with
  | none => (.ok lx.sentinel, lx.finish)
  | some found =>
    if lx.stalls found then
      match _h : lx.cursor.after with
      | [] => (.ok lx.sentinel, lx.finish)
      | c :: rest => seek { lx with cursor := lx.cursor.step c rest }
    else lx.accept found
termination_by lx.cursor.after.length
decreasing_by simp [Cursor.step, _h]

/-- Delivers the next token whatever was looked at. -/
def scan (lx : Lexer τ) : Except (Fault τ) τ × Lexer τ :=
  if lx.exhausted then (.ok lx.sentinel, lx.finish) else lx.seek

/-- Takes the next token. -/
def advance (lx : Lexer τ) : Except (Fault τ) τ × Lexer τ :=
  if lx.pending then (.ok lx.currentOrEnd.kind, { lx with pending := false }) else lx.scan

/-- Looks at the next token, which remains to be taken. -/
def peek (lx : Lexer τ) : Except (Fault τ) τ × Lexer τ :=
  if lx.pending then (.ok lx.currentOrEnd.kind, lx)
  else
    match lx.scan with
    | (.ok kind, lx) => (.ok kind, { lx with pending := true })
    | (.error fault, lx) => (.error fault, lx)

variable [DecidableEq τ]

/-- Takes the next token and fails if it is not the expected one. -/
def expect (lx : Lexer τ) (expected : τ) : Except (Fault τ) (Token τ) × Lexer τ :=
  match lx.advance with
  | (.error fault, lx) => (.error fault, lx)
  | (.ok found, lx) =>
    if found = expected then (.ok lx.currentOrEnd, lx)
    else (.error (.mismatch expected found lx.currentOrEnd.literal lx.currentPlace), lx)

/-- Takes the next token, up to the sentinel. -/
def next (lx : Lexer τ) : Except (Fault τ) (Option (Token τ)) × Lexer τ :=
  match lx.advance with
  | (.error fault, lx) => (.error fault, lx)
  | (.ok kind, lx) =>
    if kind = lx.sentinel then (.ok none, lx) else (.ok (some lx.currentOrEnd), lx)

/-- The operations of a lexer that take nothing but a token. -/
inductive Call (τ : Type) where
  | advance
  | peek
  | expect (token : τ)
  | next
  | current

/-- What an operation returns. A missing token stands for the end of the text, or for the token
delivered last when there was none. -/
inductive Reply (τ : Type) where
  | kind (kind : τ)
  | token (token : Option (Token τ))
  | fault (fault : Fault τ)

namespace Reply

def ofKind : Except (Fault τ) τ → Reply τ
  | .ok found => .kind found
  | .error f => .fault f

def ofToken : Except (Fault τ) (Token τ) → Reply τ
  | .ok found => .token (some found)
  | .error f => .fault f

def ofToken? : Except (Fault τ) (Option (Token τ)) → Reply τ
  | .ok found => .token found
  | .error f => .fault f

end Reply

def call (lx : Lexer τ) : Call τ → Reply τ × Lexer τ
  | .advance => (.ofKind lx.advance.1, lx.advance.2)
  | .peek => (.ofKind lx.peek.1, lx.peek.2)
  | .expect token => (.ofToken (lx.expect token).1, (lx.expect token).2)
  | .next => (.ofToken? lx.next.1, lx.next.2)
  | .current => (.token lx.current, lx)

/-- Takes tokens and faults up to the first sentinel, but at most so many. -/
def takeAll : Nat → Lexer τ → List (Except (Fault τ) (Token τ)) × Lexer τ
  | 0, lx => ([], lx)
  | fuel + 1, lx =>
    match lx.next with
    | (.ok none, lx) => ([], lx)
    | (.ok (some token), lx) =>
      let (rest, lx) := takeAll fuel lx
      (.ok token :: rest, lx)
    | (.error fault, lx) =>
      let (rest, lx) := takeAll fuel lx
      (.error fault :: rest, lx)

/-- Everything up to the first sentinel. Matches end ever further behind, so that there are at most
as many as characters are left and one, besides the token that may be pending. -/
def drain (lx : Lexer τ) : List (Except (Fault τ) (Token τ)) × Lexer τ :=
  takeAll (lx.cursor.after.length + 3) lx

end Lexer

end OperatorGrammar
