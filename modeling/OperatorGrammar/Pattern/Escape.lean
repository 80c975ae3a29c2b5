import OperatorGrammar.Pattern.Flags
import OperatorGrammar.Pattern.Properties

/-!
# Escapes and numbers in the text of a pattern

What a backslash and the characters after it stand for: a character, a set of characters or an
assertion. Each reader returns the rest of the text, or nothing if the text is no pattern.
-/

namespace OperatorGrammar.Pattern

inductive Escape where
  | char (c : Char)
  | set (chars : CharSet)
  | look (assertion : Look)

namespace Escape

def hexDigit? (c : Char) : Option Nat :=
  if '0' ≤ c ∧ c ≤ '9' then some (c.toNat - 0x30)
  else if 'a' ≤ c ∧ c ≤ 'f' then some (c.toNat - 0x57)
  else if 'A' ≤ c ∧ c ≤ 'F' then some (c.toNat - 0x37)
  else none

def hexValue (digits : List Char) : Nat :=
  digits.foldl (fun value c ↦ 16 * value + (hexDigit? c).getD 0) 0

def scalar? (value : Nat) : Option Char :=
  if h : value.isValidChar then some (Char.ofNatAux value h) else none

/-- Exactly so many hexadecimal digits. -/
def readHexDigits (flags : Flags) : Nat → List Char → Option (List Char × List Char)
  | 0, text => some ([], text)
  | count + 1, text =>
    match flags.skip text with
    | [] => none
    | c :: rest =>
      if (hexDigit? c).isSome then
        (readHexDigits flags count rest).map fun (digits, rest) ↦ (c :: digits, rest)
      else none

/-- A code point: hexadecimal digits in braces, or else exactly `count` of them. Outside of Unicode
two digits give a byte, which is a character only below 128. -/
def readCodePoint (flags : Flags) (count : Nat) (text : List Char) :
    Option (Char × List Char) :=
  match flags.skip text with
  | '\x7b' :: rest =>
    match flags.takeRun (fun c ↦ (hexDigit? c).isSome) (flags.skip rest) with
    | (c :: digits, '\x7d' :: rest) =>
      (scalar? (hexValue (c :: digits))).map fun c ↦ (c, flags.skip rest)
    | _ => none
  | text =>
    (readHexDigits flags count text).bind fun (digits, rest) ↦
      (scalar? (hexValue digits)).bind fun c ↦
        if count = 2 ∧ !flags.unicode ∧ 0x80 ≤ c.toNat then none else some (c, flags.skip rest)

/-- The name of a property is one character, or stands in braces. -/
def readProperty (properties : Properties) (flags : Flags) (negated : Bool) (text : List Char) :
    Option (CharSet × List Char) :=
  let finish (name rest : List Char) : Option (CharSet × List Char) :=
    if !flags.unicode then none
    else
      (properties name).bind fun chars ↦
        (flags.negate? negated (flags.fold chars)).map fun chars ↦ (chars, rest)
  match flags.skip text with
  | [] => none
  | '\x7b' :: rest =>
    match flags.takeRun (· ≠ '\x7d') (flags.skip rest) with
    | (name, '\x7d' :: rest) => finish name rest
    | _ => none
  | '\\' :: _ => none
  | c :: rest => finish [c] (flags.skip rest)

/-- A word boundary may be narrowed to one side by a name in braces. Braces that hold no name are
left to the counted repetition that they may be. -/
def readBoundary (flags : Flags) (text : List Char) : Option (Look × List Char) :=
  let isNameChar (c : Char) : Bool := c.isAlpha || c == '-'
  match text with
  | '\x7b' :: rest =>
    match flags.skip rest with
    | [] => none
    | c :: rest =>
      if isNameChar c then
        match flags.takeRun isNameChar (c :: rest) with
        | (name, '\x7d' :: rest) =>
          match String.ofList name with
          | "start" => some (.wordStart flags.alphabet, rest)
          | "end" => some (.wordEnd flags.alphabet, rest)
          | "start-half" => some (.wordStartHalf flags.alphabet, rest)
          | "end-half" => some (.wordEndHalf flags.alphabet, rest)
          | _ => none
        | _ => none
      else some (.wordBoundary flags.alphabet, text)
  | _ => some (.wordBoundary flags.alphabet, text)

/-- Reads what follows a backslash. Punctuation stands for itself; letters and digits must have a
meaning. -/
def read (properties : Properties) (flags : Flags) : List Char → Option (Escape × List Char)
  | [] => none
  | c :: rest =>
    let char (c : Char) := some (Escape.char c, rest)
    let class? (negated : Bool) (chars : CharSet) :=
      (flags.negate? negated chars).map fun chars ↦ (Escape.set chars, rest)
    let codePoint (count : Nat) :=
      (readCodePoint flags count rest).map fun (c, rest) ↦ (Escape.char c, rest)
    let property (negated : Bool) :=
      (readProperty properties flags negated rest).map fun (chars, rest) ↦ (Escape.set chars, rest)
    match c with
    | 'x' => codePoint 2
    | 'u' => codePoint 4
    | 'U' => codePoint 8
    | 'p' => property false
    | 'P' => property true
    | 'd' => class? false flags.alphabet.digit
    | 'D' => class? true flags.alphabet.digit
    | 's' => class? false flags.alphabet.space
    | 'S' => class? true flags.alphabet.space
    | 'w' => class? false flags.alphabet.word
    | 'W' => class? true flags.alphabet.word
    | 'a' => char '\x07'
    | 'f' => char '\x0c'
    | 't' => char '\t'
    | 'n' => char '\n'
    | 'r' => char '\r'
    | 'v' => char '\x0b'
    | 'A' => some (.look .textStart, rest)
    | 'z' => some (.look .textEnd, rest)
    | 'B' => some (.look (.noWordBoundary flags.alphabet), rest)
    | 'b' => (readBoundary flags rest).map fun (assertion, rest) ↦ (.look assertion, rest)
    | '<' => some (.look (.wordStart flags.alphabet), rest)
    | '>' => some (.look (.wordEnd flags.alphabet), rest)
    | c => if c.toNat < 0x80 ∧ !c.isAlphanum then char c else none

end Escape

/-- A decimal number below 2³², with white space around it. -/
def readDecimal (flags : Flags) (text : List Char) : Option (Nat × List Char) :=
  match flags.takeRun Char.isDigit (text.dropWhile CharSet.blank.contains) with
  | ([], _) => none
  | (digits, rest) =>
    let value := digits.foldl (fun value c ↦ 10 * value + (c.toNat - 0x30)) 0
    if value < 0x100000000 then some (value, rest.dropWhile CharSet.blank.contains) else none

end OperatorGrammar.Pattern
