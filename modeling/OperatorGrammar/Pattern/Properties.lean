import OperatorGrammar.CharSet.Blank
import OperatorGrammar.CharSet.Numeric
import OperatorGrammar.CharSet.Word

/-!
# Properties of characters

A pattern may name a set of characters by a Unicode property. Which names there are and which sets
they stand for is a table, and reading a pattern takes any such table. The program gives it one that
holds the properties whose characters are listed in this library, a small part of what Unicode has.
-/

namespace OperatorGrammar

/-- The set that a name stands for, or nothing if it stands for none. The name comes as it is
written, as one character or between braces, where a sign of equality and a value may belong to
it. -/
abbrev Properties := List Char → Option CharSet

namespace Properties

/-- Names differ neither by case nor by spaces, hyphens, underscores, characters outside of ASCII or
an "is" in front. -/
def normalize (name : List Char) : List Char :=
  let name := match name with
    | c :: d :: rest => if c.toLower = 'i' ∧ d.toLower = 's' then rest else name
    | name => name
  (name.filter fun c ↦ c ≠ ' ' ∧ c ≠ '-' ∧ c ≠ '_' ∧ c.toNat < 0x80).map Char.toLower

/-- The table of the program, for the properties that this library has sets for. Other general
categories, scripts and values behind a sign of equality are left out: with this table, a pattern
that names one of them is refused. -/
def listed : Properties := fun name ↦
  match String.ofList (normalize name) with
  | "any" => some CharSet.all
  | "ascii" => some CharSet.Ascii.all
  | "alphabetic" | "alpha" => some CharSet.alphabetic
  | "whitespace" | "wspace" | "space" => some CharSet.blank
  | "m" | "mark" | "combiningmark" => some CharSet.mark
  | "n" | "number" => some CharSet.numeric
  | "nd" | "decimalnumber" | "digit" => some CharSet.decimalDigit
  | "pc" | "connectorpunctuation" => some CharSet.connector
  | "joinc" | "joincontrol" => some CharSet.joinControl
  | _ => none

end Properties

end OperatorGrammar
