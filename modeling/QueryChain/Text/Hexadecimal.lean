/-!
# Hexadecimal digits

Escapes in strings, integers and identifiers are written with the digits 0 to 9 and the letters A to
F in either case.
-/

namespace QueryChain.Text

/-- The value of a hexadecimal digit of either case. -/
def hexValue? (c : Char) : Option Nat :=
  if c.isDigit then some (c.toNat - '0'.toNat)
  else if 'a' ≤ c.toLower ∧ c.toLower ≤ 'f' then some (c.toLower.toNat - 'a'.toNat + 10)
  else none

/-- The number that a run of hexadecimal digits denotes, if all of them are digits. -/
def hexNumber? (ds : List Char) : Option Nat :=
  (ds.mapM hexValue?).map fun values ↦ values.foldl (fun n d ↦ 16 * n + d) 0

end QueryChain.Text
