import QueryChain.Number.Double

/-!
# Numerals

A numeral is a run of digits with at most one point and at most one exponent. It denotes an integer
times a power of ten, so reading one as a double rounds once.
-/

namespace QueryChain

/-- Digits before and after the point, and the exponent. -/
structure Numeral where
  whole : List Char
  fraction : List Char
  exponent : Int
deriving DecidableEq, Repr

namespace Numeral

/-- The integer that the digits denote when the point is left out. -/
def digits (n : Numeral) : Nat := Nat.ofDigitChars 10 (n.whole ++ n.fraction) 0

/-- The power of ten that the integer is multiplied by. -/
def power (n : Numeral) : Int := n.exponent - n.fraction.length

/-- The double nearest to the numeral. -/
def toDouble (negative : Bool) (n : Numeral) : Double :=
  .ofDecimal negative n.digits n.power

/-- A sign and the text after it; no sign is a plus. -/
def splitSign : List Char → Bool × List Char
  | '-' :: r => (true, r)
  | '+' :: r => (false, r)
  | r => (false, r)

/-- The exponent that the whole text is, mark included; no text is no exponent. -/
def exponent? : List Char → Option Int
  | [] => some 0
  | c :: r =>
    let (negative, ds) := splitSign r
    if (c = 'e' ∨ c = 'E') ∧ ds ≠ [] ∧ ds.all Char.isDigit then
      let n : Int := Nat.ofDigitChars 10 ds 0
      some (if negative then -n else n)
    else none

/-- The numeral that the whole text is, without a sign in front. -/
def ofText? (s : List Char) : Option Numeral :=
  let whole := s.takeWhile Char.isDigit
  let (fraction, r) := match s.dropWhile Char.isDigit with
    | '.' :: r => (r.takeWhile Char.isDigit, r.dropWhile Char.isDigit)
    | r => ([], r)
  if whole = [] ∧ fraction = [] then none
  else (exponent? r).map (⟨whole, fraction, ·⟩)

end Numeral

/-- The double that a text names: a numeral with or without a sign, an infinity, or `NaN`. -/
def Double.ofText? (s : String) : Option Double :=
  let (negative, r) := Numeral.splitSign s.toList
  let name := r.map Char.toLower
  if name = ['n', 'a', 'n'] then some (if negative then .neg .nan else .nan)
  else if name = ['i', 'n', 'f'] ∨ name = "infinity".toList then some (.infinity negative)
  else (Numeral.ofText? r).map (Numeral.toDouble negative)

end QueryChain
