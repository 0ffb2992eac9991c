import QueryChain.Number.Shortest

/-!
# Layouts of a double

A layout fixes everything about the text of a double but its digits: where the exponent stops being
written out in zeros, whether a whole number shows a point, and which way a tie between two shortest
decimals goes. The library writes doubles in two layouts: `plain`, for people, never has an
exponent; `exchange`, for JSON, has one outside a middle range and marks every double by a point or
an exponent, so that it is not read back as an integer.
-/

namespace QueryChain

/-- How the digits of a double are laid out. -/
structure Layout where
  /-- The side that an exact tie between two shortest decimals goes to. -/
  tie : Tie
  /-- The exponents, in scientific form, that are written out in zeros; none means all of them. -/
  positional : Option (Int × Int)
  /-- A whole number ends in `.0`. -/
  wholePoint : Bool

namespace Layout

/-- Never an exponent, and no point in a whole number. -/
def plain : Layout := ⟨.up, none, false⟩

/-- Exponents from -5 to 15 are written out, and a point shows that the number is no integer. -/
def exchange : Layout := ⟨.even, some (-5, 15), true⟩

/-- The digits with the point after the first `point` of them; zeros fill what is missing. -/
def placePoint (wholePoint : Bool) (digits : List Char) (point : Int) : List Char :=
  if point ≤ 0 then
    '0' :: '.' :: (List.replicate (-point).toNat '0' ++ digits)
  else if digits.length ≤ point.toNat then
    digits ++ List.replicate (point.toNat - digits.length) '0' ++
      (if wholePoint then ['.', '0'] else [])
  else digits.take point.toNat ++ '.' :: digits.drop point.toNat

/-- One digit before the point, the rest after it, and the exponent with its sign. -/
def scientific (digits : List Char) (exponent : Int) : List Char :=
  digits.take 1 ++ (if digits.length = 1 then [] else '.' :: digits.drop 1) ++
    'e' :: (if exponent < 0 then '-' else '+') :: (toString exponent.natAbs).toList

/-- The text of a decimal without its sign. -/
def magnitudeText (l : Layout) (d : DecimalExpansion) : List Char :=
  let digits := (toString d.digits).toList
  let exponent := d.exponent + digits.length - 1
  match l.positional with
  | some (low, high) =>
    if low ≤ exponent ∧ exponent ≤ high then placePoint l.wholePoint digits (exponent + 1)
    else scientific digits exponent
  | none => placePoint l.wholePoint digits (exponent + 1)

/-- The text of a double. Zero keeps its sign, and a value that is no number has none. -/
def text (l : Layout) (x : Double) : String :=
  if x.isNaN then "NaN"
  else
    let sign := if x.isNegative then "-" else ""
    if x.isFinite then sign ++ String.ofList (l.magnitudeText (x.shortest l.tie)) else sign ++ "inf"

end Layout

/-- The text of a double as people read it. -/
def Double.text (x : Double) : String := Layout.plain.text x

end QueryChain
