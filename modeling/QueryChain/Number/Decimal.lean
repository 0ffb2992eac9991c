import QueryChain.Number.Numeral

/-!
# Fixed-scale decimals

A decimal is an integer of at most 96 bits divided by a power of ten, at most the twenty-eighth. Its
scale is part of it: `1.50` is written with two places, and there is no negative zero.
-/

namespace QueryChain

/-- The coefficients are, without their signs, below this number. -/
def Decimal.limit : Nat := 1 <<< 96

/-- The largest scale. -/
def Decimal.maxScale : Nat := 28

/-- The number `coefficient / 10 ^ scale`. -/
structure Decimal where
  coefficient : Int
  scale : Nat
  natAbs_lt : coefficient.natAbs < Decimal.limit := by decide
  scale_le : scale ≤ Decimal.maxScale := by decide
deriving DecidableEq

namespace Decimal

/-- All digits of the coefficient, with one zero at least before the point. -/
def digits (d : Decimal) : List Char :=
  let ds := (toString d.coefficient.natAbs).toList
  List.replicate (d.scale + 1 - ds.length) '0' ++ ds

/-- The text of a decimal has exactly `scale` places. -/
def text (d : Decimal) : String :=
  let ds := d.digits
  let whole := ds.take (ds.length - d.scale)
  let places := ds.drop (ds.length - d.scale)
  (if d.coefficient < 0 then "-" else "") ++
    String.ofList (whole ++ if places = [] then [] else '.' :: places)

/-! ## Reading

The digits of a text are taken as long as the decimal has room for them. The first character that
finds none decides how the last digit is rounded, and nothing behind it is looked at. Underscores
between digits mean nothing. Where the last place was filled, an underscore is passed over only if
the coefficient is long; behind a short one it ends the number.
-/

/-- The least coefficient that may overflow 64 bits when a digit follows, with one byte to spare. -/
def shortLimit : Nat := (UInt64.size - 1) / 10 - 255

/-- The coefficient was within the bounds of 64 bits before its last digit. -/
def isShort (coefficient : Nat) : Bool := coefficient / 10 < shortLimit

/-- A coefficient and a scale, rounded by the character that found no room. A half goes upwards. If
that makes the coefficient too large, it loses its last digit. -/
def rounded (coefficient scale : Nat) (next : Char) : Option (Nat × Nat) :=
  if next.isDigit || next == '.' then
    let c := coefficient + if next.isDigit && '5' ≤ next then 1 else 0
    if c < limit then some (c, scale)
    else if scale = 0 then none
    else some ((c + 4) / 10, scale - 1)
  else none

/-- The coefficient and the scale that a text continues, with the number of places so far if the
point was read. -/
def scan (coefficient : Nat) (places : Option Nat) : List Char → Option (Nat × Nat)
  | [] => some (coefficient, places.getD 0)
  | c :: r =>
    if c = '_' then
      if places = some maxScale ∧ isShort coefficient then some (coefficient, maxScale)
      else scan coefficient places r
    else if places = some maxScale then rounded coefficient maxScale c
    else if c.isDigit then
      let next := 10 * coefficient + (c.toNat - '0'.toNat)
      if next < limit then scan next (places.map (· + 1)) r
      else places.bind fun scale ↦ rounded coefficient scale c
    else if c = '.' ∧ places = none then scan coefficient (some 0) r
    else none

/-- The decimal that the whole text is; its scale is the number of places written, as far as there
is room for them. -/
def ofText? (s : String) : Option Decimal := do
  let (negative, r) := Numeral.splitSign s.toList
  let (places, r) := match r with
    | '.' :: r => (some 0, r)
    | r => (none, r)
  if !(r.head?.any Char.isDigit) then failure
  let (c, scale) ← scan 0 places r
  let signed : Int := if negative then -(c : Int) else c
  if h : signed.natAbs < limit ∧ scale ≤ maxScale then some ⟨signed, scale, h.1, h.2⟩ else none

/-- The double nearest to a decimal. -/
def toDouble (d : Decimal) : Double :=
  .ofDecimal (d.coefficient < 0) d.coefficient.natAbs (-(d.scale : Int))

end Decimal

end QueryChain
