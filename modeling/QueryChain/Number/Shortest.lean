import QueryChain.Number.Double

/-!
# The shortest decimal of a double

Many decimals read back as the same double. The one that is written has the fewest digits; among
those with that many digits it is the nearest to the exact value. On the grid of decimals with a
given number of digits only the two neighbours of the exact value can be nearest, so the search
tries both of them on grids of one, two, … seventeen digits, and seventeen are always enough.

Which neighbour wins an exact tie is left to the format that is written.
-/

namespace QueryChain

/-- A decimal `digits * 10 ^ exponent`. -/
structure DecimalExpansion where
  digits : Nat
  exponent : Int
deriving DecidableEq, Repr

/-- What an exact tie between two neighbours goes to. -/
inductive Tie
  | up
  | even
deriving DecidableEq, Repr

namespace DecimalExpansion

/-- The same decimal without zeros at the end of its digits. -/
def strip (d : DecimalExpansion) : DecimalExpansion :=
  if d.digits = 0 then ⟨0, 0⟩
  else if d.digits % 10 = 0 then strip ⟨d.digits / 10, d.exponent + 1⟩
  else d
termination_by d.digits
decreasing_by omega

end DecimalExpansion

namespace Double

/-- The largest `e` with `10 ^ e ≤ num / den`, for a positive ratio. -/
def decimalExponent (num den : Nat) : Int :=
  let e : Int := ((toString num).length : Int) - (toString den).length
  let reached := if 0 ≤ e then den * Nat.pow 10 e.toNat ≤ num else den ≤ num * Nat.pow 10 (-e).toNat
  if reached then e else e - 1

/-- The neighbours of `num / den` on the grid of multiples of `10 ^ k`: the largest grid point that
is not above it, and what is left, as a ratio to one step of the grid. -/
def gridBelow (num den : Nat) (k : Int) : Nat × Nat × Nat :=
  let den' := if 0 ≤ k then den * Nat.pow 10 k.toNat else den
  let num' := if 0 ≤ k then num else num * Nat.pow 10 (-k).toNat
  (num' / den', num' % den', den')

/-- The nearest decimal with `n` digits that reads back as the magnitude of `x`, if one does. -/
def shortestOn (tie : Tie) (x : Double) (n : Nat) : Option DecimalExpansion :=
  let k := decimalExponent x.magnitude unitsPerOne - (n : Int) + 1
  let (low, rest, step) := gridBelow x.magnitude unitsPerOne k
  let readsBack (d : Nat) : Bool :=
    let y := ofDecimal false d k
    y.isFinite && y.magnitude == x.magnitude
  let upper : Bool := match tie with
    | .up => decide (step ≤ 2 * rest)
    | .even => decide (step < 2 * rest) || (step == 2 * rest && low % 2 == 1)
  match readsBack low, readsBack (low + 1) with
  | true, true => some ⟨if upper then low + 1 else low, k⟩
  | true, false => some ⟨low, k⟩
  | false, true => some ⟨low + 1, k⟩
  | false, false => none

/-- The shortest decimal that reads back as the magnitude of a finite double. -/
def shortest (tie : Tie) (x : Double) : DecimalExpansion :=
  if x.magnitude = 0 then ⟨0, 0⟩
  else (((List.range 17).findSome? fun n ↦ shortestOn tie x (n + 1)).getD ⟨0, 0⟩).strip

end Double

end QueryChain
