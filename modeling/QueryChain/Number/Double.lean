/-!
# Binary floating point

A `Double` is the 64 bits of an IEEE 754 binary64 number: a sign, eleven bits of exponent and
fifty-two bits of fraction. The magnitude of a finite one is `significand * 2 ^ scale / 2 ^ 1074`,
so every question about it is a question about natural numbers.

The one operation that rounds is `Double.ofRatio`: the double nearest to a ratio of two natural
numbers, a tie going to the even significand. Reading a decimal, converting an integer, and
multiplying and dividing finite doubles are `ofRatio` of the exact result.
-/

namespace QueryChain

/-- An IEEE 754 binary64 number, as its bits. -/
structure Double where
  bits : UInt64
deriving DecidableEq, Repr, Inhabited

namespace Double

/-! ## The fields of a double -/

/-- The sign bit is set, as it is for `-0.0` too. -/
def isNegative (x : Double) : Bool := 1 <<< 63 ≤ x.bits.toNat

/-- The exponent as it is stored, from 0 to 2047. -/
def storedExponent (x : Double) : Nat := (x.bits.toNat >>> 52) % (1 <<< 11)

/-- The fifty-two bits after the binary point. -/
def fraction (x : Double) : Nat := x.bits.toNat % (1 <<< 52)

/-- The stored exponent 2047 is kept for infinities and for values that are no number. -/
def isFinite (x : Double) : Bool := x.storedExponent != 2047

def isNaN (x : Double) : Bool := x.storedExponent == 2047 && x.fraction != 0

/-- The fraction with the leading bit that the stored exponent implies. -/
def significand (x : Double) : Nat :=
  if x.storedExponent = 0 then x.fraction else x.fraction + (1 <<< 52)

/-- The power of two that multiplies the significand, in units of `2 ^ (-1074)`. -/
def scale (x : Double) : Nat := x.storedExponent - 1

/-- The magnitude of a finite double, in units of `2 ^ (-1074)`. -/
def magnitude (x : Double) : Nat := x.significand <<< x.scale

/-- The number of units of `2 ^ (-1074)` in one. -/
def unitsPerOne : Nat := 1 <<< 1074

/-! ## Building a double -/

/-- The double with the given sign whose other bits, read as a number, are `word`. A word that
reaches the stored exponent 2047 is infinity. -/
def ofWord (negative : Bool) (word : Nat) : Double :=
  ⟨UInt64.ofNat ((if negative then 1 <<< 63 else 0) + min word (2047 <<< 52))⟩

def zero (negative : Bool) : Double := ofWord negative 0

def infinity (negative : Bool) : Double := ofWord negative (2047 <<< 52)

def nan : Double := ⟨UInt64.ofNat ((2047 <<< 52) + (1 <<< 51))⟩

/-- The natural number nearest to `num / den`, a tie going to the even one. -/
def nearestEven (num den : Nat) : Nat :=
  let q := num / den
  let r := num % den
  if 2 * r < den then q else if den < 2 * r then q + 1 else q + q % 2

/-- The double nearest to `num / den`, a tie going to the even significand. A significand that
rounds up to `2 ^ 53` carries into the exponent by plain addition. -/
def ofRatio (negative : Bool) (num den : Nat) : Double :=
  let units := num * unitsPerOne
  let scale := (units / den).log2 - 52
  let m := nearestEven units (den <<< scale)
  ofWord negative (if m < 1 <<< 52 then m else ((scale + 1) <<< 52) + (m - (1 <<< 52)))

/-! ## Conversions -/

/-- The double nearest to an integer. -/
def ofInt (n : Int) : Double := ofRatio (n < 0) n.natAbs 1

/-- The double nearest to `digits * 10 ^ exponent`. Exponents so large or so small that no digits of
the given length could reach a finite or a nonzero double are answered without raising the power. -/
def ofDecimal (negative : Bool) (digits : Nat) (exponent : Int) : Double :=
  let reach : Int := (digits.log2 : Int) / 3 + 1 + exponent
  if digits = 0 ∨ reach < -350 then zero negative
  else if 310 < exponent then infinity negative
  else if 0 ≤ exponent then ofRatio negative (digits * Nat.pow 10 exponent.toNat) 1
  else ofRatio negative digits (Nat.pow 10 (-exponent).toNat)

/-- The product of two finite doubles. -/
def mul (x y : Double) : Double :=
  ofRatio (x.isNegative != y.isNegative) (x.magnitude * y.magnitude) (unitsPerOne * unitsPerOne)

/-- The quotient of two finite doubles, the second of which is not zero. -/
def div (x y : Double) : Double :=
  ofRatio (x.isNegative != y.isNegative) x.magnitude y.magnitude

/-- The same number with the sign bit flipped. -/
def neg (x : Double) : Double := ⟨x.bits ^^^ ((1 : UInt64) <<< 63)⟩

end Double

end QueryChain
