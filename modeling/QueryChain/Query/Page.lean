import QueryChain.Query.Basic

/-!
# Pages

The skips and takes of a chain add up to one page: the skips are summed and the smallest take
counts. Sums stop at the largest 64-bit number. A page can be asked of the database, or applied to a
number of rows that was counted without it.
-/

namespace QueryChain

/-- How many rows are left out, and how many are kept at most. -/
structure Page where
  skip : Option UInt64 := none
  take : Option UInt64 := none
deriving DecidableEq

/-- The sum of two unsigned numbers, or the largest number if the sum is larger. -/
def saturatingAdd (a b : UInt64) : UInt64 :=
  UInt64.ofNat (min (a.toNat + b.toNat) (UInt64.size - 1))

/-- The difference of two signed numbers, or the nearest signed number to it. -/
def saturatingSub (a b : Int64) : Int64 :=
  Int64.ofInt (max Int64.minValue.toInt (min (a.toInt - b.toInt) Int64.maxValue.toInt))

/-- The nearest signed number to an unsigned one. -/
def clampSigned (n : UInt64) : Int64 :=
  if n ≤ Int64.maxValue.toUInt64 then n.toInt64 else Int64.maxValue

namespace Page

/-- The page after one more operator. -/
def apply (page : Page) : Operator → Page
  | .skip n => { page with skip := some (saturatingAdd (page.skip.getD 0) n) }
  | .take n => { page with take := some (match page.take with | some t => min t n | none => n) }
  | _ => page

/-- The page of a chain of operators. -/
def ofOperators (ops : List Operator) : Page := ops.foldl apply {}

/-- The page of a query. -/
def ofQuery (q : Query) : Page := ofOperators q.operators

/-- How many of `count` rows are on the page. -/
def adjustCount (page : Page) (count : Int64) : Int64 :=
  let skipped := max (saturatingSub count ((page.skip.map clampSigned).getD 0)) 0
  match page.take with
  | some t => min skipped (clampSigned t)
  | none => skipped

end Page

end QueryChain
