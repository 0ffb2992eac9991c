import QueryChain.Predicate.Build

/-!
# Filters

A filter is a condition as a user writes it down: tests of single members under `NOT`, `AND` and
`OR`. It is turned into a predicate by the same builders that a program calls, so a filter text can
say nothing that a program could not.
-/

namespace QueryChain

/-- A test of one member. -/
inductive Filter.Test
  | compare (op : CompareOp) (v : Value)
  | isNull
  | isNotNull
  | isIn (values : List Value)
  | isNotIn (values : List Value)
  | matching (kind : StringMatch) (literal : String)
deriving DecidableEq

/-- A condition that was read but not yet checked. -/
inductive Filter
  | test (member : String) (t : Filter.Test)
  | not (f : Filter)
  | and (left right : Filter)
  | or (left right : Filter)
deriving DecidableEq

namespace Filter

/-- The builder for a comparison. -/
def buildComparison : CompareOp → String → Value → Except Error Predicate
  | .eq => Predicate.equals
  | .ne => Predicate.notEquals
  | .gt => Predicate.greaterThan
  | .ge => Predicate.greaterOrEqual
  | .lt => Predicate.lessThan
  | .le => Predicate.lessOrEqual

/-- The predicate for a test of the named member. -/
def Test.toPredicate (member : String) : Test → Except Error Predicate
  | compare op v => buildComparison op member v
  | isNull => Predicate.equals member .null
  | isNotNull => Predicate.notEquals member .null
  | isIn values => Predicate.isIn member values
  | isNotIn values => Predicate.isNotIn member values
  | matching kind literal => Predicate.matching kind member literal

/-- The predicate for a filter. The left side is built before the right one. -/
def toPredicate : Filter → Except Error Predicate
  | test member t => t.toPredicate member
  | not f => do pure (.not (← f.toPredicate))
  | and l r => do
    let p ← l.toPredicate
    let q ← r.toPredicate
    Predicate.allOf [some p, some q]
  | or l r => do
    let p ← l.toPredicate
    let q ← r.toPredicate
    Predicate.anyOf [some p, some q]

end Filter

end QueryChain
