import QueryChain.Value.Basic

/-!
# Predicates

A predicate is a boolean condition over the members of a row and constants. The tree is open: a bare
member, or a comparison of two members, can be written down although it has no meaning as a
condition. `QueryChain.Predicate.Build` holds the builders that only give meaningful predicates, and
the writing of conditions refuses the rest.

Conjunction and disjunction come in two forms. The grouped form is written between parentheses; the
flat form is written without, and so leans on the precedence of its surroundings.
-/

namespace QueryChain

/-- A comparison between a member and a constant. -/
inductive CompareOp
  | eq
  | ne
  | gt
  | ge
  | lt
  | le
deriving DecidableEq, Repr

namespace CompareOp

/-- The comparison that holds exactly where this one fails, for values that are not null. -/
def negate : CompareOp → CompareOp
  | eq => ne
  | ne => eq
  | gt => le
  | ge => lt
  | lt => ge
  | le => gt

@[simp] theorem negate_negate (op : CompareOp) : op.negate.negate = op := by cases op <;> rfl

/-- The comparison needs ordered values. -/
def isOrdering : CompareOp → Bool
  | eq | ne => false
  | _ => true

@[simp] theorem isOrdering_negate (op : CompareOp) : op.negate.isOrdering = op.isOrdering := by
  cases op <;> rfl

/-- The sign in SQL. -/
def sql : CompareOp → String
  | eq => "="
  | ne => "<>"
  | gt => ">"
  | ge => ">="
  | lt => "<"
  | le => "<="

end CompareOp

/-- Where a string is looked for inside another one. -/
inductive StringMatch
  | contains
  | startsWith
  | endsWith
deriving DecidableEq, Repr

/-- The `LIKE` pattern for a literal: the wildcard `%` stands on the open sides, and nothing in the
literal is escaped. -/
def StringMatch.pattern (m : StringMatch) (literal : String) : String :=
  match m with
  | contains => "%" ++ literal ++ "%"
  | startsWith => literal ++ "%"
  | endsWith => "%" ++ literal

/-- A boolean condition over members and constants. -/
inductive Predicate
  /-- A column of the source. -/
  | member (name : String)
  /-- A constant, bound as a parameter wherever it is used. -/
  | literal (v : Value)
  | not (p : Predicate)
  /-- Grouped conjunction, written `(left AND right)`. -/
  | and (left right : Predicate)
  /-- Grouped disjunction, written `(left OR right)`. -/
  | or (left right : Predicate)
  /-- Flat conjunction, written `left AND right`. -/
  | flatAnd (left right : Predicate)
  /-- Flat disjunction, written `left OR right`. -/
  | flatOr (left right : Predicate)
  | compare (op : CompareOp) (left right : Predicate)
  | like (kind : StringMatch) (member literal : String)
  | inSet (member : String) (values : List Value)
  /-- A test of a boolean column; no value tests for null. -/
  | boolEquals (member : String) (value : Option Bool)
deriving DecidableEq

/-- The name of a predicate that is a bare member. -/
def Predicate.asMember? : Predicate → Option String
  | member name => some name
  | _ => none

end QueryChain
