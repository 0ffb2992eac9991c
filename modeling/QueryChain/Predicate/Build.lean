import QueryChain.Error
import QueryChain.Predicate.Basic
import QueryChain.Text.Blank

/-!
# Building predicates

Each builder checks its arguments, so that a malformed predicate is refused where it is built and
not when a statement is made from it. The name of the member is checked before the constant.
-/

namespace QueryChain

/-- A name must hold a character that is no blank. `param` is named in the error. -/
def checkName (param name : String) : Except Error Unit :=
  if Text.allBlank name then .error (.blankMember param) else .ok ()

namespace Predicate

/-! ## Tests of one member -/

/-- A comparison of a member with a constant, for a name that is not blank. -/
def compareMember (op : CompareOp) (name : String) (v : Value) : Except Error Predicate := do
  checkName "member" name
  pure (.compare op (.member name) (.literal v))

/-- A comparison by order, which needs a value of an ordered type. `words` names the comparison in
the error. -/
def compareOrdered (op : CompareOp) (words name : String) (v : Value) : Except Error Predicate := do
  checkName "member" name
  if !v.isOrdered then throw (.unorderedType v.typeName words)
  if v.isNull then throw (.unorderedNull words)
  compareMember op name v

/-- A test of a boolean column; no value tests for null. -/
def isBool (name : String) (b : Option Bool) : Except Error Predicate := do
  checkName "member" name
  pure (.boolEquals name b)

/-- Equality. A boolean constant gives a test of a boolean column. -/
def equals (name : String) (v : Value) : Except Error Predicate :=
  match v with
  | .bool b => isBool name (some b)
  | v => compareMember .eq name v

/-- Inequality. A boolean constant gives the negation of a test of a boolean column. -/
def notEquals (name : String) (v : Value) : Except Error Predicate :=
  match v with
  | .bool b => do pure (.not (← isBool name (some b)))
  | v => compareMember .ne name v

def greaterThan : String → Value → Except Error Predicate :=
  compareOrdered .gt "greater than"

def greaterOrEqual : String → Value → Except Error Predicate :=
  compareOrdered .ge "greater than or equal"

def lessThan : String → Value → Except Error Predicate :=
  compareOrdered .lt "less than"

def lessOrEqual : String → Value → Except Error Predicate :=
  compareOrdered .le "less than or equal"

/-- A search for a string in a column of strings. -/
def matching (kind : StringMatch) (name literal : String) : Except Error Predicate := do
  checkName "member" name
  pure (.like kind name literal)

/-- Membership in a set that is not empty. -/
def isIn (name : String) (values : List Value) : Except Error Predicate := do
  checkName "member" name
  if values.isEmpty then throw .emptyCollection
  pure (.inSet name values)

/-- Absence from a set that is not empty. -/
def isNotIn (name : String) (values : List Value) : Except Error Predicate := do
  pure (.not (← isIn name values))

/-! ## Combinations -/

/-- Combines the predicates that follow those already in `acc`; `index` counts the latter. -/
def combineFrom (f : Predicate → Predicate → Predicate) (acc : Option Predicate) (index : Nat) :
    List (Option Predicate) → Except Error Predicate
  | [] => match acc with
    | some p => .ok p
    | none => .error .noPredicates
  | none :: _ => .error (.missingPredicate index)
  | some p :: rest =>
    combineFrom f (some (match acc with | some q => f q p | none => p)) (index + 1) rest

/-- The grouped conjunction of all predicates, from left to right. None may be missing, and there
must be one at least. -/
def allOf (ps : List (Option Predicate)) : Except Error Predicate := combineFrom .and none 0 ps

/-- The grouped disjunction of all predicates, from left to right. None may be missing, and there
must be one at least. -/
def anyOf (ps : List (Option Predicate)) : Except Error Predicate := combineFrom .or none 0 ps

end Predicate

end QueryChain
