import QueryChain.Predicate.Basic

/-!
# Operators of a query

A query is a chain of operators over a source. Most of them describe rows; a terminal says what is
to be done with the rows and ends the chain.
-/

namespace QueryChain

/-- The direction of an ordering key. -/
inductive Direction
  | asc
  | desc
deriving DecidableEq, Repr, Inhabited

/-- The keyword in SQL. -/
def Direction.sql : Direction → String
  | asc => "ASC"
  | desc => "DESC"

/-- What is done with the rows of a query. A count or a first row may come with one more condition.
-/
inductive Terminal
  | toList
  | count (p : Option Predicate)
  | first (p : Option Predicate)
  | firstOrDefault (p : Option Predicate)
deriving DecidableEq

namespace Terminal

/-- The condition given with the terminal itself. -/
def predicate? : Terminal → Option Predicate
  | toList => none
  | count p | first p | firstOrDefault p => p

/-- The terminal asks for one row. -/
def isFirst : Terminal → Bool
  | first _ | firstOrDefault _ => true
  | _ => false

/-- The terminal asks for a number. -/
def isCount : Terminal → Bool
  | count _ => true
  | _ => false

end Terminal

/-- One step of a query. -/
inductive Operator
  /-- Keeps the rows that satisfy a condition; several of them keep those that satisfy all. -/
  | filter (p : Predicate)
  /-- Starts a new ordering. -/
  | orderBy (key : Predicate) (direction : Direction)
  /-- Adds a key to the ordering. -/
  | thenBy (key : Predicate) (direction : Direction)
  | skip (count : UInt64)
  | take (count : UInt64)
  /-- Names the columns of the result; the last one in a chain counts. -/
  | selectOnly (fields : List String)
  | terminal (t : Terminal)
deriving DecidableEq

namespace Operator

/-- The name of an operator in messages. -/
def kind : Operator → String
  | filter _ => "Where"
  | orderBy _ .asc => "OrderBy"
  | orderBy _ .desc => "OrderByDescending"
  | thenBy _ .asc => "ThenBy"
  | thenBy _ .desc => "ThenByDescending"
  | skip _ => "Skip"
  | take _ => "Take"
  | selectOnly _ => "SelectOnly"
  | terminal .toList => "ToList"
  | terminal (.count _) => "Count"
  | terminal (.first _) => "First"
  | terminal (.firstOrDefault _) => "FirstOrDefault"

/-- The condition of a filter. -/
def filter? : Operator → Option Predicate
  | filter p => some p
  | _ => none

/-- The columns that are named for the result. -/
def fields? : Operator → Option (List String)
  | selectOnly fields => some fields
  | _ => none

def isTerminal : Operator → Bool
  | terminal _ => true
  | _ => false

end Operator

end QueryChain
