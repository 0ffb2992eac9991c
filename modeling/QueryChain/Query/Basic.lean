import QueryChain.Predicate.Build
import QueryChain.Query.Operator

/-!
# Queries

A query is a source and the chain of operators applied to it so far. Every builder gives a new query
and leaves the old one as it was, so one base query can be continued in several directions.
-/

namespace QueryChain

/-- What the rows come from. -/
inductive Source
  /-- A table or view. -/
  | table (name : String)
  /-- A table-valued function with its arguments. -/
  | function (name : String) (args : List Value)
deriving DecidableEq

namespace Source

def name : Source → String
  | table n | function n _ => n

/-- A table or view whose name is not blank. -/
def ofTable (name : String) : Except Error Source :=
  if Text.allBlank name then .error .blankSource else .ok (.table name)

/-- A table-valued function whose name is not blank. -/
def ofFunction (name : String) (args : List Value) : Except Error Source :=
  if Text.allBlank name then .error .blankFunction else .ok (.function name args)

end Source

/-- A source and the operators applied to it, the oldest first. -/
structure Query where
  source : Source
  operators : List Operator := []
deriving DecidableEq

namespace Query

/-- The query continued by one operator. -/
def append (q : Query) (op : Operator) : Query := { q with operators := q.operators ++ [op] }

@[simp] theorem operators_append (q : Query) (op : Operator) :
    (q.append op).operators = q.operators ++ [op] := rfl

@[simp] theorem source_append (q : Query) (op : Operator) : (q.append op).source = q.source := rfl

def filter (q : Query) (p : Predicate) : Query := q.append (.filter p)

/-- The key must be a member, and its name must not be blank. -/
def checkKey (key : Predicate) : Except Error Unit :=
  match key.asMember? with
  | some name => checkName "key" name
  | none => .error .orderKeyNotMember

/-- Orders by a key alone. -/
def orderByKey (q : Query) (key : Predicate) (direction : Direction) : Except Error Query := do
  checkKey key
  pure (q.append (.orderBy key direction))

/-- Orders by a key where the keys so far are equal. -/
def thenByKey (q : Query) (key : Predicate) (direction : Direction) : Except Error Query := do
  checkKey key
  pure (q.append (.thenBy key direction))

def orderBy (q : Query) (member : String) : Except Error Query :=
  q.orderByKey (.member member) .asc

def orderByDescending (q : Query) (member : String) : Except Error Query :=
  q.orderByKey (.member member) .desc

def thenBy (q : Query) (member : String) : Except Error Query :=
  q.thenByKey (.member member) .asc

def thenByDescending (q : Query) (member : String) : Except Error Query :=
  q.thenByKey (.member member) .desc

/-- A number of rows, which must be one at least. -/
def positive (count : Int64) : Except Error UInt64 :=
  if count < 1 then .error (.countBelowOne count.toInt) else .ok count.toUInt64

def skip (q : Query) (count : Int64) : Except Error Query := do
  pure (q.append (.skip (← positive count)))

def take (q : Query) (count : Int64) : Except Error Query := do
  pure (q.append (.take (← positive count)))

/-- Names the columns of the result. There must be one at least, and none may be blank. -/
def selectOnly (q : Query) (fields : List String) : Except Error Query :=
  if fields.any Text.allBlank then .error .blankField
  else if fields.isEmpty then .error .noFields
  else .ok (q.append (.selectOnly fields))

/-- Ends the query. -/
def terminate (q : Query) (t : Terminal) : Query := q.append (.terminal t)

/-- The terminal that ends the query, if it has ended. -/
def terminal? (q : Query) : Option Terminal :=
  match q.operators.getLast? with
  | some (.terminal t) => some t
  | _ => none

@[simp] theorem terminal?_terminate (q : Query) (t : Terminal) :
    (q.terminate t).terminal? = some t := by
  simp [terminal?, terminate]

/-- The operators in front of the terminal, and the terminal; a query that has not ended is read as
a list. A terminal anywhere else is an error. -/
def split (q : Query) : Except Error (List Operator × Terminal) :=
  let (body, t) := match q.terminal? with
    | some t => (q.operators.dropLast, t)
    | none => (q.operators, .toList)
  match body.find? Operator.isTerminal with
  | some op => .error (.terminalNotLast op.kind)
  | none => .ok (body, t)

end Query

end QueryChain
