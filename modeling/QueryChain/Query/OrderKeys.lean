import QueryChain.Query.Basic

/-!
# Ordering and projection of a chain

An ordering starts over at each `orderBy` and grows at each `thenBy`; the last `selectOnly` names
the columns. A key that is no member is an error even if a later `orderBy` would discard it.
-/

namespace QueryChain

/-- The name of a key that must be a member. -/
def keyName (key : Predicate) : Except Error String :=
  match key.asMember? with
  | some name => .ok name
  | none => .error .orderKeyNotMember

/-- The keys in force after the operators, given those in force before them. -/
def orderKeysFrom (keys : List (String × Direction)) :
    List Operator → Except Error (List (String × Direction))
  | [] => .ok keys
  | .orderBy key direction :: rest => do
    let name ← keyName key
    orderKeysFrom [(name, direction)] rest
  | .thenBy key direction :: rest => do
    let name ← keyName key
    orderKeysFrom (keys ++ [(name, direction)]) rest
  | _ :: rest => orderKeysFrom keys rest

/-- The ordering keys of a chain, the primary one first. -/
def orderKeys (ops : List Operator) : Except Error (List (String × Direction)) :=
  orderKeysFrom [] ops

/-- The list of keys in SQL. -/
def orderText (keys : List (String × Direction)) : String :=
  ", ".intercalate (keys.map fun k ↦ k.1 ++ " " ++ k.2.sql)

/-- The columns that a chain names, if it names any. -/
def selectedFields (ops : List Operator) : Option (List String) :=
  (ops.filterMap Operator.fields?).getLast?

/-- The list of columns in SQL; a star stands for all of them. -/
def projectionText : Option (List String) → String
  | some fields => ", ".intercalate fields
  | none => "*"

end QueryChain
