import QueryChain.Statement.Select

/-!
# Changing rows

An update assigns constants to fields, and a deletion removes rows; both touch the rows that satisfy
a condition, or all rows if there is none. The assigned values are bound before the constants of the
condition.
-/

namespace QueryChain.Statement

/-- The tokens of a condition that may be absent. -/
def conditionTokens (p : Option Predicate) : Except Error (List Token) :=
  (Predicate.emitAll p.toList).toExcept

/-- The assignments of an update, with commas between them. -/
def assignments : List (String × Value) → Template
  | [] => []
  | [(field, v)] => [.text (field ++ " = "), .hole (.value v)]
  | (field, v) :: rest =>
    .text (field ++ " = ") :: .hole (.value v) :: .text ", " :: assignments rest

/-- Every assigned field must have a name. -/
def checkFields : List (String × Value) → Except Error Unit
  | [] => .ok ()
  | (field, _) :: rest => do
    checkName "update_fields" field
    checkFields rest

/-- The template of an update. -/
def updateTemplate (target : String) (fields : List (String × Value)) (p : Option Predicate) :
    Except Error Template := do
  checkName "update_target" target
  if fields.isEmpty then throw .noAssignments
  checkFields fields
  let condition ← conditionTokens p
  pure (.text ("UPDATE " ++ target ++ " SET ") :: assignments fields ++ whereClause condition)

/-- The template of a deletion. -/
def deleteTemplate (source : String) (p : Option Predicate) : Except Error Template := do
  checkName "source" source
  let condition ← conditionTokens p
  pure (.text ("DELETE FROM " ++ source) :: whereClause condition)

/-- Assigns values to fields of the rows that satisfy a condition. -/
def update (target : String) (fields : List (String × Value)) (p : Option Predicate)
    (d : Dialect) : Except Error Statement := do
  pure ((← updateTemplate target fields p).toStatement d)

/-- Removes the rows that satisfy a condition. -/
def delete (source : String) (p : Option Predicate) (d : Dialect) : Except Error Statement := do
  pure ((← deleteTemplate source p).toStatement d)

end QueryChain.Statement
