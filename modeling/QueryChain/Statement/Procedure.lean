import QueryChain.Predicate.Build
import QueryChain.Statement.Template

/-!
# Calling stored procedures

A procedure is called in a batch that catches its return code. Its parameters have the caller's
names and not generated ones: an `@` in front is added, and is not doubled where the caller wrote
one. Names are unique without regard to case.
-/

namespace QueryChain.Statement

/-- The name of a parameter without any `@` in front. -/
def bareName (key : String) : String := String.ofList (key.toList.dropWhile (· == '@'))

/-- The parameters for the caller's keys. `seen` holds the names so far, folded. -/
def procedureParameters (seen : List String) :
    List (String × Value) → Except Error (List Parameter)
  | [] => .ok []
  | (key, v) :: rest => do
    checkName "parameters" (bareName key)
    let name := "@" ++ bareName key
    if Text.fold name ∈ seen then throw (.duplicateParameter name)
    let parameters ← procedureParameters (Text.fold name :: seen) rest
    pure (⟨name, v⟩ :: parameters)

/-- The parameters as arguments of a call, with a blank in front. -/
def argumentText (parameters : List Parameter) : String :=
  if parameters.isEmpty then "" else " " ++ ", ".intercalate (parameters.map Parameter.name)

/-- The batch that calls a procedure and selects its return code. -/
def procedure (name : String) (arguments : List (String × Value)) (d : Dialect) :
    Except Error Statement := do
  checkName "procedure_name" name
  if !d.supportsProcedures then throw (.noProcedures d.name)
  let parameters ← procedureParameters [] arguments
  pure ⟨"DECLARE @return_value int; EXEC @return_value = " ++ name ++ argumentText parameters ++
    "; SELECT 'Return Value' = @return_value", parameters⟩

end QueryChain.Statement
