/-!
# Errors

Every operation that can fail answers with an `Error`: what went wrong, and the data that its
message shows. The first three kinds are *usage errors*. They are raised while a query is built and
blame the caller; the others come from the outside world.

The causes that the library itself raises are named here, so that their wording stands in one place.
-/

namespace QueryChain

/-- What went wrong. -/
inductive Error
  /-- An argument is missing, blank or empty. -/
  | invalidArgument (param message : String)
  /-- The call does not fit the shape of the query or predicate. -/
  | invalidOperation (message : String)
  /-- A value is of a type that no parameter can hold. -/
  | unsupportedType (param typeName : String)
  /-- The object has no such operation. -/
  | notSupported (message : String)
  /-- A row was required and there is none. -/
  | notFound (message : String)
  /-- There are more rows than were allowed. -/
  | cardinality (expected actual : Nat)
  /-- A cancellation token was set. -/
  | cancelled
  /-- A filter text is malformed at a byte offset. -/
  | parse (position : Nat) (message : String)
  /-- A setting is malformed. -/
  | config (message : String)
  /-- A file could not be read. -/
  | io (message : String)
  /-- The database reported a failure. -/
  | driver (message : String)
deriving DecidableEq, Repr

namespace Error

/-- The message that a user sees. A failure of the database is passed on word for word. -/
def message : Error → String
  | invalidArgument param message => "Invalid argument '" ++ param ++ "': " ++ message
  | invalidOperation message => "Invalid operation: " ++ message
  | unsupportedType param typeName =>
    "Unsupported type for '" ++ param ++ "': " ++ typeName
  | notSupported message => "Not supported: " ++ message
  | notFound message => "Data not found: " ++ message
  | cardinality expected actual =>
    "Unexpected row count: expected at most " ++ toString expected ++ ", got " ++ toString actual
  | cancelled => "Operation was cancelled"
  | parse position message =>
    "Parse error at position " ++ toString position ++ ": " ++ message
  | config message => "Configuration error: " ++ message
  | io message => "IO error: " ++ message
  | driver message => message

/-- The error blames the caller of a builder, before any statement is sent. -/
def isUsage : Error → Bool
  | invalidArgument .. | invalidOperation .. | unsupportedType .. => true
  | _ => false

/-! ## Causes raised by the library -/

/-- A member name is blank. -/
def blankMember (param : String) : Error :=
  .invalidArgument param "member name must not be empty or whitespace"

/-- The name of a table or view is blank. -/
def blankSource : Error :=
  .invalidArgument "source" "source name must not be empty or whitespace"

/-- The name of a table-valued function is blank. -/
def blankFunction : Error :=
  .invalidArgument "function_name" "function name must not be empty or whitespace"

/-- One of the selected fields is blank. -/
def blankField : Error :=
  .invalidArgument "field_names" "field name must not be empty or whitespace"

/-- No field is selected. -/
def noFields : Error :=
  .invalidArgument "field_names" "at least one field must be selected"

/-- A number of rows to skip or take is not positive. -/
def countBelowOne (count : Int) : Error :=
  .invalidArgument "count" ("count must be at least 1, got " ++ toString count)

/-- A set to look a member up in is empty. -/
def emptyCollection : Error :=
  .invalidArgument "values" "collection must contain at least one value"

/-- There is nothing to combine. -/
def noPredicates : Error :=
  .invalidArgument "predicates" "at least one predicate is required"

/-- One of the predicates to combine is missing. -/
def missingPredicate (index : Nat) : Error :=
  .invalidOperation ("predicate at index " ++ toString index ++ " is missing")

/-- Values of this type have no order. -/
def unorderedType (typeName comparison : String) : Error :=
  .invalidOperation ("values of type " ++ typeName ++ " can't be compared with " ++ comparison)

/-- `NULL` has no place in an order. -/
def unorderedNull (comparison : String) : Error :=
  .invalidOperation ("NULL can't be compared with " ++ comparison)

/-- A key to order by is no member. -/
def orderKeyNotMember : Error :=
  .invalidOperation "ordering key must be a member access"

/-- A terminal is followed by further operators. -/
def terminalNotLast (kind : String) : Error :=
  .invalidOperation ("'" ++ kind ++ "' must be the last operator of a query")

/-- A member stands where a condition is needed. -/
def memberNotCondition (name : String) : Error :=
  .invalidOperation ("member '" ++ name ++ "' is not a boolean condition")

/-- A constant stands where a condition is needed. -/
def constantNotCondition (text : String) : Error :=
  .invalidOperation ("constant " ++ text ++ " is not a boolean condition")

/-- Two members are compared with each other. -/
def memberWithMember (left right : String) : Error :=
  .invalidOperation
    ("comparing member '" ++ left ++ "' with member '" ++ right ++ "' is not supported")

/-- A comparison has other sides than one member and one constant. -/
def comparisonSides : Error :=
  .invalidOperation "comparisons must relate one member to one constant"

/-- `NULL` is compared by order. -/
def nullWithOrder (sign : String) : Error :=
  .invalidOperation ("NULL can't be used with '" ++ sign ++ "'")

/-- An `IN` list is empty. -/
def emptyInList (name : String) : Error :=
  .invalidOperation ("IN list for '" ++ name ++ "' is empty")

/-- No field is assigned. -/
def noAssignments : Error :=
  .invalidArgument "update_fields" "at least one field must be updated"

/-- The dialect has no stored procedures. -/
def noProcedures (dialect : String) : Error :=
  .invalidOperation ("stored procedures are not available for " ++ dialect)

/-- Two parameters of a stored procedure have the same name. -/
def duplicateParameter (name : String) : Error :=
  .invalidArgument "parameters" ("parameter '" ++ name ++ "' already exists")

/-- A count came back as something other than an integer. -/
def countNotInteger (text : String) : Error :=
  .invalidOperation ("COUNT(*) returned a non-integer value: " ++ text)

/-- No row of the source matches. -/
def noRow (source : String) : Error :=
  .notFound ("no row of '" ++ source ++ "' matches the query")

/-- A stream of rows is asked to start over. -/
def streamReset : Error :=
  .notSupported "row streams are forward-only and can't be reset"

/-- No dialect has this name. -/
def unknownDialect (name : String) : Error :=
  .config ("unknown dialect '" ++ name ++ "'")

end Error

end QueryChain
