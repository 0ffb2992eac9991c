import QueryChain.Error
import QueryChain.Text.CaseFold
import QueryChain.Value.Basic

/-!
# Dialects of SQL

Statements are written for SQL Server, which is the default, or for PostgreSQL. The two differ in
how a parameter is referred to, in how a boolean is compared, in whether `TOP` can limit a
statement, and in whether stored procedures can be called.
-/

namespace QueryChain

/-- A dialect of SQL. -/
inductive Dialect
  | sqlServer
  | postgres
deriving DecidableEq, Repr, Inhabited

namespace Dialect

/-- The name of a dialect in settings and messages. -/
def name : Dialect → String
  | sqlServer => "sqlserver"
  | postgres => "postgres"

/-- The text that refers to a parameter: its name, or its position counted from one. -/
def placeholder (d : Dialect) (name : String) (position : Nat) : String :=
  match d with
  | sqlServer => name
  | postgres => "$" ++ toString position

/-- `SELECT TOP n` is available. -/
def supportsTop : Dialect → Bool
  | sqlServer => true
  | postgres => false

/-- Stored procedures can be called and give a return code. -/
def supportsProcedures : Dialect → Bool
  | sqlServer => true
  | postgres => false

/-- The parameter that a boolean column is compared with. SQL Server holds such columns as the
numbers 0 and 1. -/
def boolValue (d : Dialect) (b : Bool) : Value :=
  match d with
  | sqlServer => .int32 (if b then 1 else 0)
  | postgres => .bool b

/-- The dialect with the given name, in any case. -/
def ofName (s : String) : Except Error Dialect :=
  let n := Text.fold s
  if n = "sqlserver" ∨ n = "mssql" ∨ n = "tsql" then .ok sqlServer
  else if n = "postgres" ∨ n = "postgresql" ∨ n = "pg" then .ok postgres
  else .error (.unknownDialect n)

end Dialect

end QueryChain
