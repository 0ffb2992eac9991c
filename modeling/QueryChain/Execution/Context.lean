import QueryChain.Execution.RowStream
import QueryChain.Statement.Change
import QueryChain.Statement.Procedure

/-!
# Running queries

A context is a database and the dialect it speaks. Running a query always goes through the same
steps: the statement is made, the connection is opened unless it is open, the command is sent, and
the answer is worked on. A statement that cannot be made costs the database nothing.

Counting asks for all rows and applies the page of the query to the number. Asking for one row reads
the result to its end, so that a second row is noticed.
-/

namespace QueryChain

/-- A run in states of type `σ`: its result, or an error, and the state at the end. -/
def Action (σ α : Type) : Type := σ → Except Error α × σ

namespace Action

variable {σ α : Type}

instance : Monad (Action σ) where
  pure a := fun s ↦ (.ok a, s)
  bind x f := fun s ↦
    match x s with
    | (.ok a, s') => f a s'
    | (.error e, s') => (.error e, s')

/-- What only computes leaves the state alone. -/
instance : MonadLift (Except Error) (Action σ) where
  monadLift r := fun s ↦ (r, s)

/-- An operation of the database, whose failures are passed on word for word. -/
def ofBackend (f : σ → Except String α × σ) : Action σ α := fun s ↦
  match f s with
  | (.ok a, s') => (.ok a, s')
  | (.error m, s') => (.error (.driver m), s')

end Action

/-- A database and its dialect. -/
structure Context (σ γ : Type) where
  backend : Backend σ γ
  dialect : Dialect := .sqlServer

/-- The number of rows on the page of a query, from the number of all rows. -/
def Query.adjustedCount (q : Query) (total : Value) : Except Error Int64 :=
  match total.asInt64? with
  | some n => .ok ((Page.ofQuery q).adjustCount n)
  | none => .error (.countNotInteger total.text)

/-- The row that was asked for, which must be there. -/
def Query.required (q : Query) : Option Row → Except Error Row
  | some r => .ok r
  | none => .error (.noRow q.source.name)

namespace Context

variable {σ γ : Type} (ctx : Context σ γ)

/-- The statement that a terminal would send. -/
def statementFor (q : Query) (t : Terminal) : Except Error Statement :=
  (q.terminate t).toStatement ctx.dialect

/-- Opens the connection unless it is open. -/
def ensureOpen : Action σ Unit := fun s ↦
  if ctx.backend.isOpen s then (.ok (), s) else Action.ofBackend ctx.backend.openConnection s

/-- Closes the connection if it is open. -/
def close : Action σ Unit := fun s ↦
  if ctx.backend.isOpen s then Action.ofBackend ctx.backend.closeConnection s else (.ok (), s)

/-! ## Statements that were made already -/

/-- Sends a statement and streams its rows. -/
def streamRows (t : Statement) : Action σ (RowStream γ) := do
  ctx.ensureOpen
  let c ← Action.ofBackend (ctx.backend.query t)
  pure (.ofCursor c)

/-- Sends a statement for one value. -/
def scalarOf (t : Statement) : Action σ Value := do
  ctx.ensureOpen
  Action.ofBackend (ctx.backend.scalar t)

/-- Sends a statement for the number of rows that it changes. -/
def changedBy (t : Statement) : Action σ UInt64 := do
  ctx.ensureOpen
  Action.ofBackend (ctx.backend.change t)

/-- The rows of a stream. -/
def drain (st : RowStream γ) : Action σ (List Row) := fun s ↦
  let (rows, _, s') := st.drain ctx.backend s
  (rows, s')

/-- The only row of a stream. -/
def single (st : RowStream γ) : Action σ (Option Row) := fun s ↦
  let (row, _, s') := st.single ctx.backend none 0 s
  (row, s')

/-! ## Queries -/

/-- Runs a query and streams its rows. -/
def stream (q : Query) : Action σ (RowStream γ) := do
  let t ← ctx.statementFor q .toList
  ctx.streamRows t

/-- The rows of a query. -/
def toList (q : Query) : Action σ (List Row) := do
  let st ← ctx.stream q
  ctx.drain st

/-- The number of rows of a query, with one more condition if one is given. -/
def count (q : Query) (p : Option Predicate) : Action σ Int64 := do
  let t ← ctx.statementFor q (.count p)
  let total ← ctx.scalarOf t
  q.adjustedCount total

/-- The first row of a query, which must exist. -/
def first (q : Query) (p : Option Predicate) : Action σ Row := do
  let t ← ctx.statementFor q (.first p)
  let st ← ctx.streamRows t
  let row ← ctx.single st
  q.required row

/-- The first row of a query, if there is one. -/
def firstOrDefault (q : Query) (p : Option Predicate) : Action σ (Option Row) := do
  let t ← ctx.statementFor q (.firstOrDefault p)
  let st ← ctx.streamRows t
  ctx.single st

/-! ## Procedures and changes -/

/-- Calls a stored procedure; the rows are those of its return code. -/
def callProcedure (name : String) (arguments : List (String × Value)) : Action σ (List Row) := do
  let t ← Statement.procedure name arguments ctx.dialect
  let st ← ctx.streamRows t
  ctx.drain st

/-- Assigns fields of the rows that satisfy a condition, and counts them. -/
def update (target : String) (fields : List (String × Value)) (p : Option Predicate) :
    Action σ UInt64 := do
  let t ← Statement.update target fields p ctx.dialect
  ctx.changedBy t

/-- Removes the rows that satisfy a condition, and counts them. -/
def remove (source : String) (p : Option Predicate) : Action σ UInt64 := do
  let t ← Statement.delete source p ctx.dialect
  ctx.changedBy t

end Context

end QueryChain
