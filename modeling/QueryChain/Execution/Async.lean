import QueryChain.Execution.Context

/-!
# Running queries asynchronously

The asynchronous operations take all rows of a result before they answer, and so can be cancelled:
the token is asked before the command is sent and before every fetch. Making the statement comes
first, so an error there is reported even if the token is set.
-/

namespace QueryChain.Context

variable {σ γ : Type} (ctx : Context σ γ)

/-- Opens the connection unless it is open. -/
def ensureOpenAsync : Action σ Unit := fun s ↦
  if ctx.backend.isOpen s then (.ok (), s) else Action.ofBackend ctx.backend.openConnection s

/-- Closes the connection if it is open. -/
def closeAsync : Action σ Unit := fun s ↦
  if ctx.backend.isOpen s then Action.ofBackend ctx.backend.closeConnection s else (.ok (), s)

/-- Sends a statement and takes all its rows, unless the token is set. -/
def collectRows (t : Statement) (token : CancellationToken σ) : Action σ (List Row) := do
  (fun s ↦ (token.check s, s) : Action σ Unit)
  ctx.ensureOpenAsync
  let c ← Action.ofBackend (ctx.backend.query t)
  ctx.backend.collect token c

/-! ## Queries -/

def toListAsync (q : Query) (token : CancellationToken σ) : Action σ (List Row) := do
  let t ← ctx.statementFor q .toList
  ctx.collectRows t token

def countAsync (q : Query) (p : Option Predicate) : Action σ Int64 := do
  let t ← ctx.statementFor q (.count p)
  ctx.ensureOpenAsync
  let total ← Action.ofBackend (ctx.backend.scalar t)
  q.adjustedCount total

def firstAsync (q : Query) (p : Option Predicate) : Action σ Row := do
  let t ← ctx.statementFor q (.first p)
  let rows ← ctx.collectRows t .none
  let row ← Row.single? rows
  q.required row

def firstOrDefaultAsync (q : Query) (p : Option Predicate) : Action σ (Option Row) := do
  let t ← ctx.statementFor q (.firstOrDefault p)
  let rows ← ctx.collectRows t .none
  Row.single? rows

/-! ## Procedures and changes -/

def callProcedureAsync (name : String) (arguments : List (String × Value))
    (token : CancellationToken σ) : Action σ (List Row) := do
  let t ← Statement.procedure name arguments ctx.dialect
  ctx.collectRows t token

def updateAsync (target : String) (fields : List (String × Value)) (p : Option Predicate) :
    Action σ UInt64 := do
  let t ← Statement.update target fields p ctx.dialect
  ctx.ensureOpenAsync
  Action.ofBackend (ctx.backend.change t)

def removeAsync (source : String) (p : Option Predicate) : Action σ UInt64 := do
  let t ← Statement.delete source p ctx.dialect
  ctx.ensureOpenAsync
  Action.ofBackend (ctx.backend.change t)

end QueryChain.Context
