import QueryChain.CommandLine.Arguments
import QueryChain.Config.Basic
import QueryChain.Execution.Async
import QueryChain.Filter.Reader
import QueryChain.Json.Reader

/-!
# Running the command

A run builds a query from its arguments and then either prints the statement for it or sends it to a
database and prints the result. The connection is closed in every case, and of two errors the one of
the query is reported. Nothing of a result is printed unless all of it is there.
-/

namespace QueryChain.CommandLine

/-! ## Failures -/

/-- Why a run fails. -/
inductive Failure
  | error (e : Error)
  /-- An argument of a function is no scalar. -/
  | inArgument (e : Error)
  /-- A filter cannot be read or has no meaning. -/
  | inFilter (filter : String) (e : Error)
  /-- What follows the last colon of an ordering key is no direction. -/
  | ordering (key : String)
  /-- Queries are sent to PostgreSQL only. -/
  | needsPostgres

namespace Failure

/-- The message of an error, with its cause where it has one: for files, the reason once more. -/
def withCause (e : Error) : String :=
  match e with
  | .io reason => e.message ++ ": " ++ reason
  | e => e.message

/-- The message that a user sees. -/
def message : Failure → String
  | error e => withCause e
  | inArgument e => "invalid --function-arg: " ++ withCause e
  | inFilter filter e => "invalid filter '" ++ filter ++ "': " ++ withCause e
  | ordering key => "invalid ordering '" ++ key ++ "', expected column[:asc|:desc]"
  | needsPostgres =>
    "executing queries needs the postgres dialect; pass --dialect postgres or use --dry-run"

end Failure

/-- What a run leaves behind. -/
structure Outcome where
  code : UInt32 := 0
  stdout : String := ""
  stderr : String := ""
deriving DecidableEq

namespace Outcome

/-- The outcome after a failure, with what was printed before it. -/
def failed (colored : Bool) (printed : String) (f : Failure) : Outcome where
  code := 1
  stdout := printed
  stderr := line ((Style.bold.and .red).paint colored "Error:" ++ " " ++ f.message)

/-- The outcome when the arguments say nothing sensible. -/
def misused : Outcome where
  code := 2
  stderr := line "error: invalid arguments" ++ line "Usage: shadowq [OPTIONS] <SOURCE>"

end Outcome

/-! ## Building the query -/

/-- Lets the errors of the library pass as failures of a certain kind. -/
def blame {α : Type} (f : Error → Failure) : Except Error α → Except Failure α :=
  Except.mapError f

/-- The value that an argument of a function stands for. What is no JSON is a string. -/
def argumentValue (text : String) : Except Failure Value :=
  match Json.ofText? text with
  | some json => blame .inArgument (Value.fromJson "function-arg" json)
  | none => .ok (.string text)

/-- The column and the direction of an ordering key, which are separated by its last colon. -/
def orderKey (key : String) : Except Failure (String × Direction) :=
  let reversed := key.toList.reverse
  match reversed.dropWhile (· != ':') with
  | [] => .ok (key, .asc)
  | _ :: column =>
    let direction := Text.fold (String.ofList (reversed.takeWhile (· != ':')).reverse)
    if direction = "desc" then .ok (String.ofList column.reverse, .desc)
    else if direction = "asc" then .ok (String.ofList column.reverse, .asc)
    else .error (.ordering key)

/-- The query with one more filter. -/
def addFilter (q : Query) (text : String) : Except Failure Query := do
  pure (q.filter (← blame (.inFilter text) (Predicate.ofText text)))

/-- The query with one more ordering key; only the first one starts an ordering. -/
def addOrderKey (q : Query) (isFirst : Bool) (key : String) : Except Failure Query := do
  let (column, direction) ← orderKey key
  blame .error (if isFirst then q.orderByKey (.member column) direction
    else q.thenByKey (.member column) direction)

/-- The query with ordering keys, the first of which starts an ordering. -/
def addOrderKeys (q : Query) : List String → Except Failure Query
  | [] => .ok q
  | key :: rest => do rest.foldlM (addOrderKey · false) (← addOrderKey q true key)

namespace Arguments

/-- The rows that the arguments start from. -/
def base (a : Arguments) : Except Failure Source := do
  if a.functionArguments.isEmpty then blame .error (Source.ofTable a.source)
  else blame .error (Source.ofFunction a.source (← a.functionArguments.mapM argumentValue))

/-- The query that the arguments describe. -/
def query (a : Arguments) : Except Failure Query := do
  let q ← a.filters.foldlM addFilter ⟨← a.base, []⟩
  let q ← addOrderKeys q a.orderKeys
  let q ← blame .error (a.skip.elim (pure q) q.skip)
  let q ← blame .error (a.take.elim (pure q) q.take)
  if a.fields.isEmpty then pure q else blame .error (q.selectOnly a.fields)

end Arguments

/-! ## Printing the statement -/

/-- The text of a statement and its parameters. -/
def statementText (colored : Bool) (t : Statement) : String :=
  line ((Style.bold.and .green).paint colored "Generated SQL:") ++
    line (Style.white.paint colored t.sql) ++
    if t.parameters.isEmpty then ""
    else
      line "" ++ line (Style.cyan.paint colored "Parameters:") ++
        String.join (t.parameters.map fun p ↦
          line ("  " ++ p.name ++ " = " ++ Style.yellow.paint colored p.value.text))

/-- The remark that a statement was only printed because there is no database. -/
def noDatabaseText (colored : Bool) : String :=
  line "" ++ line (Style.yellow.paint colored
    "⚠ No database URL. Use --database-url or set SHADOWQ_DATABASE_URL")

/-! ## Running the query -/

section

variable {σ γ : Type} (ctx : Context σ γ)

/-- Runs a query for its terminal and gives the text of the result. -/
def resultText (q : Query) (t : Terminal) (f : Format) (colored : Bool) : Action σ String := do
  match t with
  | .count _ => do
    let n ← ctx.countAsync q none
    pure (line ((Style.bold.and .cyan).paint colored (toString n.toInt)))
  | .first _ => do
    let row ← ctx.firstAsync q none
    pure (f.text colored [row])
  | .firstOrDefault _ => do
    let row ← ctx.firstOrDefaultAsync q none
    pure (f.text colored row.toList)
  | .toList => do
    let rows ← ctx.toListAsync q .none
    pure (f.text colored rows)

/-- Runs a query, closes the connection, and tells what came of it. -/
def execute (q : Query) (t : Terminal) (f : Format) (colored : Bool) (s : σ) : Outcome × σ :=
  let (result, s) := resultText ctx q t f colored s
  let (closed, s) := ctx.closeAsync s
  match result, closed with
  | .error e, _ => (.failed colored "" (.error e), s)
  | .ok text, .error e => (.failed colored text (.error e), s)
  | .ok text, .ok () => ({ stdout := text }, s)

end

/-! ## The whole run -/

/-- What a run finds around it. -/
structure Environment where
  files : Files
  /-- The user's directory for settings. -/
  userDirectory : Option String := none
  /-- The database that is used unless the arguments name one. -/
  databaseUrl : Option String := none
  colored : Bool := false

/-- Runs a command whose arguments were read. -/
def runArguments (env : Environment) (a : Arguments) : Except Failure Outcome := do
  let config ← blame .error (Config.load env.files env.userDirectory a.config)
  let dialect := a.dialect.getD config.dialect
  let url := (a.databaseUrl <|> env.databaseUrl) <|> config.databaseUrl
  let q ← a.query
  let terminal := a.terminal.getD .toList
  if a.dryRun || url.isNone then
    let t ← blame .error ((q.terminate terminal).toStatement dialect)
    let remark := if a.dryRun then "" else noDatabaseText env.colored
    pure { stdout := statementText env.colored t ++ remark }
  else if dialect ≠ .postgres then
    throw .needsPostgres
  else
    pure (execute ⟨.unreachable, dialect⟩ q terminal (a.format.getD .table) env.colored ()).1

/-- Runs a command. -/
def run (env : Environment) (words : List String) : Outcome :=
  match Arguments.ofWords? words with
  | none => .misused
  | some a =>
    match runArguments env a with
    | .ok outcome => outcome
    | .error f => .failed env.colored "" f

end QueryChain.CommandLine
