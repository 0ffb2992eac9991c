import QueryChain.Row.Basic
import QueryChain.Statement.Template
import QueryChain.Text.CaseFold

/-!
# Databases

A database is known by what it does with commands. Its state is a value that every operation passes
on, so a run is a function of the state it starts from. Results of many rows are handed out through
a cursor, one fetch at a time, until the cursor is released.

A cursor of a `Backend` is finite: `remaining` bounds the rows to come, and a fetch that gives a row
lowers the bound. A bare `Fetcher` promises nothing, and its cursors may go on for ever.
-/

namespace QueryChain

/-- What a fetch gives. -/
inductive Fetch
  | row (raw : RawRow)
  | done
  | failed (message : String)
deriving DecidableEq

/-- How a cursor of type `γ` is read in a state of type `σ`. -/
structure Fetcher (σ γ : Type) where
  fetch : γ → σ → Fetch × γ × σ
  /-- Gives the cursor back. -/
  release : γ → σ → σ

/-- A database with states of type `σ` and cursors of type `γ`. -/
structure Backend (σ γ : Type) extends Fetcher σ γ where
  isOpen : σ → Bool
  openConnection : σ → Except String Unit × σ
  closeConnection : σ → Except String Unit × σ
  /-- Runs a statement that gives rows. -/
  query : Statement → σ → Except String γ × σ
  /-- Runs a statement for the first value of its first row. -/
  scalar : Statement → σ → Except String Value × σ
  /-- Runs a statement for the number of rows that it changed. -/
  change : Statement → σ → Except String UInt64 × σ
  remaining : γ → Nat
  remaining_lt : ∀ {c c' : γ} {s s' : σ} {raw : RawRow},
    fetch c s = (.row raw, c', s') → remaining c' < remaining c

/-- The first name that occurred before, in any case. `seen` holds the names so far, folded. -/
def repeatedName? (seen : List String) : List String → Option String
  | [] => none
  | name :: rest =>
    if Text.fold name ∈ seen then some name else repeatedName? (Text.fold name :: seen) rest

/-- A command must not bind one name twice. -/
def checkUnique (parameters : List Parameter) : Except String Unit :=
  match repeatedName? [] (parameters.map Parameter.name) with
  | some name => .error ("The variable name '" ++ name ++ "' has already been declared.")
  | none => .ok ()

/-- The message for a command on a connection that is not open. -/
def notOpen : String := "connection is not open"

/-- Nothing but a message, after a check of the parameter names. -/
def refuse {α : Type} (t : Statement) : Except String α := do
  checkUnique t.parameters
  throw notOpen

/-- A connection that was never opened and cannot be: there is no client for any database here. -/
def Backend.unreachable : Backend Unit Empty where
  fetch c _ := c.elim
  release c _ := c.elim
  isOpen _ := false
  openConnection s := (.error "no database client is available", s)
  closeConnection s := (.ok (), s)
  query t s := (refuse t, s)
  scalar t s := (refuse t, s)
  change t s := (refuse t, s)
  remaining c := c.elim
  remaining_lt {c} := c.elim

end QueryChain
