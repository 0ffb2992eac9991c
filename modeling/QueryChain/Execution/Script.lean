import QueryChain.Execution.Async

/-!
# Scripted databases

A scripted database answers commands from a queue of replies, and keeps a record: the commands that
reached it, how often it was opened and closed, how many cursors are held and how many fetches were
made. Opening and closing can be made to fail once, a result can fail after its last row, and a
cursor can set a cancellation flag while it is read. With it every run of a context can be followed.

A result that fails after its last row is meant for a cursor. Whether it also answers a statement
that gives no rows depends on the database: one that is strict refuses it, and any other looks at
the rows and never meets the failure.
-/

namespace QueryChain

/-- What a scripted database answers to a command. -/
inductive Reply
  /-- Rows, and a failure after the last of them if a message is given. -/
  | rows (rows : List RawRow) (failure : Option String)
  | scalar (v : Value)
  | affected (n : UInt64)
  | failed (message : String)
deriving DecidableEq

namespace Reply

/-- The rows with which a database answers a statement that gives no rows. -/
def settledRows? (strict : Bool) : Reply → Option (List RawRow)
  | rows rs failure => if strict && failure.isSome then none else some rs
  | _ => none

/-- The value in a reply, or the first value in its rows. -/
def value? (strict : Bool) : Reply → Option Value
  | scalar v => some v
  | reply => do
    let rs ← reply.settledRows? strict
    pure (((rs.head?.bind List.head?).map Prod.snd).getD .null)

/-- The number of rows in a reply; no rows count as zero. -/
def count? (strict : Bool) : Reply → Option UInt64
  | affected n => some n
  | reply => do
    let rs ← reply.settledRows? strict
    if rs.isEmpty then pure 0 else none

end Reply

/-- A flag that a cursor sets at the first fetch after `rows` rows were read from it. -/
structure FlagSetter where
  rows : Nat
  flag : Nat
deriving DecidableEq

/-- The state of a scripted database. -/
structure Script where
  replies : List Reply := []
  isOpen : Bool := false
  opens : Nat := 0
  closes : Nat := 0
  /-- The message with which the next opening fails. -/
  openFailure : Option String := none
  /-- The message with which the next closing fails. -/
  closeFailure : Option String := none
  /-- What the next cursor sets while it is read. -/
  setter : Option FlagSetter := none
  /-- The commands so far, the oldest first. -/
  commands : List Statement := []
  /-- The number of cursors that are held. -/
  liveCursors : Nat := 0
  /-- The number of fetches so far. -/
  fetches : Nat := 0
  /-- The cancellation flags. -/
  flags : List Bool := []
  /-- Rows that end in a failure are no answer to a statement that gives no rows. -/
  strict : Bool := false
deriving DecidableEq

namespace Script

/-! ## Cursors -/

/-- A cursor over the rows of a reply. -/
structure Cursor where
  rows : List RawRow
  /-- The failure of the fetch after the last row. -/
  failure : Option String
  /-- How many rows were read. -/
  read : Nat := 0
  setter : Option FlagSetter := none
deriving DecidableEq

/-- Sets a cancellation flag. -/
def setFlag (s : Script) (flag : Nat) : Script := { s with flags := s.flags.set flag true }

/-- Adds a cancellation flag that is not set, and gives its number. -/
def addFlag (s : Script) : Nat × Script :=
  (s.flags.length, { s with flags := s.flags ++ [false] })

/-- The token for a flag. -/
def token (flag : Nat) : CancellationToken Script := ⟨fun s ↦ s.flags.getD flag false⟩

/-- The state after a fetch has begun: it is counted, and the flag of the cursor is set if it is
time. -/
def beginFetch (c : Cursor) (s : Script) : Script :=
  let s := { s with fetches := s.fetches + 1 }
  match c.setter with
  | some w => if w.rows ≤ c.read then s.setFlag w.flag else s
  | none => s

def fetch (c : Cursor) (s : Script) : Fetch × Cursor × Script :=
  let s := beginFetch c s
  match c.rows with
  | raw :: rest => (.row raw, { c with rows := rest, read := c.read + 1 }, s)
  | [] =>
    match c.failure with
    | some m => (.failed m, { c with failure := none }, s)
    | none => (.done, c, s)

def release (_ : Cursor) (s : Script) : Script := { s with liveCursors := s.liveCursors - 1 }

theorem fetch_row_lt {c c' : Cursor} {s s' : Script} {raw : RawRow}
    (h : fetch c s = (.row raw, c', s')) : c'.rows.length < c.rows.length := by
  rcases c with ⟨_ | ⟨r, rest⟩, _ | m, n, w⟩ <;> simp [fetch] at h
  all_goals
    obtain ⟨-, rfl, -⟩ := h
    simp

/-! ## Commands -/

def openConnection (s : Script) : Except String Unit × Script :=
  let s := { s with opens := s.opens + 1 }
  match s.openFailure with
  | some m => (.error m, { s with openFailure := none })
  | none => (.ok (), { s with isOpen := true })

def closeConnection (s : Script) : Except String Unit × Script :=
  let s := { s with closes := s.closes + 1 }
  match s.closeFailure with
  | some m => (.error m, { s with closeFailure := none })
  | none => (.ok (), { s with isOpen := false })

/-- Takes the reply to a command. The connection must be open and the parameter names unique, or
else the command is not recorded. An empty queue answers with no rows. -/
def execute (t : Statement) (s : Script) : Except String Reply × Script :=
  if !s.isOpen then (.error notOpen, s)
  else match checkUnique t.parameters with
    | .error m => (.error m, s)
    | .ok () =>
      let s := { s with commands := s.commands ++ [t] }
      match s.replies with
      | [] => (.ok (.rows [] none), s)
      | .failed m :: rest => (.error m, { s with replies := rest })
      | reply :: rest => (.ok reply, { s with replies := rest })

/-- A command is recorded and answered from the queue, and all else stays as it was. -/
theorem exists_execute_snd (t : Statement) (s : Script) :
    ∃ commands replies, (execute t s).2 = { s with commands, replies } := by
  rw [execute]
  by_cases hopen : (!s.isOpen) = true
  · rw [if_pos hopen]
    exact ⟨_, _, rfl⟩
  rw [if_neg hopen]
  rcases checkUnique t.parameters with m | _
  · exact ⟨_, _, rfl⟩
  rcases s with ⟨_ | ⟨⟨rows, failure⟩ | v | n | m, replies⟩, isOpen⟩ <;> exact ⟨_, _, rfl⟩

/-- Runs a statement whose reply must be rows. The cursor takes over what the next one is to set. -/
def query (t : Statement) (s : Script) : Except String Cursor × Script :=
  match execute t s with
  | (.ok (.rows rows failure), s) =>
    (.ok ⟨rows, failure, 0, s.setter⟩,
      { s with setter := none, liveCursors := s.liveCursors + 1 })
  | (.ok _, s) => (.error "expected rows", s)
  | (.error m, s) => (.error m, s)

/-- Runs a statement whose reply must hold a value. -/
def scalar (t : Statement) (s : Script) : Except String Value × Script :=
  match execute t s with
  | (.ok reply, s) => ((reply.value? s.strict).elim (.error "expected a scalar") .ok, s)
  | (.error m, s) => (.error m, s)

/-- Runs a statement whose reply must hold a number of rows. -/
def change (t : Statement) (s : Script) : Except String UInt64 × Script :=
  match execute t s with
  | (.ok reply, s) => ((reply.count? s.strict).elim (.error "expected a count") .ok, s)
  | (.error m, s) => (.error m, s)

/-- A strict database does not answer a statement that gives no rows with rows that end in a
failure. -/
theorem refuses_of_strict {t : Statement} {s s' : Script} {rs : List RawRow} {m : String}
    (hstrict : s.strict = true) (h : execute t s = (.ok (.rows rs (some m)), s')) :
    scalar t s = (.error "expected a scalar", s') ∧ change t s = (.error "expected a count", s') := by
  obtain ⟨commands, replies, hsnd⟩ := exists_execute_snd t s
  rw [h] at hsnd
  have hs' : s'.strict = true := (congrArg Script.strict hsnd).trans hstrict
  simp [scalar, change, h, hs', Reply.value?, Reply.count?, Reply.settledRows?]

/-- Scripted databases as a backend. -/
def backend : Backend Script Cursor where
  fetch := fetch
  release := release
  isOpen := Script.isOpen
  openConnection := openConnection
  closeConnection := closeConnection
  query := query
  scalar := scalar
  change := change
  remaining c := c.rows.length
  remaining_lt := fetch_row_lt

end Script

end QueryChain
