import QueryChain.Proofs.Execution.Stages
import QueryChain.Proofs.Statement.Validation

/-!
# Sessions

A session is a caller at work with one context. It builds queries and looks at their statements,
runs operations, closes the connection, and reads the streams that it was given, in any order and
any number of them at a time. Between two steps the database may change from outside: replies come
in, the next opening is made to fail, a token is set.

A session is followed step by step. `Context.step` is one step and says what the caller gets from
it, `Context.after` is the session at the end, and `Context.visits` are all moments at which a step
was taken, which is where a law about every step of a run is stated.
-/

namespace QueryChain

variable {σ γ : Type}

/-! ## Streams in use -/

/-- A stream in the hands of the caller. -/
structure Lease (γ : Type) where
  stream : RowStream γ
  /-- The stream has reported its end or a failure. -/
  isOver : Bool := false

/-- The state of the database, and the streams in the order in which they were opened. A stream that
was dropped leaves a gap. -/
structure Session (σ γ : Type) where
  database : σ
  streams : List (Option (Lease γ)) := []

/-- What can be asked of a stream. -/
inductive StreamCall
  /-- The next row. -/
  | next
  /-- To start over. -/
  | reset
  /-- All rows that are left. -/
  | rest
  /-- To be given up. -/
  | drop

/-- What a step gives to the caller. -/
inductive Report (γ : Type)
  | query (r : Except Error Query)
  | statement (r : Except Error Statement)
  | answer (r : Except Error (Answer γ))
  | finished (r : Except Error Unit)
  | item (r : Option (Except Error Row))
  | rows (r : Except Error (List Row))
  | nothing

/-- A stream that reports this has reported its end or a failure. That it cannot start over is no
failure of the stream. -/
def Report.isLast : Report γ → Bool
  | item none | item (some (.error _)) | rows _ => true
  | _ => false

/-- The streams that a report hands over. -/
def Report.opened : Report γ → List (Option (Lease γ))
  | answer (.ok (.stream st)) => [some ⟨st, false⟩]
  | _ => []

/-- What a stream reports to a call, and the stream after it unless it was given up. -/
def StreamCall.run (b : Backend σ γ) (st : RowStream γ) (s : σ) :
    StreamCall → Report γ × Option (RowStream γ) × σ
  | next =>
    let (r, st', s') := st.next b.toFetcher s
    (.item r, some st', s')
  | reset => (.finished st.reset, some st, s)
  | rest =>
    let (r, st', s') := st.drain b s
    (.rows r, some st', s')
  | drop => (.nothing, none, st.drop b.toFetcher s)

/-- The lease of a stream after a call to it. -/
def Lease.afterCall (lease : Lease γ) (r : Report γ) (st : RowStream γ) : Lease γ :=
  ⟨st, lease.isOver || r.isLast⟩

/-! ## Steps -/

/-- A step of a session. A change from outside may be any. -/
inductive Step (σ : Type)
  | table (name : String)
  | function (name : String) (arguments : List Value)
  | build (q : Query) (c : Query.Call)
  | toSql (q : Query)
  | toSqlFor (q : Query) (t : Terminal)
  | invoke (i : Invocation σ)
  | close
  | closeAsync
  | onStream (n : Nat) (c : StreamCall)
  | outside (f : σ → σ)

namespace Context

variable (ctx : Context σ γ)

/-- One step: what the caller gets, and the session after it. A stream that is not there is not
asked. -/
def step (ses : Session σ γ) : Step σ → Report γ × Session σ γ
  | .table name => (.query ((Source.ofTable name).map (⟨·, []⟩)), ses)
  | .function name arguments => (.query ((Source.ofFunction name arguments).map (⟨·, []⟩)), ses)
  | .build q c => (.query (c.run q), ses)
  | .toSql q => (.statement (q.toStatement ctx.dialect), ses)
  | .toSqlFor q t => (.statement (ctx.statementFor q t), ses)
  | .invoke i =>
    let (r, s') := ctx.invoke i ses.database
    (.answer r, ⟨s', ses.streams ++ (Report.answer r).opened⟩)
  | .close =>
    let (r, s') := ctx.close ses.database
    (.finished r, ⟨s', ses.streams⟩)
  | .closeAsync =>
    let (r, s') := ctx.closeAsync ses.database
    (.finished r, ⟨s', ses.streams⟩)
  | .onStream n c =>
    match ses.streams[n]? with
    | some (some lease) =>
      let (r, st?, s') := c.run ctx.backend lease.stream ses.database
      (r, ⟨s', ses.streams.set n (st?.map (lease.afterCall r))⟩)
    | _ => (.nothing, ses)
  | .outside f => (.nothing, ⟨f ses.database, ses.streams⟩)

/-- The session after a sequence of steps. -/
def after (ses : Session σ γ) (steps : List (Step σ)) : Session σ γ :=
  steps.foldl (fun ses x ↦ (ctx.step ses x).2) ses

/-- The steps of a run, each with the session in which it is taken. -/
def visits (ses : Session σ γ) : List (Step σ) → List (Session σ γ × Step σ)
  | [] => []
  | x :: steps => (ses, x) :: visits (ctx.step ses x).2 steps

@[simp] theorem after_nil (ses : Session σ γ) : ctx.after ses [] = ses := rfl

@[simp] theorem after_cons (ses : Session σ γ) (x : Step σ) (steps : List (Step σ)) :
    ctx.after ses (x :: steps) = ctx.after (ctx.step ses x).2 steps :=
  rfl

end Context

end QueryChain
