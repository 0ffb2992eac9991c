import QueryChain.Execution.Script
import QueryChain.Proofs.Execution.Session

/-!
# The calls of a session

What a session asks of its database is known step by step. Building a query and looking at its
statement asks for nothing, and streams are read through their cursors. An invocation makes the
calls of `Context.dueCalls`, and the five ways in which it can proceed are the constructors of
`Context.Proceeds`. A connection is closed only if it is open.

`Context.record_eq` puts the steps together: the record of a whole run is what the steps ask for,
one after the other. That commands only reach open connections, and that only closed ones are
opened, needs one fact of the database, which is that a connection that was opened is open.
-/

namespace QueryChain

variable {σ γ : Type}

/-! ## The record of a session -/

/-- The same step in states with a record; what changes from outside leaves the record alone. -/
def Step.recorded : Step σ → Step (σ × List Call)
  | table name => table name
  | function name arguments => function name arguments
  | build q c => build q c
  | toSql q => toSql q
  | toSqlFor q t => toSqlFor q t
  | invoke i => invoke i.recorded
  | close => close
  | closeAsync => closeAsync
  | onStream n c => onStream n c
  | outside f => outside fun s ↦ (f s.1, s.2)

/-- The session with a record of the calls so far. -/
def Session.recorded (ses : Session σ γ) (l : List Call) : Session (σ × List Call) γ :=
  ⟨(ses.database, l), ses.streams⟩

namespace Context

variable (ctx : Context σ γ)

/-- The calls of a whole run. -/
def record (ses : Session σ γ) (steps : List (Step σ)) : List Call :=
  (ctx.recorded.after (ses.recorded []) (steps.map Step.recorded)).database.2

/-- The calls of a step. -/
def stepCalls (ses : Session σ γ) : Step σ → List Call
  | .invoke i => ctx.dueCalls i ses.database
  | .close | .closeAsync => if ctx.backend.isOpen ses.database then [.closeConnection] else []
  | _ => []

theorem close_records :
    Action.Records ctx.recorded.close ctx.close fun s ↦
      if ctx.backend.isOpen s then [.closeConnection] else [] := by
  intro s l
  rcases h : ctx.backend.isOpen s with _ | _
  · have h' : ctx.recorded.backend.isOpen (s, l) = false := h
    simp [close, h, h']
  · simp only [close, h, if_true, Action.ofBackend, recorded, Backend.recorded]
    rcases ctx.backend.closeConnection s with ⟨_ | _, _⟩ <;> rfl

theorem closeAsync_eq : ctx.closeAsync = ctx.close := rfl

theorem run_recorded (c : StreamCall) (st : RowStream γ) (s : σ) (l : List Call) :
    c.run ctx.recorded.backend st (s, l) =
      ((c.run ctx.backend st s).1, (c.run ctx.backend st s).2.1, (c.run ctx.backend st s).2.2,
        l) := by
  cases c with
  | next => simp only [StreamCall.run, recorded, RowStream.next_recorded]
  | rest => simp only [StreamCall.run, recorded, RowStream.drain_recorded]
  | reset => rfl
  | drop => rcases st with ⟨_ | _, _⟩ <;> rfl

theorem step_recorded (ses : Session σ γ) (x : Step σ) (l : List Call) :
    ctx.recorded.step (ses.recorded l) x.recorded =
      ((ctx.step ses x).1, (ctx.step ses x).2.recorded (l ++ ctx.stepCalls ses x)) := by
  have hnone (r : Report γ) :
      (r, ses.recorded l) = (r, ses.recorded (l ++ [])) := by rw [List.append_nil]
  cases x with
  | table name | function name arguments | build q c | toSql q | toSqlFor q t => exact hnone _
  | invoke i =>
    simp only [step, Step.recorded, stepCalls, Session.recorded, ctx.invoke_records i _]
  | close =>
    simp only [step, Step.recorded, stepCalls, Session.recorded, ctx.close_records _]
  | closeAsync =>
    simp only [step, Step.recorded, stepCalls, Session.recorded, closeAsync_eq,
      ctx.close_records _]
  | onStream n c =>
    simp only [step, Step.recorded, stepCalls, Session.recorded]
    rcases ses.streams[n]? with _ | _ | lease
    · exact hnone _
    · exact hnone _
    · simp only [ctx.run_recorded, List.append_nil]
  | outside f =>
    simp only [step, Step.recorded, stepCalls, Session.recorded, List.append_nil]

theorem after_recorded (ses : Session σ γ) (steps : List (Step σ)) (l : List Call) :
    ctx.recorded.after (ses.recorded l) (steps.map Step.recorded) =
      (ctx.after ses steps).recorded
        (l ++ (ctx.visits ses steps).flatMap fun v ↦ ctx.stepCalls v.1 v.2) := by
  induction steps generalizing ses l with
  | nil => simp [visits]
  | cons x steps ih =>
    rw [List.map_cons, after_cons, after_cons, step_recorded, ih, visits, List.flatMap_cons,
      List.append_assoc]

/-- The record of a run is what its steps ask for, one after the other. -/
theorem record_eq (ses : Session σ γ) (steps : List (Step σ)) :
    ctx.record ses steps = (ctx.visits ses steps).flatMap fun v ↦ ctx.stepCalls v.1 v.2 := by
  rw [record, after_recorded]
  rfl

/-! ## The ways to proceed -/

/-- How an invocation proceeds in a state, and the calls it makes: what is wrong with it is told
before the token is asked, the token is asked before the connection is, and a connection that could
not be opened gets no command. -/
inductive Proceeds (i : Invocation σ) (s : σ) : List Call → Prop
  | refused {e : Error} (hmade : ctx.statementOf i = .error e)
      (hrun : ctx.invoke i s = (.error e, s)) : Proceeds i s []
  | cancelled {t : Statement} (hmade : ctx.statementOf i = .ok t)
      (hset : i.token.isCancelled s = true)
      (hrun : ctx.invoke i s = (.error .cancelled, s)) : Proceeds i s []
  | unopened {t : Statement} {m : String} {s' : σ} (hmade : ctx.statementOf i = .ok t)
      (hset : i.token.isCancelled s = false) (hclosed : ctx.backend.isOpen s = false)
      (hopen : ctx.backend.openConnection s = (.error m, s'))
      (hrun : ctx.invoke i s = (.error (.driver m), s')) : Proceeds i s [.openConnection]
  | sent {t : Statement} (hmade : ctx.statementOf i = .ok t)
      (hset : i.token.isCancelled s = false) (hopen : ctx.backend.isOpen s = true) :
      Proceeds i s [i.command.call t]
  | opened {t : Statement} {s' : σ} (hmade : ctx.statementOf i = .ok t)
      (hset : i.token.isCancelled s = false) (hclosed : ctx.backend.isOpen s = false)
      (hopen : ctx.backend.openConnection s = (.ok (), s')) :
      Proceeds i s [.openConnection, i.command.call t]

theorem proceeds_dueCalls (i : Invocation σ) (s : σ) : ctx.Proceeds i s (ctx.dueCalls i s) := by
  obtain ⟨finish, hinvoke⟩ := ctx.exists_perform i
  rw [dueCalls]
  rcases hmade : ctx.statementOf i with e | t
  · rw [stageCalls_of_error]
    exact .refused hmade (by rw [hinvoke, hmade, perform_of_error])
  rcases hset : i.token.isCancelled s with _ | _
  · rw [stageCalls_of_unset hset]
    rcases hs : ctx.backend.isOpen s with _ | _
    · rcases hopen : ctx.backend.openConnection s with ⟨m | _, s'⟩
      · rw [sendCalls_of_failed hs hopen]
        refine .unopened hmade hset hs hopen ?_
        rw [hinvoke, hmade, perform_of_unset hset, Action.bind_of_error (send_of_failed hs hopen)]
      · rw [sendCalls_of_opened hs hopen]
        exact .opened hmade hset hs hopen
    · rw [sendCalls_of_open hs]
      exact .sent hmade hset hs
  · rw [stageCalls_of_cancelled hset]
    exact .cancelled hmade hset (by rw [hinvoke, hmade, perform_of_cancelled hset])

end Context

/-! ## Calls that are in order -/

namespace Backend

variable (b : Backend σ γ)

/-- A connection is opened if it is closed, and otherwise used or closed if it is open. -/
def Admits (s : σ) : Call → Prop
  | .openConnection => b.isOpen s = false
  | .closeConnection | .query _ | .scalar _ | .change _ => b.isOpen s = true

/-- The state after a call. -/
def afterCall (s : σ) : Call → σ
  | .openConnection => (b.openConnection s).2
  | .closeConnection => (b.closeConnection s).2
  | .query t => (b.query t s).2
  | .scalar t => (b.scalar t s).2
  | .change t => (b.change t s).2

/-- Calls made one after the other, each in order when its turn comes. -/
def AdmitsAll (s : σ) : List Call → Prop
  | [] => True
  | c :: calls => b.Admits s c ∧ AdmitsAll (b.afterCall s c) calls

/-- A connection that was opened is open. -/
def OpensConnections : Prop :=
  ∀ s s', b.openConnection s = (.ok (), s') → b.isOpen s' = true

variable {b}

theorem admits_call {s : σ} (h : b.isOpen s = true) (k : CommandKind) (t : Statement) :
    b.Admits s (k.call t) := by
  cases k <;> exact h

end Backend

namespace Context

variable {ctx : Context σ γ}

theorem Proceeds.admitsAll (h : ctx.backend.OpensConnections) {i : Invocation σ} {s : σ}
    {calls : List Call} (hi : ctx.Proceeds i s calls) : ctx.backend.AdmitsAll s calls := by
  cases hi with
  | refused | cancelled => trivial
  | unopened _ _ hclosed => exact ⟨hclosed, trivial⟩
  | sent _ _ hopen => exact ⟨Backend.admits_call hopen _ _, trivial⟩
  | opened _ _ hclosed hopen =>
    refine ⟨hclosed, Backend.admits_call ?_ _ _, trivial⟩
    rw [Backend.afterCall, hopen]
    exact h _ _ hopen

/-- Every step makes its calls in order. -/
theorem admitsAll_stepCalls (h : ctx.backend.OpensConnections) (ses : Session σ γ) (x : Step σ) :
    ctx.backend.AdmitsAll ses.database (ctx.stepCalls ses x) := by
  have hclose : ctx.backend.AdmitsAll ses.database
      (if ctx.backend.isOpen ses.database then [.closeConnection] else []) := by
    by_cases hs : ctx.backend.isOpen ses.database = true
    · rw [if_pos hs]
      exact ⟨hs, trivial⟩
    · rw [if_neg hs]
      trivial
  cases x with
  | invoke i => exact (ctx.proceeds_dueCalls i ses.database).admitsAll h
  | close | closeAsync => exact hclose
  | _ => trivial

end Context

/-! ## Scripted databases -/

namespace Script

theorem opensConnections : backend.OpensConnections := by
  intro s s' h
  change openConnection s = (.ok (), s') at h
  rcases s with ⟨replies, isOpen, opens, closes, _ | m⟩ <;> cases h
  rfl

theorem openConnection_eq_error {s s' : Script} {m : String}
    (h : openConnection s = (.error m, s')) :
    s' = { s with opens := s.opens + 1, openFailure := none } := by
  rcases s with ⟨replies, isOpen, opens, closes, _ | m⟩ <;> cases h
  rfl

/-- The calls of a session: the record of the run is what its steps ask for, every call is in order
when it is made, and every invocation proceeds in one of the five ways. A connection that could not
be opened is closed as before, and no reply is gone. -/
theorem session_calls (d : Dialect) (ses : Session Script Cursor) (steps : List (Step Script)) :
    let ctx : Context Script Cursor := ⟨backend, d⟩
    ctx.record ses steps = ((ctx.visits ses steps).flatMap fun v ↦ ctx.stepCalls v.1 v.2) ∧
      (∀ v ∈ ctx.visits ses steps, backend.AdmitsAll v.1.database (ctx.stepCalls v.1 v.2)) ∧
      (∀ i s, ctx.Proceeds i s (ctx.dueCalls i s)) ∧
      ∀ s m s', openConnection s = (.error m, s') →
        s'.isOpen = s.isOpen ∧ s'.replies = s.replies := by
  intro ctx
  have hopens : ctx.backend.OpensConnections := opensConnections
  refine ⟨ctx.record_eq ses steps, ?_, ctx.proceeds_dueCalls, ?_⟩
  · intro v _
    exact Context.admitsAll_stepCalls hopens v.1 v.2
  · intro s m s' h
    rw [openConnection_eq_error h]
    exact ⟨rfl, rfl⟩

/-- The first opening fails and the second does not; the token of the last list is set, and the
connection is closed once. -/
theorem session_calls_retried :
    let ctx : Context Script Cursor := ⟨backend, .sqlServer⟩
    let users : Query := ⟨.table "Users", []⟩
    let s : Script := { openFailure := some "down", flags := [true] }
    ctx.record ⟨s, []⟩ [.toSql users, .invoke (.blocking (.count users none)),
        .invoke (.stream users), .onStream 0 .next, .invoke (.async (.toList users) (token 0)),
        .close, .closeAsync] =
      [.openConnection, .openConnection, .query ⟨"SELECT * FROM Users", []⟩, .closeConnection] := by
  intro ctx users s
  exact (session_calls .sqlServer ⟨s, []⟩ _).1.trans (by decide +kernel)

end Script

end QueryChain
