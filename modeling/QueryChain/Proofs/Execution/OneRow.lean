import QueryChain.Proofs.Execution.Cancellation
import QueryChain.Proofs.Query.Concerns

/-!
# One row

A query that asks for one row reads its result to the end, because a second row is an error and not
a row too many. So the outcome is known only when the last fetch was made: a failure of any fetch is
the outcome, whatever was read before it, and otherwise the number of rows decides.

The two terminals for one row send the same statement and differ in what they make of an empty
result. The blocking and the asynchronous form of each do the same, although one judges the rows
while it reads them and the other takes all of them first. What is proved here once, for a cursor
and what it gives, therefore holds of all four.
-/

namespace QueryChain

variable {σ γ α : Type}

/-- Both terminals for one row ask the same of the database. -/
theorem Query.toStatement_firstOrDefault (q : Query) (p : Option Predicate) (d : Dialect) :
    (q.terminate (.firstOrDefault p)).toStatement d = (q.terminate (.first p)).toStatement d := by
  rw [toStatement, select, split_terminate, toStatement, select, split_terminate]
  cases q.operators.find? Operator.isTerminal <;> rfl

/-! ## What a result comes to -/

namespace Row

/-- What becomes of a result of which one row is wanted. If there is none, the answer is `absent`.
-/
structure Settles (raws : List RawRow) (failure : Option String) (absent : Except Error α)
    (present : Row → α) (outcome : Except Error α) : Prop where
  /-- A fetch that fails counts before any excess of rows. -/
  failed : ∀ m, failure = some m → outcome = .error (.driver m)
  empty : failure = none → raws = [] → outcome = absent
  one : ∀ raw, failure = none → raws = [raw] → outcome = .ok (present (.ofColumns raw))
  several : failure = none → 2 ≤ raws.length → outcome = .error (.cardinality 1 raws.length)

variable {raws : List RawRow} {failure : Option String}

theorem single?_of_two_le {rows : List Row} (h : 2 ≤ rows.length) :
    single? rows = .error (.cardinality 1 rows.length) := by
  rcases rows with _ | ⟨r, _ | ⟨r', rows⟩⟩
  · exact absurd h (by decide)
  · exact absurd h (Nat.not_succ_le_self 1)
  · rfl

theorem settles_single? (raws : List RawRow) (failure : Option String) :
    Settles raws failure (.ok none) some (Backend.readout raws failure >>= single?) where
  failed m h := by
    rw [h]
    rfl
  empty h hraws := by
    rw [h, hraws]
    rfl
  one raw h hraws := by
    rw [h, hraws]
    rfl
  several h hlength := by
    have hrows : 2 ≤ (raws.map ofColumns).length := by rwa [List.length_map]
    rw [h]
    exact (single?_of_two_le hrows).trans (by rw [List.length_map])

/-- A row that must be there is the row that may be there, or an error in place of none. -/
theorem Settles.required {outcome : Except Error (Option Row)}
    (h : Settles raws failure (.ok none) some outcome) (q : Query) :
    Settles raws failure (.error (.noRow q.source.name)) id (outcome >>= q.required) where
  failed m hfailure := by
    rw [h.failed m hfailure]
    rfl
  empty hfailure hraws := by
    rw [h.empty hfailure hraws]
    rfl
  one raw hfailure hraws := by
    rw [h.one raw hfailure hraws]
    rfl
  several hfailure hlength := by
    rw [h.several hfailure hlength]
    rfl

end Row

/-! ## Reading to the end -/

/-- With no token to stop it, a run reads to the end of the rows, and a last time behind them. -/
theorem Backend.Gives.collect_none {b : Backend σ γ} {c : γ} {s : σ} {raws : List RawRow}
    {failure : Option String} (h : b.Gives c s raws failure) :
    b.collect .none c s =
      (readout raws failure, b.releaseAt (b.place c s (raws.length + 1))) :=
  h.collect_of_unset fun _ _ ↦ rfl

namespace Context

variable (ctx : Context σ γ)

theorem firstAsync_eq (q : Query) (p : Option Predicate) : ctx.firstAsync q p = ctx.first q p := by
  simp only [firstAsync, first, streamRows_bind, collectRows_none, single_ofCursor, bind_assoc]

theorem firstOrDefaultAsync_eq (q : Query) (p : Option Predicate) :
    ctx.firstOrDefaultAsync q p = ctx.firstOrDefault q p := by
  simp only [firstOrDefaultAsync, firstOrDefault, streamRows_bind, collectRows_none,
    single_ofCursor, bind_assoc]

variable {ctx} {q : Query} {p : Option Predicate} {t : Statement} {s s' : σ} {c : γ}
  {raws : List RawRow} {failure : Option String}

theorem single_of_gives (h : ctx.backend.Gives c s raws failure) :
    ctx.single (.ofCursor c) s = (Backend.readout raws failure >>= Row.single?,
      ctx.backend.releaseAt (ctx.backend.place c s (raws.length + 1))) := by
  rw [single_ofCursor, Action.bind_lift_apply, collect, h.collect_none]

theorem firstOrDefault_of_gives (hmade : ctx.statementFor q (.firstOrDefault p) = .ok t)
    (hsend : ctx.send t .query s = (.ok c, s')) (h : ctx.backend.Gives c s' raws failure) :
    ctx.firstOrDefault q p s = (Backend.readout raws failure >>= Row.single?,
      ctx.backend.releaseAt (ctx.backend.place c s' (raws.length + 1))) := by
  rw [firstOrDefault, hmade]
  change (ctx.streamRows t >>= ctx.single) s = _
  rw [streamRows_bind, Action.bind_of_ok hsend, single_of_gives h]

theorem first_of_gives (hmade : ctx.statementFor q (.first p) = .ok t)
    (hsend : ctx.send t .query s = (.ok c, s')) (h : ctx.backend.Gives c s' raws failure) :
    ctx.first q p s = ((Backend.readout raws failure >>= Row.single?) >>= q.required,
      ctx.backend.releaseAt (ctx.backend.place c s' (raws.length + 1))) := by
  rw [first, hmade]
  change (ctx.streamRows t >>= fun st ↦ ctx.single st >>= fun row ↦
    (q.required row : Action σ Row)) s = _
  rw [streamRows_bind, Action.bind_of_ok hsend, Action.bind_lift_apply, single_of_gives h]

/-- **The outcome is known behind the last row.** Both terminals, blocking or asynchronous, read all
rows and fetch once more behind them, whatever they have read by then. A failing fetch is passed on;
without one, the number of rows decides. -/
theorem first_settles (hmade : ctx.statementFor q (.first p) = .ok t)
    (hsend : ctx.send t .query s = (.ok c, s')) (hgives : ctx.backend.Gives c s' raws failure) :
    let final := ctx.backend.releaseAt (ctx.backend.place c s' (raws.length + 1))
    let events := (ctx.sendCalls t .query s).map Event.call ++
      List.replicate (raws.length + 1) .fetch ++ [.release]
    ∃ required optional,
      Row.Settles raws failure
        (.error (.notFound ("no row of '" ++ q.source.name ++ "' matches the query"))) id required ∧
      Row.Settles raws failure (.ok none) some optional ∧
      ctx.first q p s = (required, final) ∧
      ctx.firstAsync q p s = (required, final) ∧
      ctx.firstOrDefault q p s = (optional, final) ∧
      ctx.firstOrDefaultAsync q p s = (optional, final) ∧
      ctx.traced.first q p (s, []) = (required, final, events) ∧
      ctx.traced.firstAsync q p (s, []) = (required, final, events) ∧
      ctx.traced.firstOrDefault q p (s, []) = (optional, final, events) ∧
      ctx.traced.firstOrDefaultAsync q p (s, []) = (optional, final, events) := by
  intro final events
  have hmade' : ctx.statementFor q (.firstOrDefault p) = .ok t :=
    (q.toStatement_firstOrDefault p ctx.dialect).trans hmade
  have hrequired := first_of_gives hmade hsend hgives
  have hoptional := firstOrDefault_of_gives hmade' hsend hgives
  -- the same with a record: the statement is sent, and each fetch is noted
  let sent := (ctx.sendCalls t .query s).map Event.call
  have hsend' : ctx.traced.send t .query (s, []) = (.ok c, s', sent) := by
    rw [ctx.notes_traced.send, hsend]
    rfl
  have hfinal : ctx.traced.backend.releaseAt
      (ctx.traced.backend.place c (s', sent) (raws.length + 1)) = (final, events) :=
    ctx.backend.releaseAt_traced c s' sent (raws.length + 1)
  have hrequired' : ctx.traced.first q p (s, []) = _ :=
    first_of_gives hmade hsend' (hgives.traced sent)
  have hoptional' : ctx.traced.firstOrDefault q p (s, []) = _ :=
    firstOrDefault_of_gives hmade' hsend' (hgives.traced sent)
  rw [hfinal] at hrequired' hoptional'
  have hsettles := Row.settles_single? raws failure
  refine ⟨_, _, hsettles.required q, hsettles, hrequired, ?_, hoptional, ?_, hrequired', ?_,
    hoptional', ?_⟩
  · rw [firstAsync_eq, hrequired]
  · rw [firstOrDefaultAsync_eq, hoptional]
  · rw [firstAsync_eq, hrequired']
  · rw [firstOrDefaultAsync_eq, hoptional']

end Context

namespace Script

/-- A scripted cursor gives the rows it was made with, and then its failure. -/
theorem gives_cursor (raws : List RawRow) (failure : Option String) (read : Nat)
    (setter : Option FlagSetter) (s : Script) :
    backend.Gives ⟨raws, failure, read, setter⟩ s raws failure := by
  induction raws generalizing read s with
  | nil =>
    rcases failure with _ | m
    · exact .done rfl
    · exact .failed rfl
  | cons raw raws ih => exact .row rfl (ih _ _)

/-- Three rows, with a failure behind them and without. -/
theorem first_settles_three :
    let ctx : Context Script Cursor := ⟨backend, .sqlServer⟩
    let users : Query := ⟨.table "Users", []⟩
    let raws : List RawRow := [[("Id", .int32 1)], [("Id", .int32 2)], [("Id", .int32 3)]]
    let s (failure : Option String) : Script := { replies := [.rows raws failure] }
    let t : Statement := ⟨"SELECT TOP 1 * FROM Users", []⟩
    ctx.statementFor users (.first none) = .ok t ∧
      (ctx.first users none (s (some "lost"))).1 = .error (.driver "lost") ∧
      (ctx.firstOrDefaultAsync users none (s none)).1 = .error (.cardinality 1 3) ∧
      (ctx.traced.first users none (s none, [])).2.2 =
        [.call .openConnection, .call (.query t), .fetch, .fetch, .fetch, .fetch, .release] := by
  intro ctx users raws s t
  have hmade : ctx.statementFor users (.first none) = .ok t := by decide +kernel
  have hsend (failure : Option String) : ctx.send t .query (s failure) =
      (.ok ⟨raws, failure, 0, none⟩,
        { isOpen := true, opens := 1, commands := [t], liveCursors := 1 }) := rfl
  have hgives (failure : Option String) := gives_cursor raws failure 0 none
    { isOpen := true, opens := 1, commands := [t], liveCursors := 1 }
  obtain ⟨_, _, hlost, -, hfirst, -⟩ :=
    Context.first_settles hmade (hsend (some "lost")) (hgives (some "lost"))
  obtain ⟨_, _, -, hthree, -, -, -, hasync, htraced, -⟩ :=
    Context.first_settles hmade (hsend none) (hgives none)
  refine ⟨hmade, ?_, ?_, ?_⟩
  · rw [hfirst]
    exact hlost.failed "lost" rfl
  · rw [hasync]
    exact hthree.several rfl (by decide)
  · rw [htraced]
    rfl

end Script

end QueryChain
