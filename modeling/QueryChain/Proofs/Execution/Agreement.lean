import QueryChain.Execution.Script
import QueryChain.Proofs.Execution.Stages

/-!
# Blocking and asynchronous runs agree

A blocking operation hands rows on while it reads them, and an asynchronous one takes all of them
first. The two read their cursor by different loops, and the loop for a single row even judges as it
reads. That they agree is shown in two steps. Without a token, the asynchronous form does what the
blocking one does: `Context.runAsync_none`. With a token, it does what it does without one as long
as the token is not set: `Context.runAsync_of_unset`.

Whether a token was set is read off the state at the end of the run. For this a token that stopped a
run must still be set after the cursor was given back, which is the one thing that is asked of it.
-/

namespace QueryChain

variable {σ γ α β : Type}

theorem Action.bind_lift_apply (x : Action σ α) (f : α → Except Error β) (s : σ) :
    (x >>= fun a ↦ (f a : Action σ β)) s = ((x s).1 >>= f, (x s).2) := by
  rcases hx : x s with ⟨e | a, s'⟩
  · rw [bind_of_error hx]
    rfl
  · rw [bind_of_ok hx]
    rfl

/-! ## The only row of a result -/

namespace Row

/-- What is made of the rows that are left, when `count` rows were read and `row` is the first of
them. -/
def singleAfter (row : Option Row) (count : Nat) (rows : List Row) : Except Error (Option Row) :=
  if 1 < count + rows.length then .error (.cardinality 1 (count + rows.length))
  else .ok (row.or rows.head?)

theorem singleAfter_nil (row : Option Row) (count : Nat) :
    singleAfter row count [] = if 1 < count then .error (.cardinality 1 count) else .ok row := by
  simp [singleAfter]

theorem singleAfter_cons (row : Option Row) (count : Nat) (r : Row) (rows : List Row) :
    singleAfter row count (r :: rows) = singleAfter (some (row.getD r)) (count + 1) rows := by
  have hlength : count + (r :: rows).length = count + 1 + rows.length := by
    rw [List.length_cons]
    omega
  rw [singleAfter, singleAfter, hlength]
  cases row <;> rfl

theorem singleAfter_none (rows : List Row) : singleAfter none 0 rows = single? rows := by
  rcases rows with _ | ⟨r, _ | ⟨r', rows⟩⟩
  · rfl
  · rfl
  · rw [singleAfter, if_pos (by simp), Nat.zero_add]
    rfl

end Row

/-! ## Reading a cursor -/

namespace Backend

variable (b : Backend σ γ)

theorem drain_eq_collect (c : γ) (n : Nat) (s : σ) :
    (((⟨some c, n⟩ : RowStream γ).drain b s).1, ((⟨some c, n⟩ : RowStream γ).drain b s).2.2) =
      b.collect .none c s := by
  induction c, s using collect.induct b .none generalizing n with
  | case1 c s e h => cases h
  | case2 c s h raw c' s' hf _ _ _ _ ih =>
    rw [collect_of_row h hf, RowStream.drain_of_row (RowStream.next_of_row hf), ← ih (n + 1)]
  | case3 c s h c' s' hf =>
    rw [collect_of_done h hf, RowStream.drain_of_over (RowStream.next_of_done hf)]
  | case4 c s h c' s' m hf =>
    rw [collect_of_failed h hf, RowStream.drain_of_failed (RowStream.next_of_failed hf)]

theorem single_eq_collect (row : Option Row) (count : Nat) (c : γ) (n : Nat) (s : σ) :
    (((⟨some c, n⟩ : RowStream γ).single b row count s).1,
        ((⟨some c, n⟩ : RowStream γ).single b row count s).2.2) =
      ((b.collect .none c s).1 >>= Row.singleAfter row count, (b.collect .none c s).2) := by
  induction c, s using collect.induct b .none generalizing row count n with
  | case1 c s e h => cases h
  | case2 c s h raw c' s' hf _ _ _ _ ih =>
    rw [collect_of_row h hf, RowStream.single_of_row (RowStream.next_of_row hf), ih]
    rcases (b.collect .none c' s').1 with e | rows
    · rfl
    · exact congrArg (·, _) (Row.singleAfter_cons row count (.ofColumns raw) rows).symm
  | case3 c s h c' s' hf =>
    rw [collect_of_done h hf, RowStream.single_of_over (RowStream.next_of_done hf)]
    exact congrArg (·, _) (Row.singleAfter_nil row count).symm
  | case4 c s h c' s' m hf =>
    rw [collect_of_failed h hf, RowStream.single_of_failed (RowStream.next_of_failed hf)]
    rfl

/-- A token that is not set at the end stopped nothing. -/
theorem collect_of_unset {token : CancellationToken σ}
    (hkept : ∀ c s, token.isCancelled s = true → token.isCancelled (b.release c s) = true)
    (c : γ) (s : σ) (hunset : token.isCancelled (b.collect token c s).2 = false) :
    b.collect token c s = b.collect .none c s := by
  have hnone (s : σ) : CancellationToken.none.check s = .ok () := rfl
  induction c, s using collect.induct b token with
  | case1 c s e h =>
    rcases hs : token.isCancelled s with _ | _
    · rw [token.check_of_unset hs] at h
      cases h
    · rw [collect_of_cancelled h, hkept c s hs] at hunset
      cases hunset
  | case2 c s h raw c' s' hf _ _ _ _ ih =>
    rw [collect_of_row h hf] at hunset
    rw [collect_of_row h hf, collect_of_row (hnone s) hf, ih hunset]
  | case3 c s h c' s' hf => rw [collect_of_done h hf, collect_of_done (hnone s) hf]
  | case4 c s h c' s' m hf => rw [collect_of_failed h hf, collect_of_failed (hnone s) hf]

end Backend

/-! ## Operations -/

namespace Context

variable (ctx : Context σ γ)

theorem drain_ofCursor (c : γ) : ctx.drain (.ofCursor c) = ctx.collect .none c :=
  funext fun s ↦ ctx.backend.drain_eq_collect c 0 s

theorem single_ofCursor (c : γ) :
    ctx.single (.ofCursor c) =
      ctx.collect .none c >>= fun rows ↦ (Row.single? rows : Action σ (Option Row)) := by
  funext s
  have hjudge : Row.singleAfter none 0 = Row.single? := funext Row.singleAfter_none
  have h := ctx.backend.single_eq_collect none 0 c 0 s
  rw [hjudge] at h
  exact h.trans (Action.bind_lift_apply (ctx.collect .none c) Row.single? s).symm

theorem finishAsync_none (op : Operation) : ctx.finishAsync .none op = ctx.finish op := by
  funext x
  cases op with
  | toList | callProcedure => exact congrArg (Answer.rows <$> ·) (ctx.drain_ofCursor x).symm
  | first q p =>
    have h (c : γ) : ctx.finishAsync .none (.first q p) c =
        ctx.single (.ofCursor c) >>= fun row ↦ .row <$> (q.required row : Action σ Row) := by
      rw [single_ofCursor, bind_assoc]
      rfl
    exact h x
  | firstOrDefault q p =>
    have h (c : γ) : ctx.finishAsync .none (.firstOrDefault q p) c =
        .row? <$> ctx.single (.ofCursor c) := by
      rw [single_ofCursor, map_bind]
      rfl
    exact h x
  | count | update | remove => rfl

/-- Without a token, both forms of an operation do the same. -/
theorem runAsync_none (op : Operation) : ctx.runAsync .none op = ctx.run op := by
  have hheeded : op.heeded (.none : CancellationToken σ) = .none := by cases op <;> rfl
  rw [runAsync_eq, run_eq, hheeded, finishAsync_none]

variable {ctx} {token : CancellationToken σ}

theorem rows_of_unset
    (hkept : ∀ c s, token.isCancelled s = true → token.isCancelled (ctx.backend.release c s) = true)
    {made : Except Error Statement} {f : List Row → α} {s : σ}
    (hunset : token.isCancelled
      (ctx.perform made token .query (fun c ↦ f <$> ctx.collect token c) s).2 = false) :
    ctx.perform made token .query (fun c ↦ f <$> ctx.collect token c) s =
      ctx.perform made .none .query (fun c ↦ f <$> ctx.collect .none c) s := by
  rcases made with e | t
  · rfl
  rcases hs : token.isCancelled s with _ | _
  · rw [perform_of_unset hs] at hunset ⊢
    rw [perform_of_unset rfl]
    rcases hsend : ctx.send t .query s with ⟨e | c, s'⟩
    · rw [Action.bind_of_error hsend, Action.bind_of_error hsend]
    · rw [Action.bind_of_ok hsend, Action.map_apply] at hunset
      rw [Action.bind_of_ok hsend, Action.bind_of_ok hsend, Action.map_apply, Action.map_apply]
      have hcollect := ctx.backend.collect_of_unset hkept c s' hunset
      exact congrArg (fun r : Except Error (List Row) × σ ↦ (r.1.map f, r.2)) hcollect
  · rw [perform_of_cancelled hs, hs] at hunset
    cases hunset

/-- With a token that is not set at the end, an asynchronous run is the blocking run. -/
theorem runAsync_of_unset
    (hkept : ∀ c s, token.isCancelled s = true → token.isCancelled (ctx.backend.release c s) = true)
    {op : Operation} {s : σ} (hunset : token.isCancelled (ctx.runAsync token op s).2 = false) :
    ctx.runAsync token op s = ctx.run op s := by
  rw [← runAsync_none]
  cases op with
  | toList q =>
    rw [runAsync_eq] at hunset ⊢
    rw [runAsync_eq]
    exact rows_of_unset hkept hunset
  | callProcedure name arguments =>
    rw [runAsync_eq] at hunset ⊢
    rw [runAsync_eq]
    exact rows_of_unset hkept hunset
  | count | first | firstOrDefault | update | remove => rfl

end Context

namespace Script

/-- Over a scripted database, an operation gives the same and leaves the same state in both its
forms, and so does closing the connection. The flag of the token is never taken back, so it was not
set before or during the call if it is not set at the end. -/
theorem runAsync_agrees (d : Dialect) (flag : Nat) (op : Operation) (s : Script)
    (hunset : (token flag).isCancelled
      (Context.runAsync ⟨backend, d⟩ (token flag) op s).2 = false) :
    let ctx : Context Script Cursor := ⟨backend, d⟩
    ctx.runAsync (token flag) op s = ctx.run op s ∧ ctx.closeAsync s = ctx.close s := by
  intro ctx
  have hkept (c : Cursor) (s : Script) (h : (token flag).isCancelled s = true) :
      (token flag).isCancelled (ctx.backend.release c s) = true := h
  exact ⟨Context.runAsync_of_unset hkept hunset, rfl⟩

/-- Two rows are read, the third fetch fails, and the flag is set by none of them. -/
theorem runAsync_agrees_failing :
    let ctx : Context Script Cursor := ⟨backend, .sqlServer⟩
    let users : Operation := .toList ⟨.table "Users", []⟩
    let s : Script := {
      replies := [.rows [[("Id", .int32 1)], [("Id", .int32 2)]] (some "lost")]
      setter := some ⟨3, 0⟩
      flags := [false] }
    (token 0).isCancelled (ctx.runAsync (token 0) users s).2 = false ∧
      ctx.runAsync (token 0) users s = ctx.run users s := by
  intro ctx users s
  have hunset : (token 0).isCancelled (ctx.runAsync (token 0) users s).2 = false := by
    decide +kernel
  exact ⟨hunset, (runAsync_agrees .sqlServer 0 users s hunset).1⟩

end Script

end QueryChain
