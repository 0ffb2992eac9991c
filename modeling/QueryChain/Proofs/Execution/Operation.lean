import QueryChain.Execution.Async

/-!
# The operations of a context

Every operation that sends a command first makes its statement and then runs it, blocking or
asynchronously. Here the operations are values, so that a law can be stated of all of them at once,
and the calls that one of them makes to its database are put on record. `Context.invoke_recorded`
says that the record disturbs nothing: the run with it answers as the run without it, and leaves the
same state.
-/

namespace QueryChain

/-- An operation that comes in a blocking and an asynchronous form. -/
inductive Operation
  | toList (q : Query)
  | count (q : Query) (p : Option Predicate)
  | first (q : Query) (p : Option Predicate)
  | firstOrDefault (q : Query) (p : Option Predicate)
  | callProcedure (name : String) (arguments : List (String × Value))
  | update (target : String) (fields : List (String × Value)) (p : Option Predicate)
  | remove (source : String) (p : Option Predicate)

/-- A way to run an operation. A query can also be streamed, which is always blocking. -/
inductive Invocation (σ : Type)
  | blocking (op : Operation)
  | async (op : Operation) (token : CancellationToken σ)
  | stream (q : Query)

/-- What an operation gives. -/
inductive Answer (γ : Type)
  | rows (rows : List Row)
  | total (n : Int64)
  | row (r : Row)
  | row? (r : Option Row)
  | changed (n : UInt64)
  | stream (st : RowStream γ)

variable {σ γ : Type}

namespace Context

variable (ctx : Context σ γ)

/-- Runs an operation in its blocking form. -/
def run : Operation → Action σ (Answer γ)
  | .toList q => .rows <$> ctx.toList q
  | .count q p => .total <$> ctx.count q p
  | .first q p => .row <$> ctx.first q p
  | .firstOrDefault q p => .row? <$> ctx.firstOrDefault q p
  | .callProcedure name arguments => .rows <$> ctx.callProcedure name arguments
  | .update target fields p => .changed <$> ctx.update target fields p
  | .remove source p => .changed <$> ctx.remove source p

/-- Runs an operation in its asynchronous form. Only lists and procedures can be cancelled. -/
def runAsync (token : CancellationToken σ) : Operation → Action σ (Answer γ)
  | .toList q => .rows <$> ctx.toListAsync q token
  | .count q p => .total <$> ctx.countAsync q p
  | .first q p => .row <$> ctx.firstAsync q p
  | .firstOrDefault q p => .row? <$> ctx.firstOrDefaultAsync q p
  | .callProcedure name arguments => .rows <$> ctx.callProcedureAsync name arguments token
  | .update target fields p => .changed <$> ctx.updateAsync target fields p
  | .remove source p => .changed <$> ctx.removeAsync source p

/-- Runs an operation in the given way. -/
def invoke : Invocation σ → Action σ (Answer γ)
  | .blocking op => ctx.run op
  | .async op token => ctx.runAsync token op
  | .stream q => .stream <$> ctx.stream q

end Context

/-! ## The record of calls -/

/-- A call to a database, apart from those that go through a cursor. -/
inductive Call
  | openConnection
  | closeConnection
  | query (t : Statement)
  | scalar (t : Statement)
  | change (t : Statement)
deriving DecidableEq

/-- The database with a record of the calls to it, the oldest first. -/
def Backend.recorded (b : Backend σ γ) : Backend (σ × List Call) γ where
  fetch c s := ((b.fetch c s.1).1, (b.fetch c s.1).2.1, (b.fetch c s.1).2.2, s.2)
  release c s := (b.release c s.1, s.2)
  isOpen s := b.isOpen s.1
  openConnection s := ((b.openConnection s.1).1, (b.openConnection s.1).2, s.2 ++ [.openConnection])
  closeConnection s :=
    ((b.closeConnection s.1).1, (b.closeConnection s.1).2, s.2 ++ [.closeConnection])
  query t s := ((b.query t s.1).1, (b.query t s.1).2, s.2 ++ [.query t])
  scalar t s := ((b.scalar t s.1).1, (b.scalar t s.1).2, s.2 ++ [.scalar t])
  change t s := ((b.change t s.1).1, (b.change t s.1).2, s.2 ++ [.change t])
  remaining := b.remaining
  remaining_lt {c c' s s' raw} h := by
    obtain ⟨hfetch, hcursor, -⟩ : (b.fetch c s.1).1 = .row raw ∧ (b.fetch c s.1).2.1 = c' ∧ _ := by
      simpa only [Prod.mk.injEq] using h
    have hrow : b.fetch c s.1 = (.row raw, c', (b.fetch c s.1).2.2) :=
      Prod.ext hfetch (Prod.ext hcursor rfl)
    exact b.remaining_lt hrow

/-- The context over the database with a record. -/
def Context.recorded (ctx : Context σ γ) : Context (σ × List Call) γ :=
  ⟨ctx.backend.recorded, ctx.dialect⟩

/-- The same token in states with a record. -/
def CancellationToken.recorded (token : CancellationToken σ) :
    CancellationToken (σ × List Call) :=
  ⟨fun s ↦ token.isCancelled s.1⟩

/-- The same invocation in states with a record. -/
def Invocation.recorded : Invocation σ → Invocation (σ × List Call)
  | blocking op => blocking op
  | async op token => async op token.recorded
  | stream q => stream q

/-- The calls that an invocation makes. -/
def Context.calls (ctx : Context σ γ) (i : Invocation σ) (s : σ) : List Call :=
  (ctx.recorded.invoke i.recorded (s, [])).2.2

/-! ## The record disturbs nothing -/

/-- The run in states with a record answers as the run without it, and leaves the same state. -/
def Action.Erases {α : Type} (x : Action (σ × List Call) α) (y : Action σ α) : Prop :=
  ∀ s l, ∃ l', x (s, l) = ((y s).1, (y s).2, l')

namespace Action.Erases

variable {α β : Type}

theorem pure (a : α) : Erases (Pure.pure a) (Pure.pure a : Action σ α) := fun _ l ↦ ⟨l, rfl⟩

theorem lift (r : Except Error α) : Erases (MonadLift.monadLift r) (MonadLift.monadLift r : Action σ α) :=
  fun _ l ↦ ⟨l, rfl⟩

theorem bind {x : Action (σ × List Call) α} {y : Action σ α}
    {f : α → Action (σ × List Call) β} {g : α → Action σ β} (hx : Erases x y)
    (hf : ∀ a, Erases (f a) (g a)) : Erases (x >>= f) (y >>= g) := by
  intro s l
  obtain ⟨l', h⟩ := hx s l
  simp only [Bind.bind, h]
  cases hy : y s with
  | mk r s' =>
    cases r with
    | error e => exact ⟨l', rfl⟩
    | ok a => exact hf a s' l'

theorem map {x : Action (σ × List Call) α} {y : Action σ α} (f : α → β) (h : Erases x y) :
    Erases (f <$> x) (f <$> y) :=
  bind h fun a ↦ pure (f a)

/-- A database operation that notes one call. -/
theorem ofBackend {x : σ × List Call → Except String α × (σ × List Call)}
    {y : σ → Except String α × σ} (call : Call)
    (h : ∀ s l, x (s, l) = ((y s).1, (y s).2, l ++ [call])) :
    Erases (Action.ofBackend x) (Action.ofBackend y) := by
  intro s l
  refine ⟨l ++ [call], ?_⟩
  simp only [Action.ofBackend, h]
  rcases y s with ⟨_ | _, s'⟩ <;> rfl

end Action.Erases

namespace RowStream

variable {f : Fetcher σ γ} {b : Backend σ γ} {st st' : RowStream γ} {c c' : γ} {n : Nat} {s s' : σ}

theorem next_of_none (h : st.cursor = none) : st.next f s = (none, st, s) := by
  rw [next, h]

theorem next_of_row {raw : RawRow} (h : f.fetch c s = (.row raw, c', s')) :
    (⟨some c, n⟩ : RowStream γ).next f s =
      (some (.ok (.ofColumns raw)), ⟨some c', n + 1⟩, s') := by
  simp only [next, h]

theorem next_of_done (h : f.fetch c s = (.done, c', s')) :
    (⟨some c, n⟩ : RowStream γ).next f s = (none, ⟨none, n⟩, f.release c' s') := by
  simp only [next, h]

theorem next_of_failed {m : String} (h : f.fetch c s = (.failed m, c', s')) :
    (⟨some c, n⟩ : RowStream γ).next f s =
      (some (.error (.driver m)), ⟨none, n⟩, f.release c' s') := by
  simp only [next, h]

theorem drain_of_over (h : st.next b.toFetcher s = (none, st', s')) :
    st.drain b s = (.ok [], st', s') := by
  rw [drain]
  split <;> simp_all

theorem drain_of_failed {e : Error}
    (h : st.next b.toFetcher s = (some (.error e), st', s')) :
    st.drain b s = (.error e, st', s') := by
  rw [drain]
  split <;> simp_all

theorem drain_of_row {r : Row} (h : st.next b.toFetcher s = (some (.ok r), st', s')) :
    st.drain b s = ((st'.drain b s').1.map (r :: ·), (st'.drain b s').2) := by
  rw [drain]
  split <;> simp_all

theorem single_of_over {row : Option Row} {n : Nat}
    (h : st.next b.toFetcher s = (none, st', s')) :
    st.single b row n s =
      (if 1 < n then .error (.cardinality 1 n) else .ok row, st', s') := by
  rw [single]
  split <;> simp_all

theorem single_of_failed {row : Option Row} {n : Nat} {e : Error}
    (h : st.next b.toFetcher s = (some (.error e), st', s')) :
    st.single b row n s = (.error e, st', s') := by
  rw [single]
  split <;> simp_all

theorem single_of_row {row : Option Row} {n : Nat} {r : Row}
    (h : st.next b.toFetcher s = (some (.ok r), st', s')) :
    st.single b row n s = st'.single b (some (row.getD r)) (n + 1) s' := by
  rw [single]
  split <;> simp_all

theorem next_recorded (b : Backend σ γ) (st : RowStream γ) (s : σ) (l : List Call) :
    st.next b.recorded.toFetcher (s, l) =
      ((st.next b.toFetcher s).1, (st.next b.toFetcher s).2.1, (st.next b.toFetcher s).2.2, l) := by
  rcases st with ⟨_ | c, n⟩
  · rfl
  · simp only [next, Backend.recorded]
    rcases b.fetch c s with ⟨_ | _ | _, c', s'⟩ <;> rfl

theorem drain_recorded (b : Backend σ γ) (st : RowStream γ) (s : σ) (l : List Call) :
    st.drain b.recorded (s, l) =
      ((st.drain b s).1, (st.drain b s).2.1, (st.drain b s).2.2, l) := by
  induction st, s using drain.induct b with
  | case1 st s st' s' h => rw [drain_of_over h, drain_of_over (by rw [next_recorded, h])]
  | case2 st s e st' s' h => rw [drain_of_failed h, drain_of_failed (by rw [next_recorded, h])]
  | case3 st s r st' s' h _ _ _ _ _ ih =>
    rw [drain_of_row h, drain_of_row (by rw [next_recorded, h]), ih]

theorem single_recorded (b : Backend σ γ) (row : Option Row) (n : Nat) (st : RowStream γ) (s : σ)
    (l : List Call) :
    st.single b.recorded row n (s, l) =
      ((st.single b row n s).1, (st.single b row n s).2.1, (st.single b row n s).2.2, l) := by
  induction row, n, st, s using single.induct b with
  | case1 row n st s st' s' h => rw [single_of_over h, single_of_over (by rw [next_recorded, h])]
  | case2 row n st s e st' s' h =>
    rw [single_of_failed h, single_of_failed (by rw [next_recorded, h])]
  | case3 row n st s r st' s' h _ ih =>
    rw [single_of_row h, single_of_row (by rw [next_recorded, h]), ih]

end RowStream

namespace Backend

variable {b : Backend σ γ} {token : CancellationToken σ} {c c' : γ} {s s' : σ}

theorem collect_of_cancelled {e : Error} (h : token.check s = .error e) :
    b.collect token c s = (.error e, b.release c s) := by
  rw [collect, h]

theorem collect_of_row {raw : RawRow} (h : token.check s = .ok ())
    (hf : b.fetch c s = (.row raw, c', s')) :
    b.collect token c s =
      ((b.collect token c' s').1.map (Row.ofColumns raw :: ·), (b.collect token c' s').2) := by
  rw [collect, h]
  dsimp only
  split <;> simp_all

theorem collect_of_done (h : token.check s = .ok ()) (hf : b.fetch c s = (.done, c', s')) :
    b.collect token c s = (.ok [], b.release c' s') := by
  rw [collect, h]
  dsimp only
  split <;> simp_all

theorem collect_of_failed {m : String} (h : token.check s = .ok ())
    (hf : b.fetch c s = (.failed m, c', s')) :
    b.collect token c s = (.error (.driver m), b.release c' s') := by
  rw [collect, h]
  dsimp only
  split <;> simp_all

theorem fetch_recorded (b : Backend σ γ) (c : γ) (s : σ) (l : List Call) :
    b.recorded.fetch c (s, l) = ((b.fetch c s).1, (b.fetch c s).2.1, (b.fetch c s).2.2, l) :=
  rfl

theorem collect_recorded (b : Backend σ γ) (token : CancellationToken σ) (c : γ) (s : σ)
    (l : List Call) :
    b.recorded.collect token.recorded c (s, l) =
      ((b.collect token c s).1, (b.collect token c s).2, l) := by
  have hcheck : ∀ s, token.recorded.check (s, l) = token.check s := fun _ ↦ rfl
  induction c, s using collect.induct b token with
  | case1 c s e h =>
    rw [collect_of_cancelled h, collect_of_cancelled ((hcheck s).trans h)]
    rfl
  | case2 c s h raw c' s' hf _ _ _ _ ih =>
    rw [collect_of_row h hf, collect_of_row ((hcheck s).trans h) (by rw [fetch_recorded, hf]), ih]
  | case3 c s h c' s' hf =>
    rw [collect_of_done h hf, collect_of_done ((hcheck s).trans h) (by rw [fetch_recorded, hf])]
    rfl
  | case4 c s h c' s' m hf =>
    rw [collect_of_failed h hf,
      collect_of_failed ((hcheck s).trans h) (by rw [fetch_recorded, hf])]
    rfl

end Backend

namespace Context

open QueryChain.Action

variable (ctx : Context σ γ)

theorem erases_ensureOpen : Erases ctx.recorded.ensureOpen ctx.ensureOpen := by
  intro s l
  by_cases h : ctx.backend.isOpen s
  · exact ⟨l, by simp [ensureOpen, recorded, Backend.recorded, h]⟩
  · have hopen : Erases (ofBackend ctx.recorded.backend.openConnection)
        (ofBackend ctx.backend.openConnection) := .ofBackend .openConnection fun _ _ ↦ rfl
    simpa [ensureOpen, recorded, Backend.recorded, h] using hopen s l

theorem erases_streamRows (t : Statement) :
    Erases (ctx.recorded.streamRows t) (ctx.streamRows t) :=
  .bind ctx.erases_ensureOpen fun _ ↦ .bind (.ofBackend (.query t) fun _ _ ↦ rfl) fun _ ↦ .pure _

theorem erases_scalarOf (t : Statement) : Erases (ctx.recorded.scalarOf t) (ctx.scalarOf t) :=
  .bind ctx.erases_ensureOpen fun _ ↦ .ofBackend (.scalar t) fun _ _ ↦ rfl

theorem erases_changedBy (t : Statement) : Erases (ctx.recorded.changedBy t) (ctx.changedBy t) :=
  .bind ctx.erases_ensureOpen fun _ ↦ .ofBackend (.change t) fun _ _ ↦ rfl

theorem erases_drain (st : RowStream γ) : Erases (ctx.recorded.drain st) (ctx.drain st) :=
  fun s l ↦ ⟨l, by simp only [drain, recorded, RowStream.drain_recorded]⟩

theorem erases_single (st : RowStream γ) : Erases (ctx.recorded.single st) (ctx.single st) :=
  fun s l ↦ ⟨l, by simp only [single, recorded, RowStream.single_recorded]⟩

theorem erases_collectRows (t : Statement) (token : CancellationToken σ) :
    Erases (ctx.recorded.collectRows t token.recorded) (ctx.collectRows t token) :=
  .bind (fun _ l ↦ ⟨l, rfl⟩) fun _ ↦ .bind ctx.erases_ensureOpen fun _ ↦
    .bind (.ofBackend (.query t) fun _ _ ↦ rfl) fun c ↦ fun s l ↦
      ⟨l, by rw [recorded, Backend.collect_recorded]⟩

theorem erases_run (op : Operation) : Erases (ctx.recorded.run op) (ctx.run op) := by
  cases op with
  | toList q =>
    exact .map _ (.bind (.bind (.lift _) ctx.erases_streamRows) ctx.erases_drain)
  | count q p =>
    exact .map _ (.bind (.lift _) fun t ↦ .bind (ctx.erases_scalarOf t) fun _ ↦ .lift _)
  | first q p =>
    exact .map _ (.bind (.lift _) fun t ↦ .bind (ctx.erases_streamRows t) fun st ↦
      .bind (ctx.erases_single st) fun _ ↦ .lift _)
  | firstOrDefault q p =>
    exact .map _ (.bind (.lift _) fun t ↦ .bind (ctx.erases_streamRows t) ctx.erases_single)
  | callProcedure name arguments =>
    exact .map _ (.bind (.lift _) fun t ↦ .bind (ctx.erases_streamRows t) ctx.erases_drain)
  | update target fields p => exact .map _ (.bind (.lift _) ctx.erases_changedBy)
  | remove source p => exact .map _ (.bind (.lift _) ctx.erases_changedBy)

theorem erases_runAsync (token : CancellationToken σ) (op : Operation) :
    Erases (ctx.recorded.runAsync token.recorded op) (ctx.runAsync token op) := by
  have hcollect (t : Statement) :
      Erases (ctx.recorded.collectRows t .none) (ctx.collectRows t .none) :=
    ctx.erases_collectRows t .none
  cases op with
  | toList q => exact .map _ (.bind (.lift _) fun t ↦ ctx.erases_collectRows t token)
  | count q p => exact .map _ (.bind (.lift _) fun t ↦ .bind ctx.erases_ensureOpen fun _ ↦
      .bind (.ofBackend (.scalar t) fun _ _ ↦ rfl) fun _ ↦ .lift _)
  | first q p =>
    exact .map _ (.bind (.lift _) fun t ↦ .bind (hcollect t) fun _ ↦
      .bind (.lift _) fun _ ↦ .lift _)
  | firstOrDefault q p =>
    exact .map _ (.bind (.lift _) fun t ↦ .bind (hcollect t) fun _ ↦ .lift _)
  | callProcedure name arguments =>
    exact .map _ (.bind (.lift _) fun t ↦ ctx.erases_collectRows t token)
  | update target fields p => exact .map _ (.bind (.lift _) ctx.erases_changedBy)
  | remove source p => exact .map _ (.bind (.lift _) ctx.erases_changedBy)

/-- The record disturbs no invocation. -/
theorem invoke_recorded (i : Invocation σ) :
    Erases (ctx.recorded.invoke i.recorded) (ctx.invoke i) := by
  cases i with
  | blocking op => exact ctx.erases_run op
  | async op token => exact ctx.erases_runAsync token op
  | stream q => exact .map _ (.bind (.lift _) ctx.erases_streamRows)

end Context

end QueryChain
