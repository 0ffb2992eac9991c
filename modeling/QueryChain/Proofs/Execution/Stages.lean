import QueryChain.Proofs.Execution.Usage

/-!
# The stages of an invocation

Every invocation goes through the same stages. Its statement is made, the token is asked if there is
one to heed, the connection is opened unless it is open, the command is sent, and the answer is
worked on. `Context.perform` has these stages in it once, and `Context.run_eq`,
`Context.runAsync_eq` and `Context.stream_eq` bring every invocation into this form; the operations
differ in the statement, in the kind of the command and in the last stage only.

The last stage calls the database through a cursor at most, so it leaves no call on record. What is
on record of an invocation is therefore known before it runs: `Context.dueCalls`.
-/

namespace QueryChain

variable {σ γ α β δ : Type}

instance : LawfulMonad (Action σ) :=
  LawfulMonad.mk' _
    (fun x ↦ funext fun s ↦ by
      simp only [Functor.map]
      rcases x s with ⟨_ | _, _⟩ <;> rfl)
    (fun _ _ ↦ rfl) Action.bind_bind

theorem Action.bind_of_error {x : Action σ α} {s s' : σ} {e : Error} (h : x s = (.error e, s'))
    (f : α → Action σ β) : (x >>= f) s = (.error e, s') := by
  simp only [Bind.bind, h]

theorem Action.map_apply (f : α → β) (x : Action σ α) (s : σ) :
    (f <$> x) s = ((x s).1.map f, (x s).2) := by
  simp only [Functor.map]
  rcases x s with ⟨_ | _, _⟩ <;> rfl

/-- What leaves every state alone may follow. -/
theorem Action.bind_snd {f : α → Action σ β} (hf : ∀ a s, (f a s).2 = s) (x : Action σ α) (s : σ) :
    ((x >>= f) s).2 = (x s).2 := by
  rcases hx : x s with ⟨e | a, s'⟩
  · rw [bind_of_error hx]
  · rw [bind_of_ok hx, hf]

theorem CancellationToken.check_of_set (token : CancellationToken σ) {s : σ}
    (h : token.isCancelled s = true) : token.check s = .error .cancelled := by
  rw [check, if_pos h]

theorem CancellationToken.check_of_unset (token : CancellationToken σ) {s : σ}
    (h : token.isCancelled s = false) : token.check s = .ok () := by
  rw [check, if_neg (by simp [h])]

/-- Fails once the token is set, and does nothing else. -/
def CancellationToken.heed (token : CancellationToken σ) : Action σ Unit :=
  fun s ↦ (token.check s, s)

/-! ## Commands -/

/-- The kinds of commands, by what they are answered with. -/
inductive CommandKind
  | query
  | scalar
  | change
deriving DecidableEq

namespace CommandKind

/-- What a database answers to a command. -/
abbrev Result (γ : Type) : CommandKind → Type
  | query => γ
  | scalar => Value
  | change => UInt64

/-- The call that sends a statement as a command. -/
def call (t : Statement) : CommandKind → Call
  | query => .query t
  | scalar => .scalar t
  | change => .change t

end CommandKind

/-- Sends a statement as a command of the given kind. -/
def Backend.execute (b : Backend σ γ) (t : Statement) :
    (k : CommandKind) → σ → Except String (k.Result γ) × σ
  | .query => b.query t
  | .scalar => b.scalar t
  | .change => b.change t

theorem Backend.execute_recorded (b : Backend σ γ) (t : Statement) (k : CommandKind) (s : σ)
    (l : List Call) :
    b.recorded.execute t k (s, l) =
      ((b.execute t k s).1, (b.execute t k s).2, l ++ [k.call t]) := by
  cases k <;> rfl

/-- The kind of the command that an operation sends. -/
def Operation.command : Operation → CommandKind
  | toList _ | first .. | firstOrDefault .. | callProcedure .. => .query
  | count .. => .scalar
  | update .. | remove .. => .change

/-- The token that an operation heeds. Only lists and procedures can be cancelled. -/
def Operation.heeded (token : CancellationToken σ) : Operation → CancellationToken σ
  | toList _ | callProcedure .. => token
  | _ => .none

namespace Invocation

/-- The kind of the command that an invocation sends. -/
def command : Invocation σ → CommandKind
  | blocking op | async op _ => op.command
  | stream _ => .query

/-- The token that an invocation heeds. -/
def token : Invocation σ → CancellationToken σ
  | async op token => op.heeded token
  | blocking _ | stream _ => .none

end Invocation

namespace Context

variable (ctx : Context σ γ)

/-- The statement of an operation. -/
def operationStatement : Operation → Except Error Statement
  | .toList q => ctx.statementFor q .toList
  | .count q p => ctx.statementFor q (.count p)
  | .first q p => ctx.statementFor q (.first p)
  | .firstOrDefault q p => ctx.statementFor q (.firstOrDefault p)
  | .callProcedure name arguments => Statement.procedure name arguments ctx.dialect
  | .update target fields p => Statement.update target fields p ctx.dialect
  | .remove source p => Statement.delete source p ctx.dialect

/-- The statement of an invocation. A query is streamed as it is listed. -/
def statementOf : Invocation σ → Except Error Statement
  | .blocking op | .async op _ => ctx.operationStatement op
  | .stream q => ctx.statementFor q .toList

/-! ## The stages -/

/-- Sends a statement on a connection that is opened unless it is open. -/
def send (t : Statement) (k : CommandKind) : Action σ (k.Result γ) := do
  ctx.ensureOpen
  Action.ofBackend (ctx.backend.execute t k)

/-- All stages, from what the statement is made to be to what is done with the answer. -/
def perform (made : Except Error Statement) (token : CancellationToken σ) (k : CommandKind)
    (finish : k.Result γ → Action σ α) : Action σ α := do
  let t ← made
  token.heed
  let x ← ctx.send t k
  finish x

/-- The rows of a cursor, unless the token is set while they are read. -/
def collect (token : CancellationToken σ) (c : γ) : Action σ (List Row) :=
  ctx.backend.collect token c

/-- What a blocking operation does with the answer. -/
def finish : (op : Operation) → op.command.Result γ → Action σ (Answer γ)
  | .toList _, c | .callProcedure .., c => .rows <$> ctx.drain (.ofCursor c)
  | .count q _, v => .total <$> (q.adjustedCount v : Action σ Int64)
  | .first q _, c => do
    let row ← ctx.single (.ofCursor c)
    .row <$> (q.required row : Action σ Row)
  | .firstOrDefault .., c => .row? <$> ctx.single (.ofCursor c)
  | .update .., n | .remove .., n => pure (.changed n)

/-- What an asynchronous operation does with the answer. -/
def finishAsync (token : CancellationToken σ) :
    (op : Operation) → op.command.Result γ → Action σ (Answer γ)
  | .toList _, c | .callProcedure .., c => .rows <$> ctx.collect token c
  | .count q _, v => .total <$> (q.adjustedCount v : Action σ Int64)
  | .first q _, c => do
    let rows ← ctx.collect .none c
    let row ← Row.single? rows
    .row <$> (q.required row : Action σ Row)
  | .firstOrDefault .., c => do
    let rows ← ctx.collect .none c
    .row? <$> (Row.single? rows : Action σ (Option Row))
  | .update .., n | .remove .., n => pure (.changed n)

/-! ## Sending -/

section

variable {ctx} {t : Statement} {k : CommandKind} {s s' : σ}

theorem send_of_open (h : ctx.backend.isOpen s = true) :
    ctx.send t k s = Action.ofBackend (ctx.backend.execute t k) s :=
  Action.bind_of_ok (by rw [ensureOpen, if_pos h]) _

theorem ensureOpen_of_closed (h : ctx.backend.isOpen s = false) :
    ctx.ensureOpen s = Action.ofBackend ctx.backend.openConnection s := by
  rw [ensureOpen, if_neg (by simp [h])]

theorem send_of_opened (h : ctx.backend.isOpen s = false)
    (ho : ctx.backend.openConnection s = (.ok (), s')) :
    ctx.send t k s = Action.ofBackend (ctx.backend.execute t k) s' :=
  Action.bind_of_ok (by rw [ensureOpen_of_closed h, Action.ofBackend, ho]) _

theorem send_of_failed {m : String} (h : ctx.backend.isOpen s = false)
    (ho : ctx.backend.openConnection s = (.error m, s')) :
    ctx.send t k s = (.error (.driver m), s') :=
  Action.bind_of_error (by rw [ensureOpen_of_closed h, Action.ofBackend, ho]) _

end

section

variable {ctx} {t : Statement} {token : CancellationToken σ} {k : CommandKind}
  {finish : k.Result γ → Action σ α} {s : σ}

theorem perform_of_error {e : Error} : ctx.perform (.error e) token k finish s = (.error e, s) :=
  rfl

theorem perform_of_cancelled (h : token.isCancelled s = true) :
    ctx.perform (.ok t) token k finish s = (.error .cancelled, s) := by
  have hstop : token.heed s = (.error .cancelled, s) := by
    rw [CancellationToken.heed, token.check_of_set h]
  exact Action.bind_of_error hstop _

theorem perform_of_unset (h : token.isCancelled s = false) :
    ctx.perform (.ok t) token k finish s = (ctx.send t k >>= finish) s := by
  have hgo : token.heed s = (.ok (), s) := by
    rw [CancellationToken.heed, token.check_of_unset h]
  exact Action.bind_of_ok hgo _

end

/-! ## Every invocation in stages -/

/-- Without a token there is one stage less. -/
theorem perform_none (made : Except Error Statement) (k : CommandKind)
    (finish : k.Result γ → Action σ α) :
    ctx.perform made .none k finish =
      (made : Action σ Statement) >>= fun t ↦ ctx.send t k >>= finish :=
  rfl

theorem streamRows_bind (t : Statement) (f : RowStream γ → Action σ α) :
    ctx.streamRows t >>= f = ctx.send t .query >>= fun c ↦ f (.ofCursor c) := by
  simp only [streamRows, send, bind_assoc, pure_bind]
  rfl

theorem scalarOf_eq (t : Statement) : ctx.scalarOf t = ctx.send t .scalar := rfl

theorem changedBy_eq (t : Statement) : ctx.changedBy t = ctx.send t .change := rfl

theorem collectRows_eq (t : Statement) (token : CancellationToken σ) :
    ctx.collectRows t token =
      token.heed >>= fun _ ↦ ctx.send t .query >>= ctx.collect token :=
  congrArg (fun x : Action σ (List Row) ↦ token.heed >>= fun _ ↦ x)
    (bind_assoc ctx.ensureOpen (fun _ ↦ .ofBackend (ctx.backend.query t)) (ctx.collect token)).symm

/-- A token that nobody sets stops nothing. -/
theorem collectRows_none (t : Statement) :
    ctx.collectRows t .none = ctx.send t .query >>= ctx.collect .none :=
  ctx.collectRows_eq t .none

theorem run_eq (op : Operation) :
    ctx.run op = ctx.perform (ctx.operationStatement op) .none op.command (ctx.finish op) := by
  rw [perform_none]
  cases op with
  | toList q =>
    simp only [run, toList, stream, map_eq_pure_bind, bind_assoc, streamRows_bind]
    rfl
  | count q p =>
    simp only [run, count, scalarOf_eq, map_eq_pure_bind, bind_assoc]
    rfl
  | first q p =>
    simp only [run, first, map_eq_pure_bind, bind_assoc, streamRows_bind]
    rfl
  | firstOrDefault q p =>
    simp only [run, firstOrDefault, map_eq_pure_bind, bind_assoc, streamRows_bind]
    rfl
  | callProcedure name arguments =>
    simp only [run, callProcedure, map_eq_pure_bind, bind_assoc, streamRows_bind]
    rfl
  | update target fields p =>
    simp only [run, update, changedBy_eq, map_eq_pure_bind, bind_assoc]
    rfl
  | remove source p =>
    simp only [run, remove, changedBy_eq, map_eq_pure_bind, bind_assoc]
    rfl

theorem countAsync_eq (q : Query) (p : Option Predicate) : ctx.countAsync q p = ctx.count q p := by
  simp only [countAsync, count, scalarOf, bind_assoc]
  rfl

theorem runAsync_eq (token : CancellationToken σ) (op : Operation) :
    ctx.runAsync token op =
      ctx.perform (ctx.operationStatement op) (op.heeded token) op.command
        (ctx.finishAsync token op) := by
  cases op with
  | toList q =>
    simp only [runAsync, toListAsync, map_eq_pure_bind, bind_assoc, collectRows_eq]
    rfl
  | count q p =>
    rw [runAsync, countAsync_eq]
    exact ctx.run_eq (.count q p)
  | first q p =>
    simp only [runAsync, firstAsync, map_eq_pure_bind, bind_assoc, collectRows_none]
    rfl
  | firstOrDefault q p =>
    simp only [runAsync, firstOrDefaultAsync, map_eq_pure_bind, bind_assoc, collectRows_none]
    rfl
  | callProcedure name arguments =>
    simp only [runAsync, callProcedureAsync, map_eq_pure_bind, bind_assoc, collectRows_eq]
    rfl
  | update target fields p => exact ctx.run_eq (.update target fields p)
  | remove source p => exact ctx.run_eq (.remove source p)

theorem stream_eq (q : Query) :
    Answer.stream <$> ctx.stream q =
      ctx.perform (ctx.statementFor q .toList) .none .query fun c ↦
        pure (.stream (.ofCursor c)) := by
  rw [perform_none]
  simp only [stream, map_eq_pure_bind, bind_assoc, streamRows_bind]

/-- Invocations differ in what is asked for and in what is done with the answer. -/
theorem exists_perform (i : Invocation σ) :
    ∃ finish, ctx.invoke i = ctx.perform (ctx.statementOf i) i.token i.command finish := by
  rcases i with op | ⟨op, token⟩ | q
  · exact ⟨_, ctx.run_eq op⟩
  · exact ⟨_, ctx.runAsync_eq token op⟩
  · exact ⟨_, ctx.stream_eq q⟩

end Context

/-! ## The calls of the stages -/

/-- The run in states with a record does the same as the run without it, and adds the given calls to
the record. -/
def Action.Records (x : Action (σ × List Call) α) (y : Action σ α) (calls : σ → List Call) : Prop :=
  ∀ s l, x (s, l) = ((y s).1, (y s).2, l ++ calls s)

namespace Action.Records

variable {x : Action (σ × List Call) α} {y : Action σ α} {calls : σ → List Call}

theorem pure (a : α) : Records (Pure.pure a) (Pure.pure a : Action σ α) fun _ ↦ [] :=
  fun _ l ↦ by rw [List.append_nil]; rfl

theorem lift (r : Except Error α) :
    Records (MonadLift.monadLift r) (MonadLift.monadLift r : Action σ α) fun _ ↦ [] :=
  fun _ l ↦ by rw [List.append_nil]; rfl

/-- What calls nothing may follow. -/
theorem bind {f : α → Action (σ × List Call) β} {g : α → Action σ β} (hx : Records x y calls)
    (hf : ∀ a, Records (f a) (g a) fun _ ↦ []) : Records (x >>= f) (y >>= g) calls := by
  intro s l
  rcases hy : y s with ⟨e | a, s'⟩
  · rw [bind_of_error hy, bind_of_error (by rw [hx, hy])]
  · rw [bind_of_ok hy, bind_of_ok (by rw [hx, hy]), hf, List.append_nil]

theorem map (f : α → β) (h : Records x y calls) : Records (f <$> x) (f <$> y) calls :=
  h.bind fun a ↦ .pure (f a)

end Action.Records

namespace Context

open QueryChain.Action

variable (ctx : Context σ γ)

/-- The calls that send a statement. -/
def sendCalls (t : Statement) (k : CommandKind) (s : σ) : List Call :=
  if ctx.backend.isOpen s then [k.call t]
  else match (ctx.backend.openConnection s).1 with
    | .ok () => [.openConnection, k.call t]
    | .error _ => [.openConnection]

/-- The calls of all stages. -/
def stageCalls (made : Except Error Statement) (token : CancellationToken σ) (k : CommandKind)
    (s : σ) : List Call :=
  match made with
  | .error _ => []
  | .ok t => if token.isCancelled s then [] else ctx.sendCalls t k s

/-- The calls of an invocation. -/
def dueCalls (i : Invocation σ) : σ → List Call :=
  ctx.stageCalls (ctx.statementOf i) i.token i.command

section

variable {ctx} {t : Statement} {token : CancellationToken σ} {k : CommandKind} {s s' : σ}

theorem sendCalls_of_open (h : ctx.backend.isOpen s = true) : ctx.sendCalls t k s = [k.call t] :=
  if_pos h

theorem sendCalls_of_opened (h : ctx.backend.isOpen s = false)
    (ho : ctx.backend.openConnection s = (.ok (), s')) :
    ctx.sendCalls t k s = [.openConnection, k.call t] := by
  simp only [sendCalls, h, ho]
  rfl

theorem sendCalls_of_failed {m : String} (h : ctx.backend.isOpen s = false)
    (ho : ctx.backend.openConnection s = (.error m, s')) :
    ctx.sendCalls t k s = [.openConnection] := by
  simp only [sendCalls, h, ho]
  rfl

theorem stageCalls_of_error {e : Error} : ctx.stageCalls (.error e) token k s = [] := rfl

theorem stageCalls_of_cancelled (h : token.isCancelled s = true) :
    ctx.stageCalls (.ok t) token k s = [] :=
  if_pos h

theorem stageCalls_of_unset (h : token.isCancelled s = false) :
    ctx.stageCalls (.ok t) token k s = ctx.sendCalls t k s :=
  if_neg (by simp [h])

end

/-- A context over states with a list of notes does the same as one without, and notes every call.
-/
structure Notes {ε : Type} (ctx : Context σ γ) (noting : Context (σ × List ε) γ)
    (note : Call → ε) : Prop where
  isOpen : ∀ s l, noting.backend.isOpen (s, l) = ctx.backend.isOpen s
  openConnection : ∀ s l, noting.backend.openConnection (s, l) =
    ((ctx.backend.openConnection s).1, (ctx.backend.openConnection s).2,
      l ++ [note .openConnection])
  execute : ∀ t k s l, noting.backend.execute t k (s, l) =
    ((ctx.backend.execute t k s).1, (ctx.backend.execute t k s).2, l ++ [note (k.call t)])

/-- The notes of sending a statement are its calls. -/
theorem Notes.send {ε : Type} {ctx : Context σ γ} {noting : Context (σ × List ε) γ}
    {note : Call → ε} (h : ctx.Notes noting note) (t : Statement) (k : CommandKind) (s : σ)
    (l : List ε) : noting.send t k (s, l) =
      ((ctx.send t k s).1, (ctx.send t k s).2, l ++ (ctx.sendCalls t k s).map note) := by
  have hexecute (s : σ) (l : List ε) : ofBackend (noting.backend.execute t k) (s, l) =
      ((ofBackend (ctx.backend.execute t k) s).1, (ofBackend (ctx.backend.execute t k) s).2,
        l ++ [note (k.call t)]) := by
    simp only [ofBackend, h.execute]
    rcases ctx.backend.execute t k s with ⟨_ | _, _⟩ <;> rfl
  rcases hs : ctx.backend.isOpen s with _ | _
  · have hs' : noting.backend.isOpen (s, l) = false := (h.isOpen s l).trans hs
    rcases ho : ctx.backend.openConnection s with ⟨m | _, s'⟩
    · have ho' := h.openConnection s l
      rw [ho] at ho'
      rw [send_of_failed hs ho, send_of_failed hs' ho', sendCalls_of_failed hs ho]
      rfl
    · have ho' := h.openConnection s l
      rw [ho] at ho'
      rw [send_of_opened hs ho, send_of_opened hs' ho', sendCalls_of_opened hs ho, hexecute,
        List.append_assoc]
      rfl
  · have hs' : noting.backend.isOpen (s, l) = true := (h.isOpen s l).trans hs
    rw [send_of_open hs, send_of_open hs', sendCalls_of_open hs, hexecute]
    rfl

theorem notes_recorded : ctx.Notes ctx.recorded id where
  isOpen _ _ := rfl
  openConnection _ _ := rfl
  execute := ctx.backend.execute_recorded

theorem send_records (t : Statement) (k : CommandKind) :
    Records (ctx.recorded.send t k) (ctx.send t k) (ctx.sendCalls t k) := by
  intro s l
  rw [ctx.notes_recorded.send, List.map_id]

/-- The record of all stages is that of the command, whatever is done with the answer. -/
theorem perform_records {k : CommandKind} {finish : k.Result γ → Action σ α}
    {finish' : k.Result γ → Action (σ × List Call) α}
    (h : ∀ x, Records (finish' x) (finish x) fun _ ↦ []) (made : Except Error Statement)
    (token : CancellationToken σ) :
    Records (ctx.recorded.perform made token.recorded k finish')
      (ctx.perform made token k finish) (ctx.stageCalls made token k) := by
  intro s l
  rcases made with e | t
  · rw [perform_of_error, perform_of_error, stageCalls_of_error, List.append_nil]
  · rcases hc : token.isCancelled s with _ | _
    · have hc' : token.recorded.isCancelled (s, l) = false := hc
      rw [perform_of_unset hc, perform_of_unset hc', stageCalls_of_unset hc,
        (ctx.send_records t k).bind h]
    · have hc' : token.recorded.isCancelled (s, l) = true := hc
      rw [perform_of_cancelled hc, perform_of_cancelled hc', stageCalls_of_cancelled hc,
        List.append_nil]

/-! ## The calls of every invocation -/

theorem drain_records (st : RowStream γ) :
    Records (ctx.recorded.drain st) (ctx.drain st) fun _ ↦ [] :=
  fun s l ↦ by simp only [drain, recorded, RowStream.drain_recorded, List.append_nil]

theorem single_records (st : RowStream γ) :
    Records (ctx.recorded.single st) (ctx.single st) fun _ ↦ [] :=
  fun s l ↦ by simp only [single, recorded, RowStream.single_recorded, List.append_nil]

theorem collect_records (token : CancellationToken σ) (c : γ) :
    Records (ctx.recorded.collect token.recorded c) (ctx.collect token c) fun _ ↦ [] :=
  fun s l ↦ by simp only [collect, recorded, Backend.collect_recorded, List.append_nil]

theorem finish_records (op : Operation) (x : op.command.Result γ) :
    Records (ctx.recorded.finish op x) (ctx.finish op x) fun _ ↦ [] := by
  cases op with
  | toList q | callProcedure name arguments => exact (ctx.drain_records _).map _
  | count q p => exact .map _ (.lift _)
  | first q p => exact (ctx.single_records _).bind fun row ↦ .map _ (.lift _)
  | firstOrDefault q p => exact (ctx.single_records _).map _
  | update target fields p | remove source p => exact .pure _

theorem finishAsync_records (token : CancellationToken σ) (op : Operation)
    (x : op.command.Result γ) :
    Records (ctx.recorded.finishAsync token.recorded op x) (ctx.finishAsync token op x)
      fun _ ↦ [] := by
  have hcollect (c : γ) : Records (ctx.recorded.collect .none c) (ctx.collect .none c) fun _ ↦ [] :=
    ctx.collect_records .none c
  cases op with
  | toList q | callProcedure name arguments => exact (ctx.collect_records token _).map _
  | count q p => exact .map _ (.lift _)
  | first q p =>
    exact (hcollect _).bind fun rows ↦ (Records.lift _).bind fun row ↦ .map _ (.lift _)
  | firstOrDefault q p => exact (hcollect _).bind fun rows ↦ .map _ (.lift _)
  | update target fields p | remove source p => exact .pure _

theorem run_records (op : Operation) :
    Records (ctx.recorded.run op) (ctx.run op) (ctx.dueCalls (.blocking op)) := by
  rw [run_eq, run_eq]
  exact ctx.perform_records (ctx.finish_records op) (ctx.operationStatement op) .none

theorem runAsync_records (token : CancellationToken σ) (op : Operation) :
    Records (ctx.recorded.runAsync token.recorded op) (ctx.runAsync token op)
      (ctx.dueCalls (.async op token)) := by
  have hheeded : op.heeded token.recorded = (op.heeded token).recorded := by cases op <;> rfl
  rw [runAsync_eq, runAsync_eq, hheeded]
  exact ctx.perform_records (ctx.finishAsync_records token op) (ctx.operationStatement op) _

theorem stream_records (q : Query) :
    Records (Answer.stream <$> ctx.recorded.stream q) (Answer.stream <$> ctx.stream q)
      (ctx.dueCalls (.stream q)) := by
  rw [stream_eq, stream_eq]
  exact ctx.perform_records (fun _ ↦ .pure _) (ctx.statementFor q .toList) .none

/-- An invocation makes the calls that are due, whatever calls were made before it. -/
theorem invoke_records (i : Invocation σ) :
    Records (ctx.recorded.invoke i.recorded) (ctx.invoke i) (ctx.dueCalls i) := by
  rcases i with op | ⟨op, token⟩ | q
  · exact ctx.run_records op
  · exact ctx.runAsync_records token op
  · exact ctx.stream_records q

theorem calls_eq_dueCalls (i : Invocation σ) (s : σ) : ctx.calls i s = ctx.dueCalls i s := by
  rw [calls, invoke_records]
  rfl

end Context

end QueryChain
