import QueryChain.Execution.Script
import QueryChain.Proofs.Execution.Operation

/-!
# Usage errors and the database

A usage error blames the caller for the query, and a query is judged before its statement is sent.
So an operation that ends in a usage error should have left the database alone: no call to it, and
its state as it was. `Context.IsSilentOnUsage` says so of one invocation in one state.

There are two reasons for which this holds. What only computes leaves every state alone, and the
statement is made by computation. What talks to the database fails in other ways: the database
reports a failure, a token is set, a row is missing or there are too many of them. The exception is
a count, whose answer is judged too: a number of rows that is no integer is a usage error, and it
comes after the command was sent. `Context.isSilentOnUsage_iff` says that this is the only exception.
-/

namespace QueryChain

variable {σ γ α β δ : Type}

/-! ## Actions without usage errors -/

namespace Action

/-- The action never fails with a usage error. -/
def IsBlameless (x : Action σ α) : Prop := ∀ s e s', x s = (.error e, s') → e.isUsage = false

/-- A usage error of the action leaves the state alone. -/
def IsQuiet (x : Action σ α) : Prop := ∀ s e s', x s = (.error e, s') → e.isUsage → s' = s

theorem lift_eq_iff {r : Except Error α} {s s' : σ} {a : α} :
    (liftM r : Action σ α) s = (.ok a, s') ↔ r = .ok a ∧ s = s' :=
  Iff.of_eq (Prod.mk.injEq ..)

theorem bind_bind (x : Action σ α) (f : α → Action σ β) (g : β → Action σ δ) :
    x >>= f >>= g = x >>= fun a ↦ f a >>= g := by
  funext s
  simp only [Bind.bind]
  rcases x s with ⟨_ | _, _⟩ <;> rfl

theorem bind_eq_error {x : Action σ α} {f : α → Action σ β} {s s' : σ} {e : Error}
    (h : (x >>= f) s = (.error e, s')) :
    x s = (.error e, s') ∨ ∃ a s₁, x s = (.ok a, s₁) ∧ f a s₁ = (.error e, s') := by
  simp only [Bind.bind] at h
  rcases hx : x s with ⟨e' | a, s₁⟩ <;> rw [hx] at h
  · cases h
    exact .inl rfl
  · exact .inr ⟨a, s₁, rfl, h⟩

theorem bind_eq_ok {x : Action σ α} {f : α → Action σ β} {s s' : σ} {b : β}
    (h : (x >>= f) s = (.ok b, s')) : ∃ a s₁, x s = (.ok a, s₁) ∧ f a s₁ = (.ok b, s') := by
  simp only [Bind.bind] at h
  rcases hx : x s with ⟨e | a, s₁⟩ <;> rw [hx] at h
  · cases h
  · exact ⟨a, s₁, rfl, h⟩

theorem bind_of_ok {x : Action σ α} {s s₁ : σ} {a : α} (h : x s = (.ok a, s₁))
    (f : α → Action σ β) : (x >>= f) s = f a s₁ := by
  simp only [Bind.bind, h]

theorem map_of_error {x : Action σ α} {s s' : σ} {e : Error} (h : x s = (.error e, s'))
    (f : α → β) : (f <$> x) s = (.error e, s') := by
  simp only [Functor.map, h]

theorem map_eq_error {x : Action σ α} {f : α → β} {s s' : σ} {e : Error}
    (h : (f <$> x) s = (.error e, s')) : x s = (.error e, s') := by
  obtain h | ⟨_, _, -, h⟩ := bind_eq_error (f := fun a ↦ Pure.pure (f a)) h
  · exact h
  · cases h

namespace IsBlameless

theorem pure (a : α) : IsBlameless (Pure.pure a : Action σ α) := by
  intro s e s' h
  cases h

theorem lift {r : Except Error α} (h : ∀ e, r = .error e → e.isUsage = false) :
    IsBlameless (MonadLift.monadLift r : Action σ α) :=
  fun _ e _ hr ↦ h e (congrArg Prod.fst hr)

theorem bind {x : Action σ α} {f : α → Action σ β} (hx : IsBlameless x)
    (hf : ∀ a, IsBlameless (f a)) : IsBlameless (x >>= f) := by
  intro s e s' h
  obtain h | ⟨a, s₁, -, h⟩ := bind_eq_error h
  · exact hx _ _ _ h
  · exact hf a _ _ _ h

/-- What the database reports is no usage error. -/
theorem ofBackend (f : σ → Except String α × σ) : IsBlameless (Action.ofBackend f) := by
  intro s e s' h
  simp only [Action.ofBackend] at h
  split at h <;> cases h
  rfl

end IsBlameless

theorem IsQuiet.lift (r : Except Error α) : IsQuiet (MonadLift.monadLift r : Action σ α) :=
  fun _ _ _ h _ ↦ (congrArg Prod.snd h).symm

/-- What cannot blame the caller may follow. -/
theorem IsQuiet.bind {x : Action σ α} {f : α → Action σ β} (hx : IsQuiet x)
    (hf : ∀ a, IsBlameless (f a)) : IsQuiet (x >>= f) := by
  intro s e s' h husage
  obtain h | ⟨a, s₁, -, h⟩ := bind_eq_error h
  · exact hx s e s' h husage
  · simp [hf a _ _ _ h] at husage

theorem IsQuiet.map {x : Action σ α} (f : α → β) (hx : IsQuiet x) : IsQuiet (f <$> x) :=
  fun s e s' h ↦ hx s e s' (map_eq_error h)

end Action

theorem RowStream.next_blameless {f : Fetcher σ γ} {st st' : RowStream γ} {s s' : σ} {e : Error}
    (h : st.next f s = (some (.error e), st', s')) : e.isUsage = false := by
  simp only [next] at h
  split at h
  · simp at h
  · split at h <;> cases h
    rfl

theorem RowStream.drain_blameless {b : Backend σ γ} {st : RowStream γ} {s : σ} {e : Error}
    (h : (st.drain b s).1 = .error e) : e.isUsage = false := by
  induction st, s using drain.induct b with
  | case1 st s st' s' hn => simp [drain_of_over hn] at h
  | case2 st s e' st' s' hn =>
    rw [drain_of_failed hn] at h
    cases h
    exact next_blameless hn
  | case3 st s r st' s' hn _ _ _ _ _ ih =>
    rw [drain_of_row hn] at h
    cases hr : (st'.drain b s').1 <;> rw [hr] at h <;> cases h
    exact ih hr

theorem RowStream.single_blameless {b : Backend σ γ} {row : Option Row} {n : Nat}
    {st : RowStream γ} {s : σ} {e : Error} (h : (st.single b row n s).1 = .error e) :
    e.isUsage = false := by
  induction row, n, st, s using single.induct b with
  | case1 row n st s st' s' hn =>
    rw [single_of_over hn] at h
    dsimp only at h
    split at h <;> cases h
    rfl
  | case2 row n st s e' st' s' hn =>
    rw [single_of_failed hn] at h
    cases h
    exact next_blameless hn
  | case3 row n st s r st' s' hn _ ih => exact ih (single_of_row hn ▸ h)

theorem CancellationToken.check_blameless {token : CancellationToken σ} {s : σ} {e : Error}
    (h : token.check s = .error e) : e.isUsage = false := by
  simp only [check] at h
  split at h <;> cases h
  rfl

theorem Backend.collect_blameless {b : Backend σ γ} {token : CancellationToken σ} {c : γ} {s : σ}
    {e : Error} (h : (b.collect token c s).1 = .error e) : e.isUsage = false := by
  induction c, s using collect.induct b token with
  | case1 c s e' hc =>
    rw [collect_of_cancelled hc] at h
    cases h
    exact CancellationToken.check_blameless hc
  | case2 c s hc raw c' s' hf _ _ _ _ ih =>
    rw [collect_of_row hc hf] at h
    cases hr : (b.collect token c' s').1 <;> rw [hr] at h <;> cases h
    exact ih hr
  | case3 c s hc c' s' hf => simp [collect_of_done hc hf] at h
  | case4 c s hc c' s' m hf =>
    rw [collect_of_failed hc hf] at h
    cases h
    rfl

theorem Row.single?_blameless {rows : List Row} {e : Error} (h : Row.single? rows = .error e) :
    e.isUsage = false := by
  simp only [single?] at h
  split at h <;> cases h
  rfl

theorem Query.required_blameless {q : Query} {row : Option Row} {e : Error}
    (h : q.required row = .error e) : e.isUsage = false := by
  cases row <;> cases h
  rfl

/-! ## The operations that are quiet -/

namespace Context

open QueryChain.Action

variable (ctx : Context σ γ)

theorem ensureOpen_blameless : IsBlameless ctx.ensureOpen := by
  intro s e s' h
  simp only [ensureOpen] at h
  split at h
  · cases h
  · exact IsBlameless.ofBackend _ s e s' h

theorem streamRows_blameless (t : Statement) : IsBlameless (ctx.streamRows t) :=
  ctx.ensureOpen_blameless.bind fun _ ↦ (IsBlameless.ofBackend _).bind fun _ ↦ .pure _

theorem scalarOf_blameless (t : Statement) : IsBlameless (ctx.scalarOf t) :=
  ctx.ensureOpen_blameless.bind fun _ ↦ .ofBackend _

theorem changedBy_blameless (t : Statement) : IsBlameless (ctx.changedBy t) :=
  ctx.ensureOpen_blameless.bind fun _ ↦ .ofBackend _

theorem drain_blameless (st : RowStream γ) : IsBlameless (ctx.drain st) :=
  fun _ _ _ h ↦ RowStream.drain_blameless (congrArg Prod.fst h)

theorem single_blameless (st : RowStream γ) : IsBlameless (ctx.single st) :=
  fun _ _ _ h ↦ RowStream.single_blameless (congrArg Prod.fst h)

theorem collectRows_blameless (t : Statement) (token : CancellationToken σ) :
    IsBlameless (ctx.collectRows t token) := by
  have hcheck : IsBlameless fun s : σ ↦ (token.check s, s) :=
    fun _ _ _ h ↦ CancellationToken.check_blameless (congrArg Prod.fst h)
  exact hcheck.bind fun _ ↦ ctx.ensureOpen_blameless.bind fun _ ↦
    (IsBlameless.ofBackend _).bind fun _ _ _ _ h ↦
      Backend.collect_blameless (congrArg Prod.fst h)

end Context

/-- The query that an invocation counts, and the condition that it adds. -/
def Invocation.counted? : Invocation σ → Option (Query × Option Predicate)
  | blocking (.count q p) | async (.count q p) _ => some (q, p)
  | _ => none

@[simp] theorem Invocation.counted?_recorded (i : Invocation σ) :
    i.recorded.counted? = i.counted? := by
  rcases i with op | ⟨op, token⟩ | q
  · cases op <;> rfl
  · cases op <;> rfl
  · rfl

namespace Context

open QueryChain.Action

variable (ctx : Context σ γ) {q : Query} {p : Option Predicate} {i : Invocation σ} {s s' : σ}

/-- What is no count judges nothing but the query. -/
theorem invoke_quiet (h : i.counted? = none) : IsQuiet (ctx.invoke i) := by
  have hrequired (q : Query) (row : Option Row) :
      IsBlameless (MonadLift.monadLift (q.required row) : Action σ Row) :=
    .lift fun _ ↦ Query.required_blameless
  have hsingle (rows : List Row) :
      IsBlameless (MonadLift.monadLift (Row.single? rows) : Action σ (Option Row)) :=
    .lift fun _ ↦ Row.single?_blameless
  rcases i with op | ⟨op, token⟩ | q
  · cases op with
    | toList q =>
      exact .map _ (.bind (.bind (.lift _) ctx.streamRows_blameless) ctx.drain_blameless)
    | count q p => cases h
    | first q p =>
      exact .map _ (.bind (.lift _) fun t ↦ (ctx.streamRows_blameless t).bind fun st ↦
        (ctx.single_blameless st).bind (hrequired q))
    | firstOrDefault q p =>
      exact .map _ (.bind (.lift _) fun t ↦
        (ctx.streamRows_blameless t).bind ctx.single_blameless)
    | callProcedure name arguments =>
      exact .map _ (.bind (.lift _) fun t ↦
        (ctx.streamRows_blameless t).bind ctx.drain_blameless)
    | update target fields p => exact .map _ (.bind (.lift _) ctx.changedBy_blameless)
    | remove source p => exact .map _ (.bind (.lift _) ctx.changedBy_blameless)
  · cases op with
    | toList q => exact .map _ (.bind (.lift _) fun t ↦ ctx.collectRows_blameless t token)
    | count q p => cases h
    | first q p =>
      exact .map _ (.bind (.lift _) fun t ↦ (ctx.collectRows_blameless t .none).bind fun rows ↦
        (hsingle rows).bind (hrequired q))
    | firstOrDefault q p =>
      exact .map _ (.bind (.lift _) fun t ↦ (ctx.collectRows_blameless t .none).bind hsingle)
    | callProcedure name arguments =>
      exact .map _ (.bind (.lift _) fun t ↦ ctx.collectRows_blameless t token)
    | update target fields p => exact .map _ (.bind (.lift _) ctx.changedBy_blameless)
    | remove source p => exact .map _ (.bind (.lift _) ctx.changedBy_blameless)
  · exact .map _ (.bind (.lift _) ctx.streamRows_blameless)

/-- Both forms of a count do the same. -/
theorem invoke_of_counted (h : i.counted? = some (q, p)) :
    ctx.invoke i = .total <$> ctx.count q p := by
  have hasync : ctx.countAsync q p = ctx.count q p := by
    simp only [countAsync, count, scalarOf, bind_bind]
    rfl
  rcases i with op | ⟨op, token⟩ | q'
  · cases op <;> cases h
    rfl
  · cases op <;> cases h
    rw [← hasync]
    rfl
  · cases h

/-! ## Counts -/

/-- The invocation is a count whose command is answered with something that is no integer. -/
def Miscounts (i : Invocation σ) (s : σ) : Prop :=
  ∃ q p t v s₁, i.counted? = some (q, p) ∧ ctx.statementFor q (.count p) = .ok t ∧
    ctx.scalarOf t s = (.ok v, s₁) ∧ v.asInt64? = none

/-- If the invocation ends in a usage error, then it has not called the database, whose state is as
it was. -/
def IsSilentOnUsage (i : Invocation σ) (s : σ) : Prop :=
  ∀ e s', ctx.invoke i s = (.error e, s') → e.isUsage → ctx.calls i s = [] ∧ s' = s

theorem quiet_of_not_miscounts (hm : ¬ctx.Miscounts i s) {e : Error}
    (h : ctx.invoke i s = (.error e, s')) (husage : e.isUsage) : s' = s := by
  rcases hc : i.counted? with _ | ⟨q, p⟩
  · exact ctx.invoke_quiet hc s e s' h husage
  rw [ctx.invoke_of_counted hc] at h
  obtain h | ⟨t, s₁, hlift, h⟩ := bind_eq_error (map_eq_error h)
  · exact IsQuiet.lift _ s e s' h husage
  obtain ⟨ht, rfl⟩ := lift_eq_iff.mp hlift
  obtain h | ⟨v, s₂, hv, h⟩ := bind_eq_error h
  · simp [ctx.scalarOf_blameless t s e s' h] at husage
  -- The answer came, so it is the answer that is judged.
  have hjudged : q.adjustedCount v = .error e := (Prod.mk.inj h).1
  refine absurd ⟨q, p, t, v, s₂, hc, ht, hv, ?_⟩ hm
  rcases hn : v.asInt64? with _ | n
  · rfl
  · simp [Query.adjustedCount, hn] at hjudged

theorem miscounts_of_recorded {l : List Call}
    (h : ctx.recorded.Miscounts i.recorded (s, l)) : ctx.Miscounts i s := by
  obtain ⟨q, p, t, v, s₁, hc, ht, hv, hn⟩ := h
  obtain ⟨l', hl⟩ := ctx.erases_scalarOf t s l
  rw [hl] at hv
  exact ⟨q, p, t, v, (ctx.scalarOf t s).2, by simpa using hc, ht,
    Prod.ext (Prod.mk.inj hv).1 rfl, hn⟩

theorem isSilentOnUsage_of_not_miscounts (hm : ¬ctx.Miscounts i s) : ctx.IsSilentOnUsage i s := by
  intro e s' h husage
  refine ⟨?_, ctx.quiet_of_not_miscounts hm h husage⟩
  -- The run with a record fails in the same way, so its state is as it was too, record included.
  obtain ⟨l, hl⟩ := ctx.invoke_recorded i s []
  rw [h] at hl
  have := ctx.recorded.quiet_of_not_miscounts (mt ctx.miscounts_of_recorded hm) hl husage
  simp only [calls, hl]
  exact congrArg Prod.snd this

/-- The answer is judged last. -/
theorem count_of_ok {t : Statement} {v : Value} {s₁ : σ}
    (ht : ctx.statementFor q (.count p) = .ok t) (hv : ctx.scalarOf t s = (.ok v, s₁)) :
    ctx.count q p s = (q.adjustedCount v, s₁) := by
  rw [count, bind_of_ok (lift_eq_iff.mpr ⟨ht, rfl⟩), bind_of_ok hv]
  rfl

theorem scalarOf_recorded {t : Statement} {v : Value} {s₁ : σ} (l : List Call)
    (h : ctx.scalarOf t s = (.ok v, s₁)) :
    ∃ l', ctx.recorded.scalarOf t (s, l) = (.ok v, s₁, l' ++ [.scalar t]) := by
  obtain ⟨_, s₂, ho, ha⟩ := bind_eq_ok h
  obtain ⟨l', hl⟩ := ctx.erases_ensureOpen s l
  rw [ho] at hl
  refine ⟨l', ?_⟩
  rw [scalarOf, bind_of_ok hl]
  simp only [ofBackend, recorded, Backend.recorded] at ha ⊢
  rcases hb : ctx.backend.scalar t s₂ with ⟨_ | _, s₃⟩ <;> rw [hb] at ha <;> cases ha
  rfl

theorem not_isSilentOnUsage_of_miscounts (h : ctx.Miscounts i s) : ¬ctx.IsSilentOnUsage i s := by
  intro hsilent
  obtain ⟨q, p, t, v, s₁, hc, ht, hv, hn⟩ := h
  have hjudged : q.adjustedCount v = .error (.countNotInteger v.text) := by
    simp [Query.adjustedCount, hn]
  have herror : ctx.invoke i s = (.error (.countNotInteger v.text), s₁) := by
    rw [ctx.invoke_of_counted hc]
    exact map_of_error (by rw [ctx.count_of_ok ht hv, hjudged]) _
  obtain ⟨l, hl⟩ := ctx.scalarOf_recorded [] hv
  have hcalls : ctx.calls i s = l ++ [.scalar t] := by
    rw [calls, ctx.recorded.invoke_of_counted (by simpa using hc)]
    rw [map_of_error (by rw [ctx.recorded.count_of_ok ht hl, hjudged]) _]
  have hnone := (hsilent _ _ herror rfl).1
  simp [hcalls] at hnone

/-- A usage error means that nothing was sent, unless a count came back as something other than an
integer. -/
theorem isSilentOnUsage_iff (i : Invocation σ) (s : σ) :
    ctx.IsSilentOnUsage i s ↔ ¬ctx.Miscounts i s :=
  ⟨fun h hm ↦ ctx.not_isSilentOnUsage_of_miscounts hm h, ctx.isSilentOnUsage_of_not_miscounts⟩

/-- The number of users is asked for, and a text comes back. The command was sent, and still the
error blames the caller. -/
theorem count_answered_by_text :
    let ctx : Context Script Script.Cursor := ⟨Script.backend, .sqlServer⟩
    let users : Invocation Script := .blocking (.count ⟨.table "Users", []⟩ none)
    let command : Statement := ⟨"SELECT COUNT(*) FROM Users", []⟩
    let s : Script := { replies := [.scalar (.string "x")] }
    let s' : Script := { isOpen := true, opens := 1, commands := [command] }
    ctx.invoke users s = (.error (.countNotInteger "'x'"), s') ∧
      (Error.countNotInteger "'x'").isUsage ∧
      ctx.calls users s = [.openConnection, .scalar command] ∧ ¬ctx.IsSilentOnUsage users s := by
  intro ctx users command s s'
  refine ⟨by rfl, by rfl, by rfl, ?_⟩
  exact ctx.not_isSilentOnUsage_of_miscounts
    ⟨_, none, command, .string "x", s', rfl, rfl, rfl, rfl⟩

end Context

end QueryChain
