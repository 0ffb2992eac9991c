import QueryChain.Proofs.Execution.Cursors

/-!
# What operations leave alone

An operation opens a connection, sends a command, fetches rows and gives the cursor back. It never
closes. What none of these calls touches in the state of a database is therefore as it was when the
operation ends, however it ends: `Context.runAsync_keeps`. Of a scripted database this is what
closing depends on, and how often it was done.
-/

namespace QueryChain

variable {σ γ α β δ : Type} {f : σ → δ}

/-! ## Runs that keep something -/

/-- The run ends with the same `f` of the state as it begins with. -/
def Action.Keeps (f : σ → δ) (x : Action σ α) : Prop := ∀ s, f (x s).2 = f s

namespace Action.Keeps

variable {x : Action σ α}

theorem pure (a : α) : Keeps f (Pure.pure a : Action σ α) := fun _ ↦ rfl

theorem lift (r : Except Error α) : Keeps f (MonadLift.monadLift r : Action σ α) := fun _ ↦ rfl

theorem bind {g : α → Action σ β} (hx : Keeps f x) (hg : ∀ a, Keeps f (g a)) :
    Keeps f (x >>= g) := by
  intro s
  have hs := hx s
  rcases h : x s with ⟨e | a, s'⟩ <;> rw [h] at hs
  · rwa [bind_of_error h]
  · rw [bind_of_ok h, hg, hs]

theorem map (g : α → β) (hx : Keeps f x) : Keeps f (g <$> x) := hx.bind fun a ↦ .pure (g a)

theorem ofBackend {g : σ → Except String α × σ} (h : ∀ s, f (g s).2 = f s) :
    Keeps f (Action.ofBackend g) :=
  fun s ↦ (congrArg f (ofBackend_snd g s)).trans (h s)

end Action.Keeps

/-! ## Databases that spare something -/

/-- Every call keeps `f` of the state, apart from the one that closes the connection. -/
structure Backend.Spares (b : Backend σ γ) (f : σ → δ) : Prop where
  fetch : ∀ c s, f (b.fetch c s).2.2 = f s
  release : ∀ c s, f (b.release c s) = f s
  openConnection : ∀ s, f (b.openConnection s).2 = f s
  execute : ∀ t k s, f (b.execute t k s).2 = f s

namespace Backend.Spares

variable {b : Backend σ γ}

theorem collect (h : b.Spares f) (token : CancellationToken σ) (c : γ) (s : σ) :
    f (b.collect token c s).2 = f s := by
  have hfetch {c c' : γ} {s s' : σ} {r : Fetch} (hf : b.fetch c s = (r, c', s')) : f s' = f s :=
    (congrArg (fun x ↦ f x.2.2) hf).symm.trans (h.fetch c s)
  induction c, s using Backend.collect.induct b token with
  | case1 c s e hc => rw [collect_of_cancelled hc, h.release]
  | case2 c s hc raw c' s' hf _ _ _ _ ih => rw [collect_of_row hc hf, ih, hfetch hf]
  | case3 c s hc c' s' hf => rw [collect_of_done hc hf, h.release, hfetch hf]
  | case4 c s hc m c' s' hf => rw [collect_of_failed hc hf, h.release, hfetch hf]

end Backend.Spares

namespace Context

open QueryChain.Action

variable {ctx : Context σ γ}

theorem ensureOpen_keeps (h : ctx.backend.Spares f) : Keeps f ctx.ensureOpen := by
  intro s
  rw [ensureOpen]
  split
  · rfl
  · exact Keeps.ofBackend h.openConnection s

theorem send_keeps (h : ctx.backend.Spares f) (t : Statement) (k : CommandKind) :
    Keeps f (ctx.send t k) :=
  (ensureOpen_keeps h).bind fun _ ↦ .ofBackend (h.execute t k)

theorem perform_keeps (h : ctx.backend.Spares f) (made : Except Error Statement)
    (token : CancellationToken σ) {k : CommandKind} {finish : k.Result γ → Action σ α}
    (hfinish : ∀ x, Keeps f (finish x)) : Keeps f (ctx.perform made token k finish) :=
  (Keeps.lift made).bind fun t ↦ Keeps.bind (x := token.heed) (fun _ ↦ rfl) fun _ ↦
    (send_keeps h t k).bind hfinish

theorem finishAsync_keeps (h : ctx.backend.Spares f) (token : CancellationToken σ) (op : Operation)
    (x : op.command.Result γ) : Keeps f (ctx.finishAsync token op x) := by
  have hcollect (token : CancellationToken σ) (c : γ) : Keeps f (ctx.collect token c) :=
    h.collect token c
  cases op with
  | toList q | callProcedure name arguments => exact (hcollect _ _).map _
  | count q p => exact .map _ (.lift _)
  | first q p => exact (hcollect _ _).bind fun rows ↦ (Keeps.lift _).bind fun row ↦ .map _ (.lift _)
  | firstOrDefault q p => exact (hcollect _ _).bind fun rows ↦ .map _ (.lift _)
  | update target fields p | remove source p => exact .pure _

/-- An operation keeps what every call keeps that does not close the connection. -/
theorem runAsync_keeps (ctx : Context σ γ) (h : ctx.backend.Spares f)
    (token : CancellationToken σ) (op : Operation) : Keeps f (ctx.runAsync token op) := by
  rw [runAsync_eq]
  exact perform_keeps h _ _ (finishAsync_keeps h token op)

end Context

namespace Script

/-- What closing depends on, and how often it was done. -/
def closing (s : Script) : Nat × Option String := (s.closes, s.closeFailure)

theorem closing_execute (t : Statement) (s : Script) : (execute t s).2.closing = s.closing := by
  obtain ⟨commands, replies, hsnd⟩ := exists_execute_snd t s
  rw [hsnd]
  rfl

theorem closing_command (t : Statement) (k : CommandKind) (s : Script) :
    (backend.execute t k s).2.closing = s.closing := by
  rw [← closing_execute t s]
  cases k with
  | query =>
    change (query t s).2.closing = _
    rw [query]
    rcases execute t s with ⟨m | ⟨rows, failure⟩ | v | n | m, s'⟩ <;> rfl
  | scalar =>
    change (scalar t s).2.closing = _
    rw [scalar]
    rcases execute t s with ⟨m | reply, s'⟩ <;> rfl
  | change =>
    change (change t s).2.closing = _
    rw [change]
    rcases execute t s with ⟨m | reply, s'⟩ <;> rfl

theorem closing_beginFetch (c : Cursor) (s : Script) : (beginFetch c s).closing = s.closing := by
  rw [beginFetch]
  rcases c.setter with _ | w
  · rfl
  · dsimp only
    split <;> rfl

theorem spares_closing : backend.Spares closing where
  fetch c s := by
    rw [← closing_beginFetch c s]
    rcases c with ⟨_ | ⟨raw, rest⟩, _ | m, n, w⟩ <;> rfl
  release _ _ := rfl
  openConnection s := by
    rcases s with ⟨replies, isOpen, opens, closes, _ | m⟩ <;> rfl
  execute := closing_command

end Script

end QueryChain
