import QueryChain.Execution.Script
import QueryChain.Proofs.Execution.Session

/-!
# Cursors are given back

A scripted database counts the cursors that are held. Every operation that asks for rows gets a
cursor, and it gives the cursor back however it ends: after the last row, after a fetch that failed,
after a second row where one was asked for, and when its token is set between two fetches. Only a
stream takes its cursor along, and holds it until it has reported its end or a failure, or is
dropped.

So a session can be audited by counting. `Session.openStreams` is the number of streams that are
neither dropped nor over, from what the caller has seen of them, and
`Script.liveCursors_after` says that the database counts just as many cursors.
-/

namespace QueryChain

variable {σ γ α β : Type}

namespace Action

variable (f : σ → Except String α × σ) (s : σ)

theorem ofBackend_snd : (ofBackend f s).2 = (f s).2 := by
  rw [ofBackend]
  rcases f s with ⟨_ | _, _⟩ <;> rfl

theorem isOk_ofBackend : (ofBackend f s).1.isOk = (f s).1.isOk := by
  rw [ofBackend]
  rcases f s with ⟨_ | _, _⟩ <;> rfl

theorem map_lift_snd (g : α → β) (r : Except Error α) : ((g <$> (r : Action σ α)) s).2 = s := by
  rw [map_apply]
  rfl

end Action

/-! ## Who holds a cursor -/

namespace RowStream

/-- The number of cursors that a stream holds. -/
def held (st : RowStream γ) : Nat :=
  match st.cursor with
  | none => 0
  | some _ => 1

theorem held_of_none {st : RowStream γ} (h : st.cursor = none) : st.held = 0 := by
  rw [held, h]

/-- A stream reports that it is over exactly when it is left without a cursor. -/
theorem isLast_next (b : Backend σ γ) (st : RowStream γ) (s : σ) :
    (Report.item (st.next b.toFetcher s).1 : Report γ).isLast = true ↔
      (st.next b.toFetcher s).2.1.cursor = none := by
  rcases st with ⟨_ | c, n⟩
  · exact iff_of_true rfl rfl
  rcases hf : b.fetch c s with ⟨raw | _ | m, c', s'⟩
  · rw [next_of_row hf]
    exact iff_of_false Bool.false_ne_true (Option.some_ne_none c')
  · rw [next_of_done hf]
    exact iff_of_true rfl rfl
  · rw [next_of_failed hf]
    exact iff_of_true rfl rfl

theorem cursor_of_last {b : Backend σ γ} {st st' : RowStream γ} {s s' : σ}
    {r : Option (Except Error Row)} (hn : st.next b.toFetcher s = (r, st', s'))
    (hlast : (Report.item r : Report γ).isLast = true) : st'.cursor = none := by
  have hover := (st.isLast_next b s).mp (by rwa [hn])
  rwa [hn] at hover

theorem cursor_drain (b : Backend σ γ) (st : RowStream γ) (s : σ) :
    (st.drain b s).2.1.cursor = none := by
  induction st, s using drain.induct b with
  | case1 st s st' s' hn =>
    rw [drain_of_over hn]
    exact cursor_of_last hn rfl
  | case2 st s e st' s' hn =>
    rw [drain_of_failed hn]
    exact cursor_of_last hn rfl
  | case3 st s r st' s' hn _ _ _ _ _ ih =>
    rw [drain_of_row hn]
    exact ih

end RowStream

/-- The number of cursors that come with an answer. -/
def CommandKind.cursors : CommandKind → Nat
  | query => 1
  | scalar | change => 0

namespace Script

open RowStream

theorem liveCursors_beginFetch (c : Cursor) (s : Script) :
    (beginFetch c s).liveCursors = s.liveCursors := by
  rw [beginFetch]
  rcases c.setter with _ | w
  · rfl
  · dsimp only
    split <;> rfl

theorem liveCursors_fetch (c : Cursor) (s : Script) :
    (fetch c s).2.2.liveCursors = s.liveCursors := by
  rw [← liveCursors_beginFetch c s, fetch]
  rcases c with ⟨_ | ⟨raw, rest⟩, _ | m, n, w⟩ <;> rfl

/-! ## Reading -/

/-- A stream gives its cursor back when it reports that it is over, and not before. -/
theorem liveCursors_next (st : RowStream Cursor) (s : Script) (h : st.held ≤ s.liveCursors) :
    (st.next backend.toFetcher s).2.2.liveCursors + st.held =
      s.liveCursors + (st.next backend.toFetcher s).2.1.held := by
  rcases st with ⟨_ | c, n⟩
  · rfl
  have hlive : (backend.fetch c s).2.2.liveCursors = s.liveCursors := liveCursors_fetch c s
  have hback : s.liveCursors - 1 + 1 = s.liveCursors := Nat.sub_add_cancel h
  rcases hf : backend.fetch c s with ⟨raw | _ | m, c', s'⟩ <;> rw [hf] at hlive
  · rw [next_of_row hf]
    exact congrArg (· + 1) hlive
  · rw [next_of_done hf]
    exact (congrArg (· - 1 + 1) hlive).trans hback
  · rw [next_of_failed hf]
    exact (congrArg (· - 1 + 1) hlive).trans hback

variable {st st' : RowStream Cursor} {s s' : Script}

theorem liveCursors_last {r : Option (Except Error Row)}
    (hn : st.next backend.toFetcher s = (r, st', s'))
    (hlast : (Report.item r : Report Cursor).isLast = true) (h : st.held ≤ s.liveCursors) :
    s'.liveCursors + st.held = s.liveCursors := by
  have hnext := liveCursors_next st s h
  rwa [hn, held_of_none (cursor_of_last hn hlast)] at hnext

/-- A stream that is drained has given its cursor back. -/
theorem liveCursors_drain (h : st.held ≤ s.liveCursors) :
    (st.drain backend s).2.2.liveCursors + st.held = s.liveCursors := by
  induction st, s using drain.induct backend with
  | case1 st s st' s' hn =>
    rw [drain_of_over hn]
    exact liveCursors_last hn rfl h
  | case2 st s e st' s' hn =>
    rw [drain_of_failed hn]
    exact liveCursors_last hn rfl h
  | case3 st s r st' s' hn _ _ _ _ _ ih =>
    have hnext : s'.liveCursors + st.held = s.liveCursors + st'.held := by
      simpa only [hn] using liveCursors_next st s h
    have hrest := ih (by omega)
    rw [drain_of_row hn]
    dsimp only
    omega

/-- So has a stream that is read for its only row, even if there are more rows. -/
theorem liveCursors_single {row : Option Row} {n : Nat} (h : st.held ≤ s.liveCursors) :
    (st.single backend row n s).2.2.liveCursors + st.held = s.liveCursors := by
  induction row, n, st, s using single.induct backend with
  | case1 row n st s st' s' hn =>
    rw [single_of_over hn]
    exact liveCursors_last hn rfl h
  | case2 row n st s e st' s' hn =>
    rw [single_of_failed hn]
    exact liveCursors_last hn rfl h
  | case3 row n st s r st' s' hn _ ih =>
    have hnext : s'.liveCursors + st.held = s.liveCursors + st'.held := by
      simpa only [hn] using liveCursors_next st s h
    have hrest := ih (by omega)
    rw [single_of_row hn]
    omega

/-- A cursor whose rows are taken is given back in any case. -/
theorem liveCursors_collect {token : CancellationToken Script} {c : Cursor}
    (h : 1 ≤ s.liveCursors) :
    (backend.collect token c s).2.liveCursors + 1 = s.liveCursors := by
  have hback {c c' : Cursor} {s s' : Script} {r : Fetch} (hf : backend.fetch c s = (r, c', s')) :
      s'.liveCursors = s.liveCursors :=
    (congrArg (·.2.2.liveCursors) hf).symm.trans (liveCursors_fetch c s)
  have hrelease (c : Cursor) {s : Script} (h : 1 ≤ s.liveCursors) :
      (backend.release c s).liveCursors + 1 = s.liveCursors := Nat.sub_add_cancel h
  induction c, s using Backend.collect.induct backend token with
  | case1 c s e hc =>
    rw [Backend.collect_of_cancelled hc]
    exact hrelease c h
  | case2 c s hc raw c' s' hf _ _ _ _ ih =>
    rw [Backend.collect_of_row hc hf, ← hback hf]
    exact ih (by rwa [hback hf])
  | case3 c s hc c' s' hf =>
    rw [Backend.collect_of_done hc hf, ← hback hf]
    exact hrelease c' (by rwa [hback hf])
  | case4 c s hc m c' s' hf =>
    rw [Backend.collect_of_failed hc hf, ← hback hf]
    exact hrelease c' (by rwa [hback hf])

/-! ## Commands -/

theorem liveCursors_openConnection (s : Script) :
    (openConnection s).2.liveCursors = s.liveCursors := by
  rcases s with ⟨replies, isOpen, opens, closes, _ | m⟩ <;> rfl

theorem liveCursors_closeConnection (s : Script) :
    (closeConnection s).2.liveCursors = s.liveCursors := by
  rcases s with ⟨replies, isOpen, opens, closes, openFailure, _ | m⟩ <;> rfl

theorem liveCursors_execute (t : Statement) (s : Script) :
    (execute t s).2.liveCursors = s.liveCursors := by
  obtain ⟨commands, replies, hsnd⟩ := exists_execute_snd t s
  rw [hsnd]

/-- A command that succeeds brings its cursor, and one that fails brings none. -/
theorem liveCursors_command (t : Statement) (k : CommandKind) (s : Script) :
    (backend.execute t k s).2.liveCursors =
      s.liveCursors + if (backend.execute t k s).1.isOk then k.cursors else 0 := by
  rw [← liveCursors_execute t s]
  cases k with
  | query =>
    change (query t s).2.liveCursors = _ + if (query t s).1.isOk then 1 else 0
    rw [query]
    rcases execute t s with ⟨m | ⟨rows, failure⟩ | v | n | m, s'⟩ <;> rfl
  | scalar =>
    change (scalar t s).2.liveCursors = _ + if (scalar t s).1.isOk then 0 else 0
    rw [ite_self, scalar]
    rcases execute t s with ⟨m | reply, s'⟩ <;> rfl
  | change =>
    change (change t s).2.liveCursors = _ + if (change t s).1.isOk then 0 else 0
    rw [ite_self, change]
    rcases execute t s with ⟨m | reply, s'⟩ <;> rfl

variable (d : Dialect)

theorem liveCursors_ensureOpen (s : Script) :
    (Context.ensureOpen ⟨backend, d⟩ s).2.liveCursors = s.liveCursors := by
  rw [Context.ensureOpen]
  by_cases h : backend.isOpen s = true
  · rw [if_pos h]
  · rw [if_neg h, Action.ofBackend_snd]
    exact liveCursors_openConnection s

theorem liveCursors_send (t : Statement) (k : CommandKind) (s : Script) :
    (Context.send ⟨backend, d⟩ t k s).2.liveCursors =
      s.liveCursors + if (Context.send ⟨backend, d⟩ t k s).1.isOk then k.cursors else 0 := by
  have hopen := liveCursors_ensureOpen d s
  rw [Context.send]
  rcases ho : Context.ensureOpen ⟨backend, d⟩ s with ⟨e | _, s'⟩ <;> rw [ho] at hopen
  · rw [Action.bind_of_error ho]
    exact hopen
  · rw [Action.bind_of_ok ho, Action.ofBackend_snd, Action.isOk_ofBackend, ← hopen]
    exact liveCursors_command t k s'

/-! ## Operations -/

/-- If the last stage gives back the cursor that came with the answer, all stages together change
nothing. -/
theorem liveCursors_perform {k : CommandKind} {finish : k.Result Cursor → Action Script α}
    (hfinish : ∀ x s, k.cursors ≤ s.liveCursors →
      (finish x s).2.liveCursors + k.cursors = s.liveCursors)
    (made : Except Error Statement) (token : CancellationToken Script) (s : Script) :
    (Context.perform ⟨backend, d⟩ made token k finish s).2.liveCursors = s.liveCursors := by
  rcases made with e | t
  · rfl
  rcases hset : token.isCancelled s with _ | _
  · rw [Context.perform_of_unset hset]
    have hsend := liveCursors_send d t k s
    rcases hs : Context.send ⟨backend, d⟩ t k s with ⟨e | x, s'⟩ <;> rw [hs] at hsend
    · rw [Action.bind_of_error hs]
      exact hsend
    · rw [Action.bind_of_ok hs]
      have hgained : s'.liveCursors = s.liveCursors + k.cursors := hsend
      have := hfinish x s' (by omega)
      omega
  · rw [Context.perform_of_cancelled hset]

variable {d} {c : Cursor} {s : Script}

/-- What is done with rows that were read does not touch the cursor. -/
theorem liveCursors_judged {x : Action Script β} {f : β → Action Script α}
    (hx : (x s).2.liveCursors + 1 = s.liveCursors) (hf : ∀ a s, (f a s).2 = s) :
    ((x >>= f) s).2.liveCursors + 1 = s.liveCursors := by
  rw [Action.bind_snd hf, hx]

theorem liveCursors_mapped {x : Action Script β} (f : β → α)
    (hx : (x s).2.liveCursors + 1 = s.liveCursors) :
    ((f <$> x) s).2.liveCursors + 1 = s.liveCursors := by
  rw [Action.map_apply, hx]

theorem liveCursors_drain_ofCursor (h : 1 ≤ s.liveCursors) :
    (Context.drain ⟨backend, d⟩ (.ofCursor c) s).2.liveCursors + 1 = s.liveCursors := by
  have hheld : (RowStream.ofCursor c).held ≤ s.liveCursors := h
  exact liveCursors_drain hheld

theorem liveCursors_single_ofCursor (h : 1 ≤ s.liveCursors) :
    (Context.single ⟨backend, d⟩ (.ofCursor c) s).2.liveCursors + 1 = s.liveCursors := by
  have hheld : (RowStream.ofCursor c).held ≤ s.liveCursors := h
  exact liveCursors_single hheld

/-- A blocking operation gives back the cursor that came with its answer. -/
theorem liveCursors_finish (op : Operation) (x : op.command.Result Cursor) (s : Script)
    (h : op.command.cursors ≤ s.liveCursors) :
    (Context.finish ⟨backend, d⟩ op x s).2.liveCursors + op.command.cursors = s.liveCursors := by
  cases op with
  | toList | callProcedure => exact liveCursors_mapped _ (liveCursors_drain_ofCursor h)
  | first q p =>
    exact liveCursors_judged (liveCursors_single_ofCursor h) fun row s ↦ Action.map_lift_snd s _ _
  | firstOrDefault => exact liveCursors_mapped _ (liveCursors_single_ofCursor h)
  | count q p =>
    exact congrArg Script.liveCursors (Action.map_lift_snd s Answer.total (q.adjustedCount x))
  | update | remove => rfl

/-- So does an asynchronous operation, whether its token stops it or not. -/
theorem liveCursors_finishAsync (token : CancellationToken Script) (op : Operation)
    (x : op.command.Result Cursor) (s : Script) (h : op.command.cursors ≤ s.liveCursors) :
    (Context.finishAsync ⟨backend, d⟩ token op x s).2.liveCursors + op.command.cursors =
      s.liveCursors := by
  cases op with
  | toList | callProcedure => exact liveCursors_mapped _ (liveCursors_collect h)
  | first q p =>
    exact liveCursors_judged (liveCursors_collect h) fun rows s ↦
      Action.bind_snd (fun row s ↦ Action.map_lift_snd s _ _) _ s
  | firstOrDefault =>
    exact liveCursors_judged (liveCursors_collect h) fun rows s ↦ Action.map_lift_snd s _ _
  | count q p =>
    exact congrArg Script.liveCursors (Action.map_lift_snd s Answer.total (q.adjustedCount x))
  | update | remove => rfl

theorem liveCursors_run (op : Operation) :
    (Context.run ⟨backend, d⟩ op s).2.liveCursors = s.liveCursors := by
  rw [Context.run_eq]
  exact liveCursors_perform d (liveCursors_finish op) _ _ s

theorem liveCursors_runAsync (token : CancellationToken Script) (op : Operation) :
    (Context.runAsync ⟨backend, d⟩ token op s).2.liveCursors = s.liveCursors := by
  rw [Context.runAsync_eq]
  exact liveCursors_perform d (liveCursors_finishAsync token op) _ _ s

theorem liveCursors_close : (Context.close ⟨backend, d⟩ s).2.liveCursors = s.liveCursors := by
  rw [Context.close]
  by_cases h : backend.isOpen s = true
  · rw [if_pos h, Action.ofBackend_snd]
    exact liveCursors_closeConnection s
  · rw [if_neg h]

/-- A call to a stream changes the number by what the stream gives back. -/
theorem liveCursors_streamCall (c : StreamCall) (h : st.held ≤ s.liveCursors) :
    (c.run backend st s).2.2.liveCursors + st.held =
      s.liveCursors + (c.run backend st s).2.1.elim 0 held := by
  cases c with
  | next => exact liveCursors_next st s h
  | reset => rfl
  | rest =>
    change (st.drain backend s).2.2.liveCursors + st.held =
      s.liveCursors + (st.drain backend s).2.1.held
    rw [liveCursors_drain h, held_of_none (cursor_drain backend st s), Nat.add_zero]
  | drop =>
    rcases st with ⟨_ | c, n⟩
    · rfl
    · exact Nat.sub_add_cancel h

end Script

/-! ## Streams that are not over -/

namespace Session

/-- The stream was not dropped, and it has reported neither its end nor a failure. -/
def isUnfinished : Option (Lease γ) → Bool
  | some lease => !lease.isOver
  | none => false

/-- The number of streams that are still to be read. -/
def openStreams (ses : Session σ γ) : Nat := ses.streams.countP isUnfinished

end Session

/-- The stream has no cursor exactly if it is known to be over. -/
def Lease.IsSound (lease : Lease γ) : Prop := lease.isOver = true ↔ lease.stream.cursor = none

theorem Lease.IsSound.held_eq {lease : Lease γ} (h : lease.IsSound) :
    lease.stream.held = if Session.isUnfinished (some lease) then 1 else 0 := by
  rcases lease with ⟨⟨_ | c, n⟩, _ | _⟩
  · exact absurd (h.mpr rfl) Bool.false_ne_true
  · rfl
  · rfl
  · exact absurd (h.mp rfl) (Option.some_ne_none c)

/-- What a stream reports tells whether it is left without a cursor. -/
theorem Lease.IsSound.afterCall {lease : Lease γ} (h : lease.IsSound) (b : Backend σ γ)
    (c : StreamCall) (s : σ) {st : RowStream γ}
    (hst : (c.run b lease.stream s).2.1 = some st) :
    (lease.afterCall (c.run b lease.stream s).1 st).IsSound := by
  rw [IsSound, Lease.afterCall, Bool.or_eq_true]
  cases c with
  | next =>
    obtain rfl : (lease.stream.next b.toFetcher s).2.1 = st := Option.some.inj hst
    refine (or_iff_right_of_imp fun hover ↦ ?_).trans (lease.stream.isLast_next b s)
    have hempty := h.mp hover
    exact (lease.stream.isLast_next b s).mpr (by rwa [RowStream.next_of_none hempty])
  | reset =>
    obtain rfl : lease.stream = st := Option.some.inj hst
    exact (or_iff_left Bool.false_ne_true).trans h
  | rest =>
    obtain rfl : (lease.stream.drain b s).2.1 = st := Option.some.inj hst
    exact iff_of_true (.inr rfl) (lease.stream.cursor_drain b s)
  | drop => cases hst

/-! ## Sessions -/

theorem le_countP {l : List α} {p : α → Bool} {n : Nat} {a : α} (h : l[n]? = some a) :
    (if p a then 1 else 0) ≤ l.countP p := by
  by_cases hp : p a = true
  · rw [if_pos hp]
    exact List.countP_pos_iff.mpr ⟨a, List.mem_of_getElem? h, hp⟩
  · rw [if_neg hp]
    exact Nat.zero_le _

theorem countP_set_add {l : List α} {p : α → Bool} {n : Nat} {a : α} (h : l[n]? = some a) (b : α) :
    (l.set n b).countP p + (if p a then 1 else 0) = l.countP p + if p b then 1 else 0 := by
  have hle := le_countP (p := p) h
  obtain ⟨hn, ha⟩ := List.getElem?_eq_some_iff.mp h
  rw [List.countP_set hn, ha]
  omega

/-- A change from outside leaves the number of held cursors alone. -/
def Step.SparesCursors : Step Script → Prop
  | outside f => ∀ s, (f s).liveCursors = s.liveCursors
  | _ => True

/-- Only a stream hands over a stream. -/
theorem Report.opened_map {f : α → Answer γ} (hf : ∀ a, (answer (.ok (f a))).opened = [])
    (x : Action σ α) (s : σ) : (answer ((f <$> x) s).1).opened = [] := by
  rw [Action.map_apply]
  rcases (x s).1 with e | a
  · rfl
  · exact hf a

theorem Context.opened_run (ctx : Context σ γ) (op : Operation) (s : σ) :
    (Report.answer (ctx.run op s).1).opened = [] := by
  cases op <;> exact Report.opened_map (fun _ ↦ rfl) _ s

theorem Context.opened_runAsync (ctx : Context σ γ) (token : CancellationToken σ) (op : Operation)
    (s : σ) : (Report.answer (ctx.runAsync token op s).1).opened = [] := by
  cases op <;> exact Report.opened_map (fun _ ↦ rfl) _ s

namespace Script

/-- The leases are sound, and besides `base` cursors those are held that they are about. -/
structure Audited (base : Nat) (ses : Session Script Cursor) : Prop where
  sound : ∀ lease, some lease ∈ ses.streams → lease.IsSound
  live : ses.database.liveCursors = base + ses.openStreams

variable {d : Dialect} {base : Nat} {ses : Session Script Cursor}

theorem Audited.of_live (h : Audited base ses) {s : Script}
    (hs : s.liveCursors = ses.database.liveCursors) : Audited base ⟨s, ses.streams⟩ :=
  ⟨h.sound, hs.trans h.live⟩

theorem stream_cases (q : Query) (s : Script) :
    (∃ e s', Context.invoke ⟨backend, d⟩ (.stream q) s = (.error e, s') ∧
      s'.liveCursors = s.liveCursors) ∨
    ∃ c s', Context.invoke ⟨backend, d⟩ (.stream q) s = (.ok (.stream (.ofCursor c)), s') ∧
      s'.liveCursors = s.liveCursors + 1 := by
  have hinvoke : Context.invoke ⟨backend, d⟩ (.stream q) = _ := Context.stream_eq ⟨backend, d⟩ q
  rw [hinvoke]
  rcases Context.statementFor ⟨backend, d⟩ q .toList with e | t
  · exact .inl ⟨e, s, rfl, rfl⟩
  rw [Context.perform_of_unset rfl]
  have hsend := liveCursors_send d t .query s
  rcases hs : Context.send ⟨backend, d⟩ t .query s with ⟨e | c, s'⟩ <;> rw [hs] at hsend
  · rw [Action.bind_of_error hs]
    exact .inl ⟨e, s', rfl, hsend⟩
  · rw [Action.bind_of_ok hs]
    exact .inr ⟨c, s', rfl, hsend⟩

theorem Audited.invoke (h : Audited base ses) (i : Invocation Script) :
    Audited base (Context.step ⟨backend, d⟩ ses (.invoke i)).2 := by
  let ctx : Context Script Cursor := ⟨backend, d⟩
  have hplain (hopened : (Report.answer (ctx.invoke i ses.database).1).opened = [])
      (hlive : (ctx.invoke i ses.database).2.liveCursors = ses.database.liveCursors) :
      Audited base (ctx.step ses (.invoke i)).2 := by
    have hstep : (ctx.step ses (.invoke i)).2 =
        ⟨(ctx.invoke i ses.database).2, ses.streams ++ []⟩ := by rw [← hopened]; rfl
    rw [hstep, List.append_nil]
    exact h.of_live hlive
  rcases i with op | ⟨op, token⟩ | q
  · exact hplain (ctx.opened_run op _) (liveCursors_run op)
  · exact hplain (ctx.opened_runAsync token op _) (liveCursors_runAsync token op)
  obtain ⟨e, s', hq, hlive⟩ | ⟨c, s', hq, hlive⟩ := stream_cases (d := d) q ses.database
  · exact hplain (by rw [hq]; rfl) (by rw [hq]; exact hlive)
  · have hstep : (ctx.step ses (.invoke (.stream q))).2 =
        ⟨s', ses.streams ++ [some ⟨.ofCursor c, false⟩]⟩ := by
      simp only [Context.step]
      rw [hq]
      rfl
    rw [hstep]
    refine ⟨?_, ?_⟩
    · intro lease hmem
      rcases List.mem_append.mp hmem with hold | hnew
      · exact h.sound lease hold
      · cases List.mem_singleton.mp hnew
        exact iff_of_false Bool.false_ne_true (Option.some_ne_none c)
    · have hcount : Session.openStreams (⟨s', ses.streams ++ [some ⟨.ofCursor c, false⟩]⟩ :
          Session Script Cursor) = ses.openStreams + 1 := List.countP_append
      rw [hcount, hlive, h.live, Nat.add_assoc]

theorem Audited.onStream (h : Audited base ses) (n : Nat) (c : StreamCall) :
    Audited base (Context.step ⟨backend, d⟩ ses (.onStream n c)).2 := by
  rcases hn : ses.streams[n]? with _ | _ | lease
  · simpa only [Context.step, hn] using h
  · simpa only [Context.step, hn] using h
  have hsound : lease.IsSound := h.sound lease (List.mem_of_getElem? hn)
  have hcounted : lease.stream.held ≤ ses.openStreams := by
    rw [hsound.held_eq]
    exact le_countP hn
  have hlive := h.live
  have hheld : lease.stream.held ≤ ses.database.liveCursors := by omega
  have hgiven := liveCursors_streamCall c hheld
  have hafter (st : RowStream Cursor)
      (hst : (c.run backend lease.stream ses.database).2.1 = some st) :=
    hsound.afterCall backend c ses.database hst
  rcases hrun : c.run backend lease.stream ses.database with ⟨r, st?, s'⟩
  have hstep : (Context.step ⟨backend, d⟩ ses (.onStream n c)).2 =
      ⟨s', ses.streams.set n (st?.map (lease.afterCall r))⟩ := by
    simp only [Context.step, hn, hrun]
  simp only [hrun] at hgiven hafter
  rw [hstep]
  refine ⟨?_, ?_⟩
  · intro lease' hmem
    rcases List.mem_or_eq_of_mem_set hmem with hold | hnew
    · exact h.sound lease' hold
    · obtain ⟨st, hst, rfl⟩ := Option.map_eq_some_iff.mp hnew.symm
      exact hafter st hst
  · -- The number of open streams changes as the number of cursors does that this stream holds.
    have hheld' : st?.elim 0 RowStream.held =
        if Session.isUnfinished (st?.map (lease.afterCall r)) then 1 else 0 := by
      rcases st? with _ | st
      · rfl
      · exact (hafter st rfl).held_eq
    have hset := countP_set_add (p := Session.isUnfinished) hn (st?.map (lease.afterCall r))
    rw [← hheld', ← hsound.held_eq] at hset
    rw [Session.openStreams] at hlive ⊢
    dsimp only
    omega

theorem Audited.step (h : Audited base ses) {x : Step Script} (hx : x.SparesCursors) :
    Audited base (Context.step ⟨backend, d⟩ ses x).2 := by
  cases x with
  | table | function | build | toSql | toSqlFor => exact h
  | invoke i => exact h.invoke i
  | close | closeAsync => exact h.of_live liveCursors_close
  | onStream n c => exact h.onStream n c
  | outside f => exact h.of_live (hx _)

theorem Audited.after (h : Audited base ses) {steps : List (Step Script)}
    (hsteps : ∀ x ∈ steps, x.SparesCursors) :
    Audited base (Context.after ⟨backend, d⟩ ses steps) := by
  induction steps generalizing ses with
  | nil => exact h
  | cons x steps ih =>
    rw [List.forall_mem_cons] at hsteps
    exact ih (h.step hsteps.1) hsteps.2

/-- Whatever a session did, as many cursors are held as it has streams to read, besides those that
were held before it. Every operation that gives no stream leaves the number alone, and so does
closing the connection. -/
theorem liveCursors_after (d : Dialect) (s : Script) (steps : List (Step Script))
    (hsteps : ∀ x ∈ steps, x.SparesCursors) :
    let ctx : Context Script Cursor := ⟨backend, d⟩
    let ses := ctx.after ⟨s, []⟩ steps
    ses.database.liveCursors = s.liveCursors + ses.openStreams ∧
      (∀ op, (ctx.run op ses.database).2.liveCursors = ses.database.liveCursors) ∧
      (∀ token op, (ctx.runAsync token op ses.database).2.liveCursors = ses.database.liveCursors) ∧
      (ctx.close ses.database).2.liveCursors = ses.database.liveCursors ∧
      (ctx.closeAsync ses.database).2.liveCursors = ses.database.liveCursors := by
  intro ctx ses
  have hstart : Audited s.liveCursors ⟨s, []⟩ :=
    ⟨fun lease hmem ↦ absurd hmem List.not_mem_nil, rfl⟩
  have hlive := (hstart.after (d := d) hsteps).live
  exact ⟨hlive, liveCursors_run, liveCursors_runAsync, liveCursors_close, liveCursors_close⟩

/-- Of two streams, one has given a row and the other has failed and been dropped. -/
theorem liveCursors_after_failed_fetch :
    let ctx : Context Script Cursor := ⟨backend, .sqlServer⟩
    let users : Query := ⟨.table "Users", []⟩
    let s : Script := { replies := [.rows [[("Id", .int32 1)]] none, .rows [] (some "lost")] }
    let steps : List (Step Script) := [.invoke (.stream users), .invoke (.stream users),
      .onStream 0 .next, .outside fun s ↦ { s with closeFailure := some "busy" },
      .onStream 1 .next, .onStream 1 .drop, .close]
    (∀ x ∈ steps, x.SparesCursors) ∧ (ctx.after ⟨s, []⟩ steps).database.liveCursors = 1 := by
  intro ctx users s steps
  have hsteps : ∀ x ∈ steps, x.SparesCursors := by
    simp [steps, Step.SparesCursors]
  obtain ⟨hlive, -⟩ := liveCursors_after .sqlServer s steps hsteps
  have hopen : (ctx.after ⟨s, []⟩ steps).openStreams = 1 := by decide +kernel
  exact ⟨hsteps, by rw [hlive, hopen]⟩

end Script

end QueryChain
