import QueryChain.Proofs.Execution.Agreement

/-!
# Cancelling a run

A run that takes all rows asks its token before the command is sent and before every fetch. Between
two questions the token can be set by anybody, so a state is all that is known of it: the state that
a fetch leaves has the token set, or it has not. What becomes of the run depends on the first
question that finds the token set. Asked before the first command, it ends a run that has not begun;
asked behind `k` fetches, it ends the run there, whatever the next fetch would have given; and the
fetch that finds no more rows is the last, so a token that is set during it comes too late.

The events of a run are on record here, one by one: the calls that send the command, each fetch, and
the release of the cursor.
-/

namespace QueryChain

variable {σ γ : Type}

/-! ## The result behind a cursor -/

namespace Backend

variable (b : Backend σ γ)

/-- The cursor gives these rows, and then it ends or fails. -/
inductive Gives : γ → σ → List RawRow → Option String → Prop
  | done {c c' s s'} (h : b.fetch c s = (.done, c', s')) : Gives c s [] none
  | failed {c c' s s' m} (h : b.fetch c s = (.failed m, c', s')) : Gives c s [] (some m)
  | row {c c' s s' raw raws failure} (h : b.fetch c s = (.row raw, c', s'))
    (hrest : Gives c' s' raws failure) : Gives c s (raw :: raws) failure

/-- Cursors are finite, so every cursor has a result. -/
theorem exists_gives (c : γ) (s : σ) : ∃ raws failure, b.Gives c s raws failure := by
  induction hn : b.remaining c using Nat.strongRecOn generalizing c s with
  | ind n ih =>
    rcases hf : b.fetch c s with ⟨raw | _ | m, c', s'⟩
    · have hlt : b.remaining c' < n := hn ▸ b.remaining_lt hf
      obtain ⟨raws, failure, hrest⟩ := ih _ hlt c' s' rfl
      exact ⟨_, _, .row hf hrest⟩
    · exact ⟨_, _, .done hf⟩
    · exact ⟨_, _, .failed hf⟩

/-- The cursor and the state after a number of fetches. -/
def place (c : γ) (s : σ) : Nat → γ × σ
  | 0 => (c, s)
  | k + 1 => place (b.fetch c s).2.1 (b.fetch c s).2.2 k

theorem place_of_fetch {c c' : γ} {s s' : σ} {f : Fetch} (h : b.fetch c s = (f, c', s')) (k : Nat) :
    b.place c s (k + 1) = b.place c' s' k := by
  rw [place, h]

/-- The token is set after `k` fetches, and not before. -/
def CancelledAfter (token : CancellationToken σ) (c : γ) (s : σ) (k : Nat) : Prop :=
  token.isCancelled (b.place c s k).2 = true ∧
    ∀ j < k, token.isCancelled (b.place c s j).2 = false

/-- Up to any number of fetches, the token was set at some point or it is not set. -/
theorem exists_cancelledAfter_or (token : CancellationToken σ) (c : γ) (s : σ) (n : Nat) :
    (∃ k ≤ n, b.CancelledAfter token c s k) ∨
      ∀ k ≤ n, token.isCancelled (b.place c s k).2 = false := by
  induction n with
  | zero =>
    rcases h : token.isCancelled (b.place c s 0).2 with _ | _
    · exact .inr fun k hk ↦ Nat.le_zero.mp hk ▸ h
    · exact .inl ⟨0, Nat.le_refl 0, h, fun j hj ↦ absurd hj (Nat.not_lt_zero j)⟩
  | succ n ih =>
    rcases ih with ⟨k, hk, hset⟩ | hunset
    · exact .inl ⟨k, Nat.le_succ_of_le hk, hset⟩
    · rcases h : token.isCancelled (b.place c s (n + 1)).2 with _ | _
      · refine .inr fun k hk ↦ ?_
        rcases Nat.le_succ_iff.mp hk with hk | rfl
        · exact hunset k hk
        · exact h
      · exact .inl ⟨n + 1, Nat.le_refl _, h, fun j hj ↦ hunset j (Nat.lt_succ_iff.mp hj)⟩

/-- What a result comes to: its rows, or the failure behind them. -/
def readout (raws : List RawRow) : Option String → Except Error (List Row)
  | none => .ok (raws.map .ofColumns)
  | some m => .error (.driver m)

/-- The cursor is given back where it stands. -/
def releaseAt (p : γ × σ) : σ := b.release p.1 p.2

section

variable {b} {token : CancellationToken σ} {c : γ} {s : σ} {raws : List RawRow}
  {failure : Option String}

/-- The rows that were read are lost with the run. The induction is on the rows, which is why a
failure behind them makes no difference. -/
theorem Gives.collect_of_cancelledAfter (h : b.Gives c s raws failure) {k : Nat}
    (hk : k ≤ raws.length) (hset : b.CancelledAfter token c s k) :
    b.collect token c s = (.error .cancelled, b.releaseAt (b.place c s k)) := by
  induction h generalizing k with
  | done | failed =>
    obtain rfl := Nat.le_zero.mp hk
    exact collect_of_cancelled (token.check_of_set hset.1)
  | @row c c' s s' raw raws failure hf _ ih =>
    rcases k with _ | k
    · exact collect_of_cancelled (token.check_of_set hset.1)
    · have hgo : token.check s = .ok () := token.check_of_unset (hset.2 0 (Nat.succ_pos k))
      have hrest : b.CancelledAfter token c' s' k := by
        refine ⟨?_, fun j hj ↦ ?_⟩
        · rw [← b.place_of_fetch hf]
          exact hset.1
        · rw [← b.place_of_fetch hf]
          exact hset.2 (j + 1) (Nat.succ_lt_succ hj)
      rw [collect_of_row hgo hf, ih (Nat.le_of_succ_le_succ hk) hrest, b.place_of_fetch hf]
      rfl

/-- The fetch behind the last row is made without any further question. -/
theorem Gives.collect_of_unset (h : b.Gives c s raws failure)
    (hunset : ∀ k ≤ raws.length, token.isCancelled (b.place c s k).2 = false) :
    b.collect token c s =
      (readout raws failure, b.releaseAt (b.place c s (raws.length + 1))) := by
  induction h with
  | @done c c' s s' hf =>
    have hgo : token.check s = .ok () := token.check_of_unset (hunset 0 (Nat.le_refl 0))
    rw [collect_of_done hgo hf, List.length_nil, b.place_of_fetch hf]
    rfl
  | @failed c c' s s' m hf =>
    have hgo : token.check s = .ok () := token.check_of_unset (hunset 0 (Nat.le_refl 0))
    rw [collect_of_failed hgo hf, List.length_nil, b.place_of_fetch hf]
    rfl
  | @row c c' s s' raw raws failure hf _ ih =>
    have hrest : ∀ k ≤ raws.length, token.isCancelled (b.place c' s' k).2 = false := by
      intro k hk
      rw [← b.place_of_fetch hf]
      exact hunset (k + 1) (Nat.succ_le_succ hk)
    have hgo : token.check s = .ok () := token.check_of_unset (hunset 0 (Nat.zero_le _))
    rw [collect_of_row hgo hf, ih hrest, List.length_cons, b.place_of_fetch hf]
    rcases failure with _ | m <;> rfl

end

end Backend

/-! ## The events of a run -/

/-- What happens to a database in a run. -/
inductive Event
  | call (c : Call)
  | fetch
  | release
deriving DecidableEq

/-- The database with a record of all that happens to it, the oldest first. -/
def Backend.traced (b : Backend σ γ) : Backend (σ × List Event) γ where
  fetch c s := ((b.fetch c s.1).1, (b.fetch c s.1).2.1, (b.fetch c s.1).2.2, s.2 ++ [.fetch])
  release c s := (b.release c s.1, s.2 ++ [.release])
  isOpen s := b.isOpen s.1
  openConnection s :=
    ((b.openConnection s.1).1, (b.openConnection s.1).2, s.2 ++ [.call .openConnection])
  closeConnection s :=
    ((b.closeConnection s.1).1, (b.closeConnection s.1).2, s.2 ++ [.call .closeConnection])
  query t s := ((b.query t s.1).1, (b.query t s.1).2, s.2 ++ [.call (.query t)])
  scalar t s := ((b.scalar t s.1).1, (b.scalar t s.1).2, s.2 ++ [.call (.scalar t)])
  change t s := ((b.change t s.1).1, (b.change t s.1).2, s.2 ++ [.call (.change t)])
  remaining := b.remaining
  remaining_lt {c c' s s' raw} h := by
    obtain ⟨hfetch, hcursor, -⟩ : (b.fetch c s.1).1 = .row raw ∧ (b.fetch c s.1).2.1 = c' ∧ _ := by
      simpa only [Prod.mk.injEq] using h
    have hrow : b.fetch c s.1 = (.row raw, c', (b.fetch c s.1).2.2) :=
      Prod.ext hfetch (Prod.ext hcursor rfl)
    exact b.remaining_lt hrow

/-- The context over the database with a record. -/
def Context.traced (ctx : Context σ γ) : Context (σ × List Event) γ :=
  ⟨ctx.backend.traced, ctx.dialect⟩

/-- The same token in states with a record. -/
def CancellationToken.traced (token : CancellationToken σ) :
    CancellationToken (σ × List Event) :=
  ⟨fun s ↦ token.isCancelled s.1⟩

namespace Backend

variable {b : Backend σ γ} {token : CancellationToken σ} {c : γ} {s : σ} {raws : List RawRow}
  {failure : Option String}

theorem fetch_traced {c' : γ} {s' : σ} {f : Fetch} (h : b.fetch c s = (f, c', s'))
    (l : List Event) : b.traced.fetch c (s, l) = (f, c', s', l ++ [.fetch]) := by
  simp only [traced, h]

theorem Gives.traced (h : b.Gives c s raws failure) (l : List Event) :
    b.traced.Gives c (s, l) raws failure := by
  induction h generalizing l with
  | done hf => exact .done (fetch_traced hf l)
  | failed hf => exact .failed (fetch_traced hf l)
  | row hf _ ih => exact .row (fetch_traced hf l) (ih _)

theorem place_traced (b : Backend σ γ) (c : γ) (s : σ) (l : List Event) (k : Nat) :
    b.traced.place c (s, l) k =
      ((b.place c s k).1, (b.place c s k).2, l ++ List.replicate k .fetch) := by
  induction k generalizing c s l with
  | zero => exact congrArg (fun l ↦ (c, s, l)) (List.append_nil l).symm
  | succ k ih =>
    rw [List.replicate_succ, List.append_cons]
    exact ih _ _ _

theorem isCancelled_place_traced (b : Backend σ γ) (token : CancellationToken σ) (c : γ) (s : σ)
    (l : List Event) (k : Nat) :
    token.traced.isCancelled (b.traced.place c (s, l) k).2 =
      token.isCancelled (b.place c s k).2 := by
  rw [place_traced]
  rfl

theorem releaseAt_traced (b : Backend σ γ) (c : γ) (s : σ) (l : List Event) (k : Nat) :
    b.traced.releaseAt (b.traced.place c (s, l) k) =
      (b.releaseAt (b.place c s k), l ++ List.replicate k .fetch ++ [.release]) := by
  rw [place_traced]
  rfl

/-- What is on record of a cursor that is read, once its result is known. -/
structure Reading (b : Backend σ γ) (token : CancellationToken σ) (c : γ) (s : σ)
    (raws : List RawRow) (failure : Option String) (outcome : Except Error (List Row))
    (events : List Event) : Prop where
  /-- Set after `k` fetches, the token stops the run there. -/
  stopped : ∀ k ≤ raws.length, b.CancelledAfter token c s k →
    outcome = .error .cancelled ∧ events = List.replicate k .fetch ++ [.release]
  /-- Set during the last fetch or not at all, it stops nothing. -/
  complete : (∀ k ≤ raws.length, ¬b.CancelledAfter token c s k) →
    outcome = readout raws failure ∧
      events = List.replicate (raws.length + 1) .fetch ++ [.release]
  cancelled_iff : outcome = .error .cancelled ↔ ∃ k ≤ raws.length, b.CancelledAfter token c s k
  all_rows : ∀ rows, outcome = .ok rows → rows = raws.map .ofColumns ∧ failure = none
  driver : ∀ m, outcome = .error (.driver m) → failure = some m
  /-- The cursor is given back once, at the end. -/
  released : ∃ k, events = List.replicate k .fetch ++ [.release]

theorem CancelledAfter.unique {j k : Nat} (hj : b.CancelledAfter token c s j)
    (hk : b.CancelledAfter token c s k) : j = k := by
  rcases Nat.lt_trichotomy j k with hlt | heq | hlt
  · exact absurd (hk.2 j hlt) (by simp [hj.1])
  · exact heq
  · exact absurd (hj.2 k hlt) (by simp [hk.1])

/-- A token that is set too late is as good as none. -/
theorem Gives.collect_of_never (h : b.Gives c s raws failure)
    (hnever : ∀ k ≤ raws.length, ¬b.CancelledAfter token c s k) :
    b.collect token c s = b.collect .none c s := by
  rcases b.exists_cancelledAfter_or token c s raws.length with ⟨k, hk, hset⟩ | hunset
  · exact absurd hset (hnever k hk)
  · rw [h.collect_of_unset hunset, h.collect_of_unset fun k _ ↦ rfl]

theorem Reading.of_cancelledAfter {k : Nat} (hk : k ≤ raws.length)
    (hset : b.CancelledAfter token c s k) :
    b.Reading token c s raws failure (.error .cancelled)
      (List.replicate k .fetch ++ [.release]) := by
  constructor
  case stopped =>
    intro j _ hj
    rw [hj.unique hset]
    exact ⟨rfl, rfl⟩
  case complete => exact fun hnever ↦ absurd hset (hnever k hk)
  case cancelled_iff => exact iff_of_true rfl ⟨k, hk, hset⟩
  case all_rows => exact fun rows hrows ↦ nomatch hrows
  case driver => exact fun m hm ↦ nomatch hm
  case released => exact ⟨k, rfl⟩

theorem Reading.of_unset (hnever : ∀ k ≤ raws.length, ¬b.CancelledAfter token c s k) :
    b.Reading token c s raws failure (readout raws failure)
      (List.replicate (raws.length + 1) .fetch ++ [.release]) := by
  constructor
  case stopped => exact fun k hk hset ↦ absurd hset (hnever k hk)
  case complete => exact fun _ ↦ ⟨rfl, rfl⟩
  case cancelled_iff =>
    refine iff_of_false ?_ ?_
    · rcases failure with _ | m <;> exact nofun
    · rintro ⟨k, hk, hset⟩
      exact hnever k hk hset
  case all_rows =>
    intro rows hrows
    rcases failure with _ | m
    · exact ⟨(Except.ok.inj hrows).symm, rfl⟩
    · exact nomatch hrows
  case driver =>
    intro m hm
    rcases failure with _ | m'
    · exact nomatch hm
    · exact congrArg some (Error.driver.inj (Except.error.inj hm))
  case released => exact ⟨raws.length + 1, rfl⟩

/-- Keeping a record disturbs nothing, and the record tells what became of the cursor. -/
theorem Gives.exists_reading (h : b.Gives c s raws failure) (token : CancellationToken σ)
    (l : List Event) :
    ∃ outcome final events, b.collect token c s = (outcome, final) ∧
      b.traced.collect token.traced c (s, l) = (outcome, final, l ++ events) ∧
      b.Reading token c s raws failure outcome events := by
  rcases b.exists_cancelledAfter_or token c s raws.length with ⟨k, hk, hset⟩ | hunset
  · have hset' : b.traced.CancelledAfter token.traced c (s, l) k := by
      simpa only [CancelledAfter, isCancelled_place_traced] using hset
    refine ⟨_, _, List.replicate k .fetch ++ [.release], h.collect_of_cancelledAfter hk hset, ?_,
      .of_cancelledAfter hk hset⟩
    rw [(h.traced l).collect_of_cancelledAfter hk hset', releaseAt_traced, List.append_assoc]
  · have hunset' : ∀ k ≤ raws.length,
        token.traced.isCancelled (b.traced.place c (s, l) k).2 = false := by
      simpa only [isCancelled_place_traced] using hunset
    have hnever : ∀ k ≤ raws.length, ¬b.CancelledAfter token c s k := by
      rintro k hk ⟨hset, -⟩
      rw [hunset k hk] at hset
      exact nomatch hset
    refine ⟨_, _, List.replicate (raws.length + 1) .fetch ++ [.release], h.collect_of_unset hunset,
      ?_, .of_unset hnever⟩
    rw [(h.traced l).collect_of_unset hunset', releaseAt_traced, List.append_assoc]

end Backend

namespace Context

variable (ctx : Context σ γ)

theorem notes_traced : ctx.Notes ctx.traced .call where
  isOpen _ _ := rfl
  openConnection _ _ := rfl
  execute t k s l := by cases k <;> rfl

theorem collectRows_eq_perform (t : Statement) (token : CancellationToken σ) :
    ctx.collectRows t token = ctx.perform (.ok t) token .query (ctx.collect token) :=
  ctx.collectRows_eq t token

/-- What goes wrong while a statement is sent is a failure of the database. -/
theorem exists_driver_of_send {t : Statement} {k : CommandKind} {s s' : σ} {e : Error}
    (h : ctx.send t k s = (.error e, s')) : ∃ m, e = .driver m := by
  have hbackend {α : Type} {f : σ → Except String α × σ} {s : σ}
      (h : Action.ofBackend f s = (.error e, s')) : ∃ m, e = .driver m := by
    rw [Action.ofBackend] at h
    rcases hf : f s with ⟨m | a, s''⟩ <;> rw [hf] at h <;> cases h
    exact ⟨m, rfl⟩
  rcases hs : ctx.backend.isOpen s with _ | _
  · rcases ho : ctx.backend.openConnection s with ⟨m | _, s''⟩
    · rw [send_of_failed hs ho] at h
      exact ⟨m, (Except.error.inj (Prod.mk.inj h).1).symm⟩
    · rw [send_of_opened hs ho] at h
      exact hbackend h
  · rw [send_of_open hs] at h
    exact hbackend h

section

variable {ctx} {t : Statement} {token : CancellationToken σ} {s s' : σ}

theorem collectRows_of_cancelled (h : token.isCancelled s = true) :
    ctx.collectRows t token s = (.error .cancelled, s) := by
  rw [collectRows_eq_perform, perform_of_cancelled h]

theorem collectRows_of_failed {e : Error} (h : token.isCancelled s = false)
    (hsend : ctx.send t .query s = (.error e, s')) :
    ctx.collectRows t token s = (.error e, s') := by
  rw [collectRows_eq_perform, perform_of_unset h, Action.bind_of_error hsend]

theorem collectRows_of_sent {c : γ} (h : token.isCancelled s = false)
    (hsend : ctx.send t .query s = (.ok c, s')) :
    ctx.collectRows t token s = ctx.collect token c s' := by
  rw [collectRows_eq_perform, perform_of_unset h, Action.bind_of_ok hsend]

end

/-- **Cancellation is no partial success, and it comes at once.** A token that is set before the run
keeps the database from being called at all. Otherwise the command is sent, and what becomes of its
result is decided by the number of fetches after which the token is set. -/
theorem collectRows_cancellation (t : Statement) (token : CancellationToken σ) (s : σ) :
    let run := ctx.traced.collectRows t token.traced (s, [])
    let sent := (ctx.sendCalls t .query s).map Event.call
    (run.1, run.2.1) = ctx.collectRows t token s ∧
    (token.isCancelled s = true → run = (.error .cancelled, s, [])) ∧
    (token.isCancelled s = false →
      (∀ e s', ctx.send t .query s = (.error e, s') →
        (∃ m, e = .driver m) ∧ run = (.error e, s', sent)) ∧
      ∀ c s', ctx.send t .query s = (.ok c, s') →
        (∃ raws failure, ctx.backend.Gives c s' raws failure) ∧
        ∀ raws failure, ctx.backend.Gives c s' raws failure →
          (∃ events, run.2.2 = sent ++ events ∧
            ctx.backend.Reading token c s' raws failure run.1 events) ∧
          ((∀ k ≤ raws.length, ¬ctx.backend.CancelledAfter token c s' k) →
            ctx.collectRows t token s = ctx.collectRows t .none s)) := by
  intro run sent
  rcases hs : token.isCancelled s with _ | _
  · have hs' : token.traced.isCancelled (s, ([] : List Event)) = false := hs
    have hsent := ctx.notes_traced.send t .query s []
    rcases hsend : ctx.send t .query s with ⟨e | c, s'⟩ <;> rw [hsend] at hsent
    · have hrun : run = (.error e, s', sent) := collectRows_of_failed hs' hsent
      refine ⟨?_, fun h ↦ absurd h Bool.false_ne_true, fun _ ↦ ⟨?_, ?_⟩⟩
      · rw [hrun, collectRows_of_failed hs hsend]
      · rintro _ _ ⟨⟩
        exact ⟨ctx.exists_driver_of_send hsend, hrun⟩
      · rintro _ _ ⟨⟩
    · have hrun : run = ctx.traced.collect token.traced c (s', sent) :=
        collectRows_of_sent hs' hsent
      refine ⟨?_, fun h ↦ absurd h Bool.false_ne_true, fun _ ↦ ⟨?_, ?_⟩⟩
      · obtain ⟨raws, failure, hgives⟩ := ctx.backend.exists_gives c s'
        obtain ⟨outcome, final, events, hcollect, htraced, -⟩ := hgives.exists_reading token sent
        rw [collectRows_of_sent hs hsend, collect, hcollect, hrun]
        exact congrArg (fun r ↦ (r.1, r.2.1)) htraced
      · rintro _ _ ⟨⟩
      · rintro _ _ ⟨⟩
        refine ⟨ctx.backend.exists_gives c s', ?_⟩
        intro raws failure hgives
        obtain ⟨outcome, final, events, -, htraced, hreading⟩ := hgives.exists_reading token sent
        have hrun' : run = (outcome, final, sent ++ events) := hrun.trans htraced
        refine ⟨⟨events, ?_, ?_⟩, ?_⟩
        · rw [hrun']
        · rw [hrun']
          exact hreading
        · intro hnever
          rw [collectRows_of_sent hs hsend, collectRows_of_sent rfl hsend]
          exact hgives.collect_of_never hnever
  · have hs' : token.traced.isCancelled (s, ([] : List Event)) = true := hs
    have hrun : run = (.error .cancelled, s, []) := collectRows_of_cancelled hs'
    refine ⟨?_, fun _ ↦ hrun, fun h ↦ absurd h.symm Bool.false_ne_true⟩
    rw [hrun, collectRows_of_cancelled hs]

end Context

/-- Two rows are read, and the flag is set while the second one is fetched; the next fetch, which
would fail, is not made. -/
theorem Script.collectRows_cancelled_late :
    let ctx : Context Script Cursor := ⟨backend, .sqlServer⟩
    let t : Statement := ⟨"SELECT * FROM Users", []⟩
    let s : Script := {
      replies := [.rows [[("Id", .int32 1)], [("Id", .int32 2)]] (some "lost")]
      setter := some ⟨1, 0⟩
      flags := [false] }
    let run := ctx.traced.collectRows t (token 0).traced (s, [])
    (token 0).isCancelled s = false ∧ run.1 = .error .cancelled ∧
      run.2.2 = [.call .openConnection, .call (.query t), .fetch, .fetch, .release] := by
  intro ctx t s run
  let c : Cursor := ⟨[[("Id", .int32 1)], [("Id", .int32 2)]], some "lost", 0, some ⟨1, 0⟩⟩
  let s' : Script := {
    isOpen := true
    opens := 1
    commands := [t]
    liveCursors := 1
    flags := [false] }
  have hsend : ctx.send t .query s = (.ok c, s') := rfl
  have hgives : ctx.backend.Gives c s' c.rows c.failure := .row rfl (.row rfl (.failed rfl))
  have hset : ctx.backend.CancelledAfter (token 0) c s' 2 := ⟨rfl, by decide +kernel⟩
  obtain ⟨-, -, hunset⟩ := ctx.collectRows_cancellation t (token 0) s
  obtain ⟨⟨events, hevents, hreading⟩, -⟩ := ((hunset rfl).2 c s' hsend).2 _ _ hgives
  obtain ⟨houtcome, rfl⟩ := hreading.stopped 2 (Nat.le_refl 2) hset
  exact ⟨rfl, houtcome, hevents⟩

end QueryChain
