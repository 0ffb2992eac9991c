import QueryChain.Proofs.Execution.Cancellation

/-!
# Streams follow their cursor

A cursor need not be well behaved: it may give rows without end, and it may go on behind its end or
behind a failure. All that is known of it is the sequence of its outcomes, `Fetcher.outcome`, which
is defined for every number of fetches, whatever they give.

A stream over it is well behaved. It makes one fetch for each row that it is asked for, hands out
the rows in front of the first outcome that is no row, reports this outcome once if it is a failure,
and has nothing more to give. `Follows` says so of any number of questions, and as it holds after
each of them, no fetch is made before it is asked for. Asking a stream to start over fails and does
nothing else, so it makes no difference how often and when it is asked to.
-/

namespace QueryChain

variable {σ γ : Type}

/-! ## Outcomes -/

namespace Fetcher

/-- What the fetches of a cursor give if they are made one after the other without end. -/
def outcome (f : Fetcher σ γ) (c : γ) (s : σ) : Nat → Fetch
  | 0 => (f.fetch c s).1
  | k + 1 => f.outcome (f.fetch c s).2.1 (f.fetch c s).2.2 k

/-- The cursor with the given outcomes, which it reads by their number. -/
def ofOutcomes (o : Nat → Fetch) : Fetcher Unit Nat where
  fetch k s := (o k, k + 1, s)
  release _ s := s

/-- Every sequence is that of the outcomes of a cursor. -/
theorem outcome_ofOutcomes (o : Nat → Fetch) (k : Nat) :
    (ofOutcomes o).outcome k () = fun i ↦ o (k + i) := by
  funext i
  induction i generalizing k with
  | zero => rfl
  | succ i ih => exact (ih (k + 1)).trans (congrArg o (Nat.succ_add_eq_add_succ k i))

/-- The same cursors with a record of their fetches and of their release. -/
def traced (f : Fetcher σ γ) : Fetcher (σ × List Event) γ where
  fetch c s := ((f.fetch c s.1).1, (f.fetch c s.1).2.1, (f.fetch c s.1).2.2, s.2 ++ [.fetch])
  release c s := (f.release c s.1, s.2 ++ [.release])

variable {f : Fetcher σ γ} {c c' : γ} {s s' : σ} {x : Fetch}

theorem outcome_zero (h : f.fetch c s = (x, c', s')) : f.outcome c s 0 = x := by
  rw [outcome, h]

theorem outcome_succ (h : f.fetch c s = (x, c', s')) (k : Nat) :
    f.outcome c s (k + 1) = f.outcome c' s' k := by
  rw [outcome, h]

theorem fetch_traced (h : f.fetch c s = (x, c', s')) (l : List Event) :
    f.traced.fetch c (s, l) = (x, c', s', l ++ [.fetch]) := by
  simp only [traced, h]

end Fetcher

/-- The outcomes begin with these rows. -/
def Begins (o : Nat → Fetch) (raws : List RawRow) : Prop :=
  ∀ i (h : i < raws.length), o i = .row raws[i]

theorem Begins.nil (o : Nat → Fetch) : Begins o [] := fun _ h ↦ absurd h (Nat.not_lt_zero _)

theorem Begins.cons {o : Nat → Fetch} {raw : RawRow} {raws : List RawRow} (h : o 0 = .row raw)
    (hrest : Begins (fun i ↦ o (i + 1)) raws) : Begins o (raw :: raws) := by
  rintro (_ | i) hi
  · exact h
  · exact hrest i (Nat.lt_of_succ_lt_succ hi)

/-- The rows as a stream hands them out. -/
def handedOut (raws : List RawRow) : List (Option (Except Error Row)) :=
  raws.map fun raw ↦ some (.ok (.ofColumns raw))

/-- What `n` calls to a stream give if its cursor has these outcomes: the items, the number of rows
among them, and the events that they cause. -/
inductive Follows (o : Nat → Fetch) (n : Nat) :
    List (Option (Except Error Row)) → Nat → List Event → Prop
  /-- There were rows for all calls. -/
  | going (raws : List RawRow) (hraws : Begins o raws) (hn : raws.length = n) :
    Follows o n (handedOut raws) raws.length (List.replicate n .fetch)
  /-- The rows have ended, and the cursor was given back. -/
  | ended (raws : List RawRow) (hraws : Begins o raws) (hn : raws.length < n)
    (hlast : o raws.length = .done) :
    Follows o n (handedOut raws ++ List.replicate (n - raws.length) none) raws.length
      (List.replicate (raws.length + 1) .fetch ++ [.release])
  /-- A fetch has failed, which was reported, and the cursor was given back. -/
  | failed (raws : List RawRow) (m : String) (hraws : Begins o raws) (hn : raws.length < n)
    (hlast : o raws.length = .failed m) :
    Follows o n
      (handedOut raws ++ some (.error (.driver m)) :: List.replicate (n - raws.length - 1) none)
      raws.length (List.replicate (raws.length + 1) .fetch ++ [.release])

/-- A row comes first. -/
theorem Follows.cons {o : Nat → Fetch} {raw : RawRow} {n fetched : Nat}
    {items : List (Option (Except Error Row))} {events : List Event} (h : o 0 = .row raw)
    (hrest : Follows (fun i ↦ o (i + 1)) n items fetched events) :
    Follows o (n + 1) (some (.ok (.ofColumns raw)) :: items) (fetched + 1) (.fetch :: events) := by
  cases hrest with
  | going raws hraws hn => exact .going (raw :: raws) (.cons h hraws) (congrArg (· + 1) hn)
  | ended raws hraws hn hlast =>
    have hafter := Follows.ended (raw :: raws) (.cons h hraws) (Nat.add_lt_add_right hn 1) hlast
    rwa [List.length_cons, Nat.add_sub_add_right] at hafter
  | failed raws m hraws hn hlast =>
    have hafter := Follows.failed (raw :: raws) m (.cons h hraws) (Nat.add_lt_add_right hn 1) hlast
    rwa [List.length_cons, Nat.add_sub_add_right] at hafter

/-! ## Questions -/

/-- What can be asked of a stream that is kept. -/
inductive Ask
  | next
  | reset
deriving DecidableEq

/-- What a stream answered to a sequence of questions, and what it came to. -/
structure Course (σ γ : Type) where
  items : List (Option (Except Error Row))
  resets : List (Except Error Unit)
  stream : RowStream γ
  state : σ

namespace RowStream

/-- The course of a stream that is asked some questions. -/
def course (f : Fetcher σ γ) (st : RowStream γ) (s : σ) : List Ask → Course σ γ
  | [] => ⟨[], [], st, s⟩
  | .next :: asks =>
    let (item, st', s') := st.next f s
    let rest := st'.course f s' asks
    { rest with items := item :: rest.items }
  | .reset :: asks =>
    let rest := st.course f s asks
    { rest with resets := st.reset :: rest.resets }

variable {f : Fetcher σ γ}

theorem course_next {st st' : RowStream γ} {s s' : σ} {item : Option (Except Error Row)}
    (h : st.next f s = (item, st', s')) (asks : List Ask) :
    st.course f s (.next :: asks) =
      { st'.course f s' asks with items := item :: (st'.course f s' asks).items } := by
  rw [course, h]

theorem course_reset (st : RowStream γ) (s : σ) (asks : List Ask) :
    st.course f s (.reset :: asks) =
      { st.course f s asks with resets := .error .streamReset :: (st.course f s asks).resets } :=
  rfl

/-- A stream without a cursor gives nothing and leaves the state alone. -/
theorem course_of_none (k : Nat) (s : σ) (asks : List Ask) :
    (⟨none, k⟩ : RowStream γ).course f s asks =
      ⟨List.replicate (asks.count .next) none,
        List.replicate (asks.count .reset) (.error .streamReset), ⟨none, k⟩, s⟩ := by
  induction asks with
  | nil => rfl
  | cons ask asks ih =>
    cases ask with
    | next =>
      rw [course_next (next_of_none rfl), ih, List.count_cons_self]
      rfl
    | reset =>
      rw [course_reset, ih, List.count_cons_self]
      rfl

/-- Only the calls for rows make a difference. -/
theorem course_eq (st : RowStream γ) (s : σ) (asks : List Ask) :
    st.course f s asks =
      { st.course f s (List.replicate (asks.count .next) .next) with
        resets := List.replicate (asks.count .reset) (.error .streamReset) } := by
  induction asks generalizing st s with
  | nil => rfl
  | cons ask asks ih =>
    cases ask with
    | next =>
      rcases hn : st.next f s with ⟨item, st', s'⟩
      rw [course_next hn, ih st', List.count_cons_self, List.replicate_succ, course_next hn]
      rfl
    | reset =>
      rw [course_reset, ih st, List.count_cons_self]
      rfl

/-- The record disturbs no call. -/
theorem next_traced {st st' : RowStream γ} {s s' : σ} {item : Option (Except Error Row)}
    (h : st.next f s = (item, st', s')) (l : List Event) :
    ∃ l', st.next f.traced (s, l) = (item, st', s', l') := by
  rcases st with ⟨_ | c, k⟩
  · rw [next_of_none rfl] at h
    cases h
    exact ⟨l, rfl⟩
  rcases hf : f.fetch c s with ⟨raw | _ | m, c', s''⟩
  · rw [next_of_row hf] at h
    cases h
    exact ⟨_, next_of_row (Fetcher.fetch_traced hf l)⟩
  · rw [next_of_done hf] at h
    cases h
    exact ⟨_, next_of_done (Fetcher.fetch_traced hf l)⟩
  · rw [next_of_failed hf] at h
    cases h
    exact ⟨_, next_of_failed (Fetcher.fetch_traced hf l)⟩

theorem course_traced (st : RowStream γ) (s : σ) (l : List Event) (asks : List Ask) :
    ∃ l', st.course f.traced (s, l) asks =
      ⟨(st.course f s asks).items, (st.course f s asks).resets, (st.course f s asks).stream,
        (st.course f s asks).state, l'⟩ := by
  induction asks generalizing st s l with
  | nil => exact ⟨l, rfl⟩
  | cons ask asks ih =>
    cases ask with
    | next =>
      rcases hn : st.next f s with ⟨item, st', s'⟩
      obtain ⟨l', hn'⟩ := next_traced hn l
      obtain ⟨l'', hrest⟩ := ih st' s' l'
      exact ⟨l'', by rw [course_next hn, course_next hn', hrest]⟩
    | reset =>
      obtain ⟨l', hrest⟩ := ih st s l
      exact ⟨l', by rw [course_reset, course_reset, hrest]⟩

/-- A stream that holds its cursor follows it from where it stands. The induction is on the
questions, and it ends at the first outcome that is no row. -/
theorem follows_course (c : γ) (k : Nat) (s : σ) (l : List Event) (asks : List Ask) :
    let course := (⟨some c, k⟩ : RowStream γ).course f.traced (s, l) asks
    ∃ fetched events, course.stream.fetched = k + fetched ∧ course.state.2 = l ++ events ∧
      Follows (f.outcome c s) (asks.count .next) course.items fetched events := by
  induction asks generalizing c k s l with
  | nil => exact ⟨0, [], rfl, (List.append_nil l).symm, .going [] (.nil _) rfl⟩
  | cons ask asks ih =>
    cases ask with
    | reset => exact ih c k s l
    | next =>
      rw [List.count_cons_self]
      rcases hf : f.fetch c s with ⟨raw | _ | m, c', s'⟩
      · obtain ⟨fetched, events, hfetched, hevents, hrest⟩ := ih c' (k + 1) s' (l ++ [.fetch])
        rw [course_next (next_of_row (Fetcher.fetch_traced hf l))]
        refine ⟨fetched + 1, .fetch :: events, ?_, ?_, ?_⟩
        · rw [hfetched, Nat.add_assoc, Nat.add_comm 1]
        · rw [hevents, List.append_assoc, List.singleton_append]
        · refine .cons (f.outcome_zero hf) ?_
          simpa only [Fetcher.outcome_succ hf] using hrest
      · rw [course_next (next_of_done (Fetcher.fetch_traced hf l)), course_of_none]
        exact ⟨0, [.fetch, .release], rfl, List.append_assoc l [.fetch] [.release],
          .ended [] (.nil _) (Nat.succ_pos _) (f.outcome_zero hf)⟩
      · rw [course_next (next_of_failed (Fetcher.fetch_traced hf l)), course_of_none]
        exact ⟨0, [.fetch, .release], rfl, List.append_assoc l [.fetch] [.release],
          .failed [] m (.nil _) (Nat.succ_pos _) (f.outcome_zero hf)⟩

/-- **A stream follows its cursor up to the first outcome that is no row.** This holds after any
number of calls for rows, and calls to start over between them fail and change nothing. -/
theorem course_follows (f : Fetcher σ γ) (c : γ) (s : σ) (asks : List Ask) :
    let n := asks.count .next
    let course := (ofCursor c).course f s asks
    let traced := (ofCursor c).course f.traced (s, []) asks
    Follows (f.outcome c s) n course.items course.stream.fetched traced.state.2 ∧
      (traced.items = course.items ∧ traced.stream = course.stream ∧
        traced.state.1 = course.state) ∧
      course = { (ofCursor c).course f s (List.replicate n .next) with
        resets := List.replicate (asks.count .reset) (.error .streamReset) } := by
  intro n course traced
  obtain ⟨l', htraced⟩ := (ofCursor c).course_traced (f := f) s [] asks
  obtain ⟨fetched, events, hfetched, hevents, hfollows⟩ := follows_course (f := f) c 0 s [] asks
  have hitems : traced.items = course.items := congrArg Course.items htraced
  have hstream : traced.stream = course.stream := congrArg Course.stream htraced
  have hstate : traced.state.1 = course.state := congrArg (fun x ↦ x.state.1) htraced
  refine ⟨?_, ⟨hitems, hstream, hstate⟩, (ofCursor c).course_eq s asks⟩
  rw [← hitems, ← hstream]
  have hcount : traced.stream.fetched = fetched := hfetched.trans (Nat.zero_add fetched)
  have hrecord : traced.state.2 = events := hevents.trans (List.nil_append events)
  rw [hcount, hrecord]
  exact hfollows

/-- A cursor that gives a row behind its end. -/
example :
    let o : Nat → Fetch := fun i ↦ if i = 1 then .done else .row [("Id", .int32 7)]
    let course := (ofCursor 0).course (Fetcher.ofOutcomes o) () [.next, .reset, .next, .next]
    course.items = [some (.ok (.ofColumns [("Id", .int32 7)])), none, none] ∧
      course.stream.fetched = 1 :=
  ⟨rfl, rfl⟩

end RowStream

end QueryChain
