import QueryChain.Execution.Backend

/-!
# Streams of rows

A stream reads a cursor row by row and only when it is asked. It holds the cursor until the rows are
over or a fetch fails; after that it is empty for good, whatever the cursor would still have given.

A stream can be drained into a list, or read to the end for its only row. The other way to take all
rows of a cursor, `Backend.collect`, asks before every fetch whether it was cancelled.
-/

namespace QueryChain

/-- A stream over a cursor of type `γ`. -/
structure RowStream (γ : Type) where
  /-- The cursor, until it is exhausted. -/
  cursor : Option γ
  /-- How many rows were handed out. -/
  fetched : Nat := 0

namespace RowStream

variable {σ γ : Type}

/-- A stream that hands out the rows of a cursor. -/
def ofCursor (c : γ) : RowStream γ := ⟨some c, 0⟩

/-- The next row, a failure, or nothing, and the stream after it. -/
def next (f : Fetcher σ γ) (st : RowStream γ) (s : σ) :
    Option (Except Error Row) × RowStream γ × σ :=
  match st.cursor with
  | none => (none, st, s)
  | some c =>
    match f.fetch c s with
    | (.row raw, c', s') => (some (.ok (.ofColumns raw)), ⟨some c', st.fetched + 1⟩, s')
    | (.done, c', s') => (none, ⟨none, st.fetched⟩, f.release c' s')
    | (.failed m, c', s') => (some (.error (.driver m)), ⟨none, st.fetched⟩, f.release c' s')

/-- A stream cannot start over. -/
def reset (_ : RowStream γ) : Except Error Unit := .error .streamReset

/-- Gives up the stream; a cursor it still holds is released. -/
def drop (f : Fetcher σ γ) (st : RowStream γ) (s : σ) : σ :=
  match st.cursor with
  | none => s
  | some c => f.release c s

/-- A bound on the calls of `next` that give something. -/
def bound (b : Backend σ γ) (st : RowStream γ) : Nat :=
  match st.cursor with
  | none => 0
  | some c => b.remaining c

theorem bound_next_lt {b : Backend σ γ} {st st' : RowStream γ} {s s' : σ} {r : Row}
    (h : st.next b.toFetcher s = (some (.ok r), st', s')) : st'.bound b < st.bound b := by
  rcases st with ⟨_ | c, n⟩
  · simp [next] at h
  · simp only [next] at h
    split at h
    · next raw c' s'' hf =>
      simp only [Prod.mk.injEq] at h
      obtain ⟨-, rfl, -⟩ := h
      exact b.remaining_lt hf
    · simp at h
    · simp at h

/-- The remaining rows in order, up to the first failure. -/
def drain (b : Backend σ γ) (st : RowStream γ) (s : σ) :
    Except Error (List Row) × RowStream γ × σ :=
  match h : st.next b.toFetcher s with
  | (none, st', s') => (.ok [], st', s')
  | (some (.error e), st', s') => (.error e, st', s')
  | (some (.ok r), st', s') =>
    have := bound_next_lt h
    let (rows, st'', s'') := drain b st' s'
    (rows.map (r :: ·), st'', s'')
termination_by st.bound b

/-- Reads a stream to the end for its only row. `first` is the first row so far, and `count` the
number of rows so far; a failure counts before any excess of rows. -/
def single (b : Backend σ γ) (first : Option Row) (count : Nat) (st : RowStream γ) (s : σ) :
    Except Error (Option Row) × RowStream γ × σ :=
  match h : st.next b.toFetcher s with
  | (none, st', s') =>
    (if 1 < count then .error (.cardinality 1 count) else .ok first, st', s')
  | (some (.error e), st', s') => (.error e, st', s')
  | (some (.ok r), st', s') =>
    have := bound_next_lt h
    single b (some (first.getD r)) (count + 1) st' s'
termination_by st.bound b

end RowStream

/-- A token tells, in a state, whether a run was asked to stop. -/
structure CancellationToken (σ : Type) where
  isCancelled : σ → Bool

namespace CancellationToken

variable {σ : Type}

/-- A token that nobody sets. -/
def none : CancellationToken σ := ⟨fun _ ↦ false⟩

/-- Fails once the token is set. -/
def check (token : CancellationToken σ) (s : σ) : Except Error Unit :=
  if token.isCancelled s then .error .cancelled else .ok ()

end CancellationToken

/-- All rows of a cursor. The token is asked before every fetch, and the cursor is released in every
case. -/
def Backend.collect {σ γ : Type} (b : Backend σ γ) (token : CancellationToken σ) (c : γ) (s : σ) :
    Except Error (List Row) × σ :=
  match token.check s with
  | .error e => (.error e, b.release c s)
  | .ok () =>
    match h : b.fetch c s with
    | (.row raw, c', s') =>
      have := b.remaining_lt h
      let (rows, s'') := b.collect token c' s'
      (rows.map (Row.ofColumns raw :: ·), s'')
    | (.done, c', s') => (.ok [], b.release c' s')
    | (.failed m, c', s') => (.error (.driver m), b.release c' s')
termination_by b.remaining c

end QueryChain
