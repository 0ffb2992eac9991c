/-!
# Readers

A reader takes a text apart from the front. It gives a value and the text after it, or fails with
the text at which it failed, so that a message can point there. A choice tries its second side on
the same text as its first; when both fail, the failure of the second counts. A repetition never
fails: it stops before the first round that does, and also after a round that takes nothing, which
is why it ends on every text.
-/

namespace QueryChain.Text

/-- Takes a text apart from the front. -/
def Reader (α : Type) : Type := List Char → Except (List Char) (α × List Char)

namespace Reader

variable {α β : Type}

instance : Monad Reader where
  pure a := fun s ↦ .ok (a, s)
  bind p f := fun s ↦
    match p s with
    | .ok (a, r) => f a r
    | .error e => .error e

instance : OrElse (Reader α) where
  orElse p q := fun s ↦
    match p s with
    | .ok x => .ok x
    | .error _ => q () s

@[simp] theorem pure_apply (a : α) (s : List Char) : (pure a : Reader α) s = .ok (a, s) := rfl

theorem bind_apply (p : Reader α) (f : α → Reader β) (s : List Char) :
    (p >>= f) s = match p s with
      | .ok (a, r) => f a r
      | .error e => .error e := rfl

theorem bind_apply_ok {p : Reader α} {f : α → Reader β} {s r : List Char} {a : α}
    (h : p s = .ok (a, r)) : (p >>= f) s = f a r := by
  rw [bind_apply, h]

theorem bind_apply_error {p : Reader α} {f : α → Reader β} {s e : List Char}
    (h : p s = .error e) : (p >>= f) s = .error e := by
  rw [bind_apply, h]

theorem orElse_apply (p : Reader α) (q : Unit → Reader α) (s : List Char) :
    (OrElse.orElse p q) s = match p s with
      | .ok x => .ok x
      | .error _ => q () s := rfl

/-! ## Single steps -/

/-- Fails where it stands. -/
def fail : Reader α := fun s ↦ .error s

/-- Takes one given character. -/
def char (c : Char) : Reader Unit
  | [] => .error []
  | d :: r => if d = c then .ok ((), r) else .error (d :: r)

/-- Takes the given text. -/
def literal (t : List Char) : Reader Unit := fun s ↦
  if t.isPrefixOf s then .ok ((), s.drop t.length) else .error s

/-- Takes the longest run of characters of a class. -/
def takeWhile (p : Char → Bool) : Reader (List Char) := fun s ↦ .ok (s.takeWhile p, s.dropWhile p)

/-- Takes the longest run of characters of a class, which must not be empty. -/
def takeWhile1 (p : Char → Bool) : Reader (List Char) := fun s ↦
  if s.takeWhile p = [] then .error s else .ok (s.takeWhile p, s.dropWhile p)

/-- Succeeds only at the end of the text. -/
def atEnd : Reader Unit
  | [] => .ok ((), [])
  | s => .error s

/-! ## Combinations -/

/-- A reader that may be left out. -/
def optional (p : Reader α) : Reader (Option α) := fun s ↦
  match p s with
  | .ok (a, r) => .ok (some a, r)
  | .error _ => .ok (none, s)

/-- The rounds of a repetition and the text after them. -/
def rounds (p : Reader α) (s : List Char) : List α × List Char :=
  match p s with
  | .error _ => ([], s)
  | .ok (a, r) =>
    if r.length < s.length then
      let (as, r') := rounds p r
      (a :: as, r')
    else ([a], r)
termination_by s.length

/-- Repeats a reader as often as it succeeds. -/
def many (p : Reader α) : Reader (List α) := fun s ↦ .ok (rounds p s)

/-- One or more, with a separator between any two. -/
def separated (separator : Reader Unit) (p : Reader α) : Reader (List α) := do
  let first ← p
  let rest ← many (do separator; p)
  pure (first :: rest)

/-- One or more operands of an operator that groups to the left. -/
def chain (separator : Reader Unit) (combine : α → α → α) (p : Reader α) : Reader α := do
  let operands ← separated separator p
  match operands with
  | [] => fail
  | first :: rest => pure (rest.foldl combine first)

/-- The value that the whole text stands for. -/
def run? (p : Reader α) (s : String) : Option α :=
  match p s.toList with
  | .ok (a, []) => some a
  | _ => none

end Reader

end QueryChain.Text
