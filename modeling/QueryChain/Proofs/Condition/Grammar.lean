import QueryChain.Proofs.Condition.Truth
import QueryChain.Statement.Condition

/-!
# The grammar of conditions

A condition as the database reads it: tests of one operand or two, combined by `NOT`, `AND` and
`OR`, which bind in this order from the tightest to the loosest, and by parentheses. The grammar is
a relation between tokens and trees. That it gives a text at most one tree is proved with the reader
in `QueryChain.Proofs.Condition.Reader`.

The flat predicates are written without parentheses, so two texts can come to stand on either side
of an `AND` although one of them has an `OR` on its surface. `Disjuncts` tells such texts apart by
the conjunctions between their `OR`s, and `Disjuncts.and` says what is read there: the two disjuncts
next to the `AND` are joined, and the others stay apart.
-/

namespace QueryChain

/-- What a test compares: the column of a row, or a constant. -/
inductive Operand
  | column (name : String)
  | constant (v : Value)
deriving DecidableEq

namespace Operand

def token : Operand → Token
  | column name => .member name
  | constant v => .constant (.value v)

/-- The value of an operand in a row. -/
def value (row : String → Value) : Operand → Value
  | column name => row name
  | constant v => v

@[simp] theorem value_column (row : String → Value) (name : String) :
    (column name).value row = row name := rfl

@[simp] theorem value_constant (row : String → Value) (v : Value) :
    (constant v).value row = v := rfl

/-- The tokens of some operands, with commas between them. -/
def list : List Operand → List Token
  | [] => []
  | [x] => [x.token]
  | x :: xs => x.token :: .comma :: list xs

theorem list_cons_cons (x y : Operand) (xs : List Operand) :
    list (x :: y :: xs) = x.token :: .comma :: list (y :: xs) := rfl

theorem rightParen_notMem_list (xs : List Operand) : .rightParen ∉ list xs := by
  have htoken : ∀ x : Operand, .rightParen ≠ x.token := fun x ↦ by cases x <;> simp [token]
  fun_induction list xs with
  | case1 => simp
  | case2 x => simp [htoken x]
  | case3 x xs _ ih => simp [htoken x, ih]

end Operand

/-- A condition as the database reads it. -/
inductive SearchCondition
  | compare (op : CompareOp) (x y : Operand)
  | like (negated : Bool) (x pattern : Operand)
  | inList (negated : Bool) (x : Operand) (items : List Operand)
  | isNull (negated : Bool) (x : Operand)
  | not (c : SearchCondition)
  | and (c e : SearchCondition)
  | or (c e : SearchCondition)

namespace SearchCondition

/-- What a condition says about a row. -/
def eval (κ : Collation) (row : String → Value) : SearchCondition → Truth
  | compare op x y => κ.relate op (x.value row) (y.value row)
  | like negated x pattern => (κ.like (x.value row) (pattern.value row)).notIf negated
  | inList negated x items =>
    (κ.among (x.value row) (items.map (Operand.value row))).notIf negated
  | isNull negated x => (Truth.ofBool (x.value row).isNull).notIf negated
  | not c => (c.eval κ row).not
  | and c e => (c.eval κ row).and (e.eval κ row)
  | or c e => (c.eval κ row).or (e.eval κ row)

/-! ## Reading tokens -/

/-- The tokens of a single test. -/
inductive Test : List Token → SearchCondition → Prop
  | compare (op : CompareOp) (x y : Operand) :
    Test [x.token, .sign op, y.token] (.compare op x y)
  | like (negated : Bool) (x y : Operand) :
    Test (x.token :: (Predicate.notIf negated ++ [.like, y.token])) (.like negated x y)
  | inList (negated : Bool) (x : Operand) {items : List Operand} (h : items ≠ []) :
    Test (x.token :: (Predicate.notIf negated ++ .inList :: .leftParen :: (Operand.list items ++
      [.rightParen]))) (.inList negated x items)
  | isNull (negated : Bool) (x : Operand) :
    Test (x.token :: .is :: (Predicate.notIf negated ++ [.null])) (.isNull negated x)

/-- What kind of part of a condition some tokens are. -/
inductive Rank
  /-- Conjunctions with `OR` between them. -/
  | disjunction
  /-- Factors with `AND` between them. -/
  | conjunction
  /-- A test or a group, possibly behind `NOT`. -/
  | factor
deriving DecidableEq

/-- The tokens are a part of the given kind and stand for the condition. Chains of `AND` and of `OR`
group to the left. -/
inductive Reads : Rank → List Token → SearchCondition → Prop
  | or {s t : List Token} {c e : SearchCondition} (hs : Reads .disjunction s c)
    (ht : Reads .conjunction t e) : Reads .disjunction (s ++ .or :: t) (.or c e)
  | ofConjunction {t : List Token} {c : SearchCondition} (ht : Reads .conjunction t c) :
    Reads .disjunction t c
  | and {s t : List Token} {c e : SearchCondition} (hs : Reads .conjunction s c)
    (ht : Reads .factor t e) : Reads .conjunction (s ++ .and :: t) (.and c e)
  | ofFactor {t : List Token} {c : SearchCondition} (ht : Reads .factor t c) :
    Reads .conjunction t c
  | not {t : List Token} {c : SearchCondition} (ht : Reads .factor t c) :
    Reads .factor (.not :: t) (.not c)
  | group {t : List Token} {c : SearchCondition} (ht : Reads .disjunction t c) :
    Reads .factor (.leftParen :: (t ++ [.rightParen])) c
  | test {t : List Token} {c : SearchCondition} (ht : Test t c) : Reads .factor t c

variable {s t : List Token} {c e : SearchCondition}

/-- A conjunction can stand on the right of an `AND` as well; its factors then group anew. -/
theorem Reads.conjunction_and (hs : Reads .conjunction s c) (ht : Reads .conjunction t e) :
    ∃ d, Reads .conjunction (s ++ .and :: t) d ∧
      ∀ κ row, d.eval κ row = (c.eval κ row).and (e.eval κ row) := by
  -- the last factor of the right text stays last, and the others join what stands in front of them
  generalize hr : Rank.conjunction = r at ht
  induction ht with
  | ofFactor ht => exact ⟨_, .and hs ht, fun κ row ↦ rfl⟩
  | @and u v a b hu hv ih _ =>
    obtain ⟨d, hd, heval⟩ := ih rfl
    refine ⟨.and d b, ?_, fun κ row ↦ ?_⟩
    · rw [← List.cons_append, ← List.append_assoc]
      exact .and hd hv
    · rw [eval, heval, eval, Truth.and_assoc]
  | or | ofConjunction | not | group | test => cases hr

/-! ## Disjuncts -/

/-- The tokens are conjunctions with `OR` between them, and these are the conditions they stand for,
from left to right. -/
inductive Disjuncts : List Token → List SearchCondition → Prop
  | single {t : List Token} {c : SearchCondition} (ht : Reads .conjunction t c) : Disjuncts t [c]
  | cons {s t : List Token} {c : SearchCondition} {cs : List SearchCondition}
    (hs : Reads .conjunction s c) (ht : Disjuncts t cs) : Disjuncts (s ++ .or :: t) (c :: cs)

namespace Disjuncts

variable {cs es : List SearchCondition}

theorem ne_nil (h : Disjuncts t cs) : cs ≠ [] := by
  cases h <;> simp

theorem factor (h : Reads .factor t c) : Disjuncts t [c] := .single (.ofFactor h)

theorem or (hs : Disjuncts s cs) (ht : Disjuncts t es) :
    Disjuncts (s ++ .or :: t) (cs ++ es) := by
  induction hs with
  | single hs => exact .cons hs ht
  | cons hs _ ih =>
    rw [List.append_assoc, List.cons_append]
    exact .cons hs ih

/-- Behind an `AND`, the first disjunct is drawn to what stands in front. -/
private theorem conjunction_and (hs : Reads .conjunction s c) (ht : Disjuncts t (e :: es)) :
    ∃ d, Disjuncts (s ++ .and :: t) (d :: es) ∧
      ∀ κ row, d.eval κ row = (c.eval κ row).and (e.eval κ row) := by
  cases ht with
  | single ht =>
    obtain ⟨d, hd, heval⟩ := hs.conjunction_and ht
    exact ⟨d, .single hd, heval⟩
  | cons hu hv =>
    obtain ⟨d, hd, heval⟩ := hs.conjunction_and hu
    refine ⟨d, ?_, heval⟩
    rw [← List.cons_append, ← List.append_assoc]
    exact .cons hd hv

/-- Texts on either side of an `AND`: the last disjunct of the left one and the first of the right
one are joined. -/
theorem and (hs : Disjuncts s cs) (ht : Disjuncts t es) :
    ∃ ds, Disjuncts (s ++ .and :: t) ds ∧ ∀ κ row,
      ds.map (eval κ row) = Truth.link (cs.map (eval κ row)) (es.map (eval κ row)) := by
  induction hs with
  | single hs =>
    cases es with
    | nil => exact absurd rfl ht.ne_nil
    | cons e es =>
      obtain ⟨d, hd, heval⟩ := conjunction_and hs ht
      refine ⟨d :: es, hd, fun κ row ↦ ?_⟩
      rw [List.map_cons, heval]
      rfl
  | @cons u v c cs hu hv ih =>
    obtain ⟨ds, hds, heval⟩ := ih
    refine ⟨c :: ds, ?_, fun κ row ↦ ?_⟩
    · rw [List.append_assoc, List.cons_append]
      exact .cons hu hds
    · cases cs with
      | nil => exact absurd rfl hv.ne_nil
      | cons a cs =>
        rw [List.map_cons, heval]
        exact (Truth.link_cons_cons _ _ _ _).symm

/-- Disjuncts can stand on the right of an `OR` as well; they then group anew. -/
private theorem reads_or (hs : Reads .disjunction s c) (ht : Disjuncts t es) :
    ∃ d, Reads .disjunction (s ++ .or :: t) d ∧
      ∀ κ row, d.eval κ row = (c.eval κ row).or (.any (es.map (eval κ row))) := by
  -- the grammar groups to the left, so the left text takes over one disjunct after the other
  induction ht generalizing s c with
  | single ht =>
    refine ⟨_, .or hs ht, fun κ row ↦ ?_⟩
    rw [List.map_singleton, Truth.any_cons, Truth.any_nil, Truth.or_fails]
    rfl
  | @cons u v a es hu _ ih =>
    obtain ⟨d, hd, heval⟩ := ih (.or hs hu)
    refine ⟨d, ?_, fun κ row ↦ ?_⟩
    · rw [← List.cons_append, ← List.append_assoc]
      exact hd
    · rw [heval, eval, List.map_cons, Truth.any_cons, Truth.or_assoc]

/-- The disjuncts of a text make up the condition it stands for. -/
theorem exists_reads (h : Disjuncts t cs) :
    ∃ c, Reads .disjunction t c ∧ ∀ κ row, c.eval κ row = .any (cs.map (eval κ row)) := by
  cases h with
  | single ht =>
    refine ⟨_, .ofConjunction ht, fun κ row ↦ ?_⟩
    rw [List.map_singleton, Truth.any_cons, Truth.any_nil, Truth.or_fails]
  | cons hs ht =>
    obtain ⟨d, hd, heval⟩ := reads_or (.ofConjunction hs) ht
    refine ⟨d, hd, fun κ row ↦ ?_⟩
    rw [heval, List.map_cons, Truth.any_cons]

/-- Between parentheses, disjuncts become one. -/
theorem group (h : Disjuncts t cs) :
    ∃ c, Reads .factor (.leftParen :: (t ++ [.rightParen])) c ∧
      ∀ κ row, c.eval κ row = .any (cs.map (eval κ row)) := by
  obtain ⟨c, hc, heval⟩ := h.exists_reads
  exact ⟨c, .group hc, heval⟩

end Disjuncts

end SearchCondition

end QueryChain
