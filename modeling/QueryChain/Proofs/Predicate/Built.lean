import QueryChain.Filter.Reader
import QueryChain.Proofs.Statement.Binding

/-!
# Built predicates

Predicates are checked twice: by the builders, before there is a statement, and again while a
condition is written. The second check is for predicates that were put together by hand. Here it is
shown that it has nothing to find in the others: a predicate can be written as a condition exactly
if it is one, and every predicate that a builder or the reader of filter texts gives is one.
-/

namespace QueryChain

/-! ## Emissions that succeed -/

namespace Emission

@[simp] theorem failure_write (ts : List Token) : (write ts).failure = none := rfl

@[simp] theorem failure_append {e f : Emission} :
    (e ++ f).failure = none ↔ e.failure = none ∧ f.failure = none := by
  obtain ⟨ts, _ | err⟩ := e <;> simp [append_def, join]

theorem failure_eq_none {e : Emission} : e.failure = none ↔ ∃ ts, e = write ts := by
  constructor
  · intro h
    exact ⟨e.tokens, by rw [write, ← h]⟩
  · rintro ⟨ts, rfl⟩
    rfl

end Emission

theorem checkName_eq_ok {param name : String} :
    checkName param name = .ok () ↔ Text.allBlank name = false := by
  rw [checkName]
  cases Text.allBlank name <;> simp

namespace Predicate

/-! ## Predicates that are conditions -/

/-- The comparison is between one named member and one constant, and null has no place in an order.
-/
def isComparison (op : CompareOp) : Predicate → Predicate → Bool
  | member name, literal v | literal v, member name =>
    !Text.allBlank name && !(v.isNull && op.isOrdering)
  | _, _ => false

/-- The predicate has a meaning as a condition: its members have names, its comparisons are between
a member and a constant, and no set is empty. -/
def isCondition : Predicate → Bool
  | member _ | literal _ => false
  | not p => p.isCondition
  | and l r | or l r | flatAnd l r | flatOr l r => l.isCondition && r.isCondition
  | compare op l r => isComparison op l r
  | like _ name _ | boolEquals name _ => !Text.allBlank name
  | inSet name values => !Text.allBlank name && !values.isEmpty

theorem isComparison_negate (op : CompareOp) (l r : Predicate) :
    isComparison op.negate l r = isComparison op l r := by
  unfold isComparison
  rw [CompareOp.isOrdering_negate]

variable {p q : Predicate} {name : String}

theorem failure_emitNamed {e : Emission} :
    (emitNamed name e).failure = none ↔ Text.allBlank name = false ∧ e.failure = none := by
  rw [emitNamed, checkName]
  cases Text.allBlank name <;> simp [Emission.fail]

theorem failure_emitComparison {op : CompareOp} {v : Value} {memberFirst : Bool} :
    (emitComparison op name v memberFirst).failure = none ↔
      (!Text.allBlank name && !(v.isNull && op.isOrdering)) := by
  unfold emitComparison
  rw [failure_emitNamed, Bool.and_eq_true, Bool.not_eq_true']
  refine and_congr_right fun _ ↦ ?_
  cases v.isNull with
  | true => cases op <;> simp [CompareOp.isOrdering, Emission.fail]
  | false => cases memberFirst <;> simp

theorem failure_emitCompare {op : CompareOp} {l r : Predicate} :
    (emitCompare op l r).failure = none ↔ isComparison op l r := by
  fun_cases emitCompare op l r with
  | case1 name v => exact failure_emitComparison
  | case2 v name => exact failure_emitComparison
  | case3 a b => simp [Emission.fail, isComparison]
  | case4 l r hl hr hmembers =>
    rw [isComparison]
    · simp [Emission.fail]
    · exact hl
    · exact hr

theorem failure_enclose {parens : Bool} {e : Emission} :
    (enclose parens e).failure = none ↔ e.failure = none := by
  cases parens <;> simp [enclose]

/-- **A predicate can be written exactly if it is a condition**, and so can its negation. -/
theorem failure_emit {negated : Bool} : (p.emit negated).failure = none ↔ p.isCondition := by
  induction p generalizing negated with
  | member name => simp [emit, isCondition, Emission.fail]
  | literal v => simp [emit, isCondition, Emission.fail]
  | not p ih => exact ih
  | and l r ihl ihr | or l r ihl ihr | flatAnd l r ihl ihr | flatOr l r ihl ihr =>
    simp [emit, failure_enclose, ihl, ihr, isCondition]
  | compare op l r =>
    rw [emit, failure_emitCompare, isCondition]
    cases negated with
    | false => rfl
    | true =>
      rw [if_pos rfl, isComparison_negate]
  | like kind name s => simp [emit, emitLike, failure_emitNamed, isCondition]
  | inSet name vs =>
    rw [emit, emitIn, failure_emitNamed, isCondition, Bool.and_eq_true, Bool.not_eq_true']
    cases vs <;> simp [Emission.fail]
  | boolEquals name b => simp [emit, emitBool, failure_emitNamed, isCondition]

/-! ## What the builders give -/

section Builders

variable {v : Value} {op : CompareOp}

theorem bind_checkName_eq_ok {param : String} {x : Except Error Predicate} :
    (checkName param name >>= fun _ ↦ x) = .ok p ↔ Text.allBlank name = false ∧ x = .ok p := by
  rw [checkName]
  cases Text.allBlank name <;> simp [bind, Except.bind]

theorem isCondition_of_compareMember (h : compareMember op name v = .ok p)
    (hv : (v.isNull && op.isOrdering) = false) : p.isCondition := by
  obtain ⟨hname, h⟩ := bind_checkName_eq_ok.mp h
  cases h
  simp only [isCondition, isComparison, hname, hv]
  rfl

theorem isCondition_of_compareOrdered {words : String}
    (h : compareOrdered op words name v = .ok p) : p.isCondition := by
  obtain ⟨hname, h⟩ := bind_checkName_eq_ok.mp h
  by_cases hordered : !v.isOrdered
  · rw [if_pos hordered] at h
    cases h
  · rw [if_neg hordered] at h
    cases hnull : v.isNull with
    | true =>
      rw [if_pos hnull] at h
      cases h
    | false =>
      rw [hnull] at h
      exact isCondition_of_compareMember h (by rw [hnull, Bool.false_and])

theorem isCondition_of_isBool {b : Option Bool} (h : isBool name b = .ok p) : p.isCondition := by
  obtain ⟨hname, h⟩ := bind_checkName_eq_ok.mp h
  cases h
  simp only [isCondition, hname]
  rfl

theorem isCondition_of_equals (h : equals name v = .ok p) : p.isCondition := by
  unfold equals at h
  split at h
  · exact isCondition_of_isBool h
  · exact isCondition_of_compareMember h (Bool.and_false _)

theorem isCondition_of_notEquals (h : notEquals name v = .ok p) : p.isCondition := by
  unfold notEquals at h
  split at h
  · obtain ⟨q, hq, h⟩ := Except.bind_eq_ok.mp h
    cases h
    have hcondition := isCondition_of_isBool hq
    exact hcondition
  · exact isCondition_of_compareMember h (Bool.and_false _)

theorem isCondition_of_matching {kind : StringMatch} {s : String}
    (h : matching kind name s = .ok p) : p.isCondition := by
  obtain ⟨hname, h⟩ := bind_checkName_eq_ok.mp h
  cases h
  simp only [isCondition, hname]
  rfl

theorem isCondition_of_isIn {vs : List Value} (h : isIn name vs = .ok p) : p.isCondition := by
  obtain ⟨hname, h⟩ := bind_checkName_eq_ok.mp h
  cases hempty : vs.isEmpty with
  | true =>
    rw [if_pos hempty] at h
    cases h
  | false =>
    rw [hempty] at h
    cases h
    simp only [isCondition, hname, hempty]
    rfl

theorem isCondition_of_isNotIn {vs : List Value} (h : isNotIn name vs = .ok p) :
    p.isCondition := by
  obtain ⟨q, hq, h⟩ := Except.bind_eq_ok.mp h
  cases h
  have hcondition := isCondition_of_isIn hq
  exact hcondition

/-- A combination is made of the predicates in the list and of those combined before. -/
theorem isCondition_of_combineFrom {f : Predicate → Predicate → Predicate}
    (hf : ∀ l r, l.isCondition → r.isCondition → (f l r).isCondition)
    {acc : Option Predicate} {index : Nat} {ps : List (Option Predicate)}
    (hacc : ∀ q, acc = some q → q.isCondition) (hps : ∀ q, some q ∈ ps → q.isCondition)
    (h : combineFrom f acc index ps = .ok p) : p.isCondition := by
  induction ps generalizing acc index with
  | nil =>
    cases acc with
    | none => cases h
    | some q =>
      cases h
      exact hacc p rfl
  | cons item ps ih =>
    cases item with
    | none => cases h
    | some q =>
      -- the first operand begins the combination, every other one is added to it
      have hq : q.isCondition := hps q List.mem_cons_self
      refine ih ?_ (fun r hr ↦ hps r (List.mem_cons_of_mem _ hr)) h
      intro r hr
      cases acc with
      | none =>
        cases hr
        exact hq
      | some l =>
        cases hr
        exact hf l q (hacc l rfl) hq

theorem isCondition_of_allOf {ps : List (Option Predicate)}
    (hps : ∀ q, some q ∈ ps → q.isCondition) (h : allOf ps = .ok p) : p.isCondition :=
  isCondition_of_combineFrom (f := and) (fun _ _ hl hr ↦ Bool.and_eq_true_iff.mpr ⟨hl, hr⟩)
    (fun _ hq ↦ by cases hq) hps h

theorem isCondition_of_anyOf {ps : List (Option Predicate)}
    (hps : ∀ q, some q ∈ ps → q.isCondition) (h : anyOf ps = .ok p) : p.isCondition :=
  isCondition_of_combineFrom (f := or) (fun _ _ hl hr ↦ Bool.and_eq_true_iff.mpr ⟨hl, hr⟩)
    (fun _ hq ↦ by cases hq) hps h

end Builders

end Predicate

/-! ## What filter texts give -/

namespace Filter

variable {p : Predicate}

theorem Test.isCondition_of_toPredicate {member : String} {t : Test}
    (h : t.toPredicate member = .ok p) : p.isCondition := by
  cases t with
  | compare op v =>
    cases op with
    | eq => exact Predicate.isCondition_of_equals h
    | ne => exact Predicate.isCondition_of_notEquals h
    | gt | ge | lt | le => exact Predicate.isCondition_of_compareOrdered h
  | isNull =>
    have hnull : Predicate.equals member .null = .ok p := h
    exact Predicate.isCondition_of_equals hnull
  | isNotNull =>
    have hnull : Predicate.notEquals member .null = .ok p := h
    exact Predicate.isCondition_of_notEquals hnull
  | isIn vs => exact Predicate.isCondition_of_isIn h
  | isNotIn vs => exact Predicate.isCondition_of_isNotIn h
  | matching kind s => exact Predicate.isCondition_of_matching h

theorem isCondition_of_toPredicate {f : Filter} (h : f.toPredicate = .ok p) : p.isCondition := by
  induction f generalizing p with
  | test member t => exact Test.isCondition_of_toPredicate h
  | not f ih =>
    obtain ⟨q, hq, h⟩ := Except.bind_eq_ok.mp h
    cases h
    have hcondition := ih hq
    exact hcondition
  | and l r ihl ihr =>
    obtain ⟨a, ha, h⟩ := Except.bind_eq_ok.mp h
    obtain ⟨b, hb, h⟩ := Except.bind_eq_ok.mp h
    cases h
    exact Bool.and_eq_true_iff.mpr ⟨ihl ha, ihr hb⟩
  | or l r ihl ihr =>
    obtain ⟨a, ha, h⟩ := Except.bind_eq_ok.mp h
    obtain ⟨b, hb, h⟩ := Except.bind_eq_ok.mp h
    cases h
    exact Bool.and_eq_true_iff.mpr ⟨ihl ha, ihr hb⟩

end Filter

namespace Predicate

/-- The predicates that successful calls of the builders and of the reader of filter texts give. -/
inductive Built : Predicate → Prop
  | equals {name v p} (h : equals name v = .ok p) : Built p
  | notEquals {name v p} (h : notEquals name v = .ok p) : Built p
  | greaterThan {name v p} (h : greaterThan name v = .ok p) : Built p
  | greaterOrEqual {name v p} (h : greaterOrEqual name v = .ok p) : Built p
  | lessThan {name v p} (h : lessThan name v = .ok p) : Built p
  | lessOrEqual {name v p} (h : lessOrEqual name v = .ok p) : Built p
  | isBool {name b p} (h : isBool name b = .ok p) : Built p
  | matching {kind name s p} (h : matching kind name s = .ok p) : Built p
  | isIn {name vs p} (h : isIn name vs = .ok p) : Built p
  | isNotIn {name vs p} (h : isNotIn name vs = .ok p) : Built p
  | allOf {ps p} (hps : ∀ q, some q ∈ ps → Built q) (h : allOf ps = .ok p) : Built p
  | anyOf {ps p} (hps : ∀ q, some q ∈ ps → Built q) (h : anyOf ps = .ok p) : Built p
  | not {p} (hp : Built p) : Built (.not p)
  | ofText {text p} (h : ofText text = .ok p) : Built p

/-- **What was built is a condition.** -/
theorem Built.isCondition {p : Predicate} (h : p.Built) : p.isCondition := by
  induction h with
  | equals h => exact isCondition_of_equals h
  | notEquals h => exact isCondition_of_notEquals h
  | greaterThan h | greaterOrEqual h | lessThan h | lessOrEqual h =>
    exact isCondition_of_compareOrdered h
  | isBool h => exact isCondition_of_isBool h
  | matching h => exact isCondition_of_matching h
  | isIn h => exact isCondition_of_isIn h
  | isNotIn h => exact isCondition_of_isNotIn h
  | allOf _ h ih => exact isCondition_of_allOf ih h
  | anyOf _ h ih => exact isCondition_of_anyOf ih h
  | not _ ih => exact ih
  | ofText h =>
    obtain ⟨f, -, hf⟩ := Except.bind_eq_ok.mp h
    exact Filter.isCondition_of_toPredicate hf

end Predicate

end QueryChain
