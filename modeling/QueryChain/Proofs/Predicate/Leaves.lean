import QueryChain.Proofs.Predicate.Built

/-!
# The leaves of a condition

Writing a condition reads the leaves of its predicates from left to right, and every leaf is checked
before anything of it is bound. So the first leaf that has a fault decides: the error is that of the
leaf, and bound are the constants of the leaves in front of it. The dialect, the parameters that are
bound already and the negations around a leaf have no part in this, except that a negated comparison
is reported with the negated sign.
-/

namespace QueryChain

namespace Predicate

/-! ## Faults -/

/-- What can be wrong with a leaf. -/
inductive Fault
  /-- A member stands where a condition is needed. -/
  | bareMember (name : String)
  /-- A constant stands where a condition is needed. -/
  | bareConstant (v : Value)
  /-- Two members are compared with each other. -/
  | twoMembers (left right : String)
  /-- Other sides than one member and one constant are compared. -/
  | sides
  | blankName
  /-- Null is compared by order. -/
  | orderedNull (op : CompareOp)
  /-- There is nothing in the list that the member is looked up in. -/
  | emptyList (name : String)
deriving DecidableEq

/-- The error that reports a fault, for a leaf or for its negation. -/
def Fault.error (negated : Bool) : Fault → Error
  | bareMember name => .memberNotCondition name
  | bareConstant v => .constantNotCondition v.text
  | twoMembers left right => .memberWithMember left right
  | sides => .comparisonSides
  | blankName => .blankMember "member"
  | orderedNull op => .nullWithOrder (if negated then op.negate else op).sql
  | emptyList name => .emptyInList name

/-- The fault of a test that names a member: the blank name, or what else is wrong with the test. -/
def namedFault? (name : String) (other : Option Fault) : Option Fault :=
  if Text.allBlank name then some .blankName else other

/-- The fault of a comparison. -/
def comparisonFault? (op : CompareOp) : Predicate → Predicate → Option Fault
  | member name, literal v | literal v, member name =>
    namedFault? name (if v.isNull && op.isOrdering then some (.orderedNull op) else none)
  | member left, member right => some (.twoMembers left right)
  | _, _ => some .sides

/-- The fault of a leaf. -/
def fault? : Predicate → Option Fault
  | member name => some (.bareMember name)
  | literal v => some (.bareConstant v)
  | compare op l r => comparisonFault? op l r
  | like _ name _ | boolEquals name _ => namedFault? name none
  | inSet name vs => namedFault? name (if vs.isEmpty then some (.emptyList name) else none)
  | _ => none

/-! ## Leaves -/

/-- The predicate is no negation and no connective. -/
def isLeaf : Predicate → Bool
  | not _ | and .. | or .. | flatAnd .. | flatOr .. => false
  | _ => true

/-- A leaf of a condition, and whether it is the negation of the leaf that is written. -/
structure Leaf where
  negated : Bool
  test : Predicate
deriving DecidableEq

namespace Leaf

def fault? (l : Leaf) : Option Fault := l.test.fault?

/-- The error that reports a fault of the leaf, as it is written. -/
def error (l : Leaf) (fault : Fault) : Error := fault.error l.negated

/-- The constants that a leaf binds. -/
def values (d : Dialect) (l : Leaf) : List Value := l.test.boundValues d

end Leaf

/-- The leaves of a predicate, or of its negation, from left to right. A negation reaches through
other negations but not into a connective, in front of which it is written. -/
def leaves (negated : Bool) : Predicate → List Leaf
  | not p => p.leaves !negated
  | and l r | or l r | flatAnd l r | flatOr l r => l.leaves false ++ r.leaves false
  | p => [⟨negated, p⟩]

/-- The leaves of the conjunction of a list. -/
def leavesAll (ps : List Predicate) : List Leaf := ps.flatMap (leaves false)

theorem leaves_foldl_and (p : Predicate) (ps : List Predicate) :
    (ps.foldl and p).leaves false = leavesAll (p :: ps) := by
  induction ps generalizing p with
  | nil =>
    rw [leavesAll, List.flatMap_singleton]
    rfl
  | cons q ps ih =>
    rw [List.foldl_cons, ih]
    simp only [leavesAll, List.flatMap_cons, leaves, List.append_assoc]

end Predicate

/-! ## Emissions and leaves -/

section Emissions

open Predicate

/-- The constants among the tokens are those of the leaves, in every dialect. -/
def Token.Binds (ts : List Token) (ls : List Leaf) : Prop :=
  ∀ d, (Token.constants ts).map (Constant.bound d) = ls.flatMap (Leaf.values d)

theorem Token.Binds.append {ts us : List Token} {ls ms : List Leaf} (ht : Token.Binds ts ls)
    (hu : Token.Binds us ms) : Token.Binds (ts ++ us) (ls ++ ms) := by
  intro d
  rw [Token.constants_append, List.map_append, ht d, hu d, List.flatMap_append]

/-- The emission comes from reading the leaves: all of them, or those in front of the first one that
has a fault, which is then what the emission fails with. -/
inductive Emission.Covers : Emission → List Leaf → Prop
  | complete {ts : List Token} {ls : List Leaf} (sound : ∀ l ∈ ls, l.fault? = none)
    (binds : Token.Binds ts ls) : Covers (.write ts) ls
  | stopped {ts : List Token} {before : List Leaf} {l : Leaf} {fault : Fault} (after : List Leaf)
    (sound : ∀ l ∈ before, l.fault? = none) (binds : Token.Binds ts before)
    (faulty : l.fault? = some fault) : Covers ⟨ts, some (l.error fault)⟩ (before ++ l :: after)

namespace Emission.Covers

variable {e f : Emission} {ls ms : List Leaf}

/-- Keywords, signs and parentheses come from no leaf. -/
theorem of_constants_eq_nil {ts : List Token} (h : Token.constants ts = []) :
    (write ts).Covers [] := by
  refine .complete (fun l hl ↦ absurd hl List.not_mem_nil) fun d ↦ ?_
  rw [h]
  rfl

theorem append (he : e.Covers ls) (hf : f.Covers ms) : (e ++ f).Covers (ls ++ ms) := by
  cases he with
  | stopped after sound binds faulty =>
    -- nothing is read behind the error
    rw [List.append_assoc, List.cons_append]
    exact .stopped (after ++ ms) sound binds faulty
  | complete sound binds =>
    cases hf with
    | complete sound' binds' =>
      exact .complete (List.forall_mem_append.mpr ⟨sound, sound'⟩) (binds.append binds')
    | stopped after sound' binds' faulty =>
      rw [← List.append_assoc]
      exact .stopped after (List.forall_mem_append.mpr ⟨sound, sound'⟩) (binds.append binds') faulty

theorem write_append {ts : List Token} (h : Token.constants ts = []) (he : e.Covers ls) :
    (write ts ++ e).Covers ls :=
  (of_constants_eq_nil h).append he

theorem append_write {ts : List Token} (h : Token.constants ts = []) (he : e.Covers ls) :
    (e ++ write ts).Covers ls := by
  have hcovers := he.append (of_constants_eq_nil h)
  rwa [List.append_nil] at hcovers

theorem enclose (parens : Bool) (he : e.Covers ls) : (Predicate.enclose parens e).Covers ls := by
  cases parens with
  | false => exact he
  | true => exact (he.write_append rfl).append_write rfl

/-- A connective is read like its two sides, whatever stands around them. -/
theorem joined (negated parens lparens rparens : Bool) {j : Token} (hj : Token.constants [j] = [])
    (he : e.Covers ls) (hf : f.Covers ms) :
    (write (notIf negated) ++ Predicate.enclose parens (Predicate.enclose lparens e ++ write [j] ++
      Predicate.enclose rparens f)).Covers (ls ++ ms) := by
  have hsides := ((he.enclose lparens).append_write hj).append (hf.enclose rparens)
  refine (hsides.enclose parens).write_append ?_
  cases negated <;> rfl

/-- A leaf with a fault is refused before anything of it is written. -/
theorem of_fault {l : Leaf} {fault : Fault} (h : l.fault? = some fault) :
    (fail (l.error fault)).Covers [l] := by
  have hnone : ∀ m ∈ ([] : List Leaf), m.fault? = none := fun m hm ↦ absurd hm List.not_mem_nil
  exact .stopped [] hnone (fun d ↦ rfl) h

/-- A leaf without a fault binds its constants. -/
theorem of_write {l : Leaf} {ts : List Token} (hfault : l.fault? = none)
    (h : l.test.emit l.negated = .write ts) : (write ts).Covers [l] := by
  refine .complete (List.forall_mem_singleton.mpr hfault) fun d ↦ ?_
  rw [Token.map_bound_constants, operands_of_emit h, filterMap_constant?_operands,
    List.flatMap_singleton]
  rfl

/-- An emission fails with the first fault among the leaves. -/
theorem exists_failure (h : e.Covers ls) :
    ∃ negated, e.failure = (ls.findSome? Leaf.fault?).map (Fault.error negated) := by
  cases h with
  | complete sound =>
    rw [List.findSome?_eq_none_iff.mpr sound]
    exact ⟨false, rfl⟩
  | stopped after sound _ faulty =>
    rw [List.findSome?_eq_some_iff.mpr ⟨_, _, after, rfl, faulty, sound⟩]
    exact ⟨_, rfl⟩

end Emission.Covers

end Emissions

namespace Predicate

/-! ## Leaves are checked first -/

section Checks

variable {negated : Bool} {name : String} {fault : Fault} {p : Predicate}

/-- The check of the name comes before every other check. -/
theorem emitNamed_of_fault {e : Emission} {other : Option Fault}
    (he : ∀ g, other = some g → e = .fail (g.error negated))
    (h : namedFault? name other = some fault) : emitNamed name e = .fail (fault.error negated) := by
  rw [emitNamed, checkName]
  by_cases hblank : Text.allBlank name
  · rw [namedFault?, if_pos hblank] at h
    rw [if_pos hblank, ← Option.some_inj.mp h]
    rfl
  · rw [namedFault?, if_neg hblank] at h
    rw [if_neg hblank]
    exact he fault h

theorem emitComparison_of_fault {op : CompareOp} {v : Value} {memberFirst : Bool}
    (h : namedFault? name (if v.isNull && op.isOrdering then some (.orderedNull op) else none) =
      some fault) :
    emitComparison (if negated then op.negate else op) name v memberFirst =
      .fail (fault.error negated) := by
  refine emitNamed_of_fault (fun g hg ↦ ?_) h
  rw [Option.ite_none_right_eq_some, Bool.and_eq_true] at hg
  obtain ⟨⟨hnull, hordering⟩, hg⟩ := hg
  obtain rfl := Option.some_inj.mp hg
  rw [if_pos hnull]
  cases op <;> cases negated <;> first | rfl | cases hordering

/-- A comparison is refused for its fault, with the sign that stands in the text. -/
theorem emitCompare_of_fault {op : CompareOp} {l r : Predicate}
    (h : comparisonFault? op l r = some fault) :
    emitCompare (if negated then op.negate else op) l r = .fail (fault.error negated) := by
  unfold comparisonFault? at h
  split at h
  · exact emitComparison_of_fault h
  · exact emitComparison_of_fault h
  · obtain rfl := Option.some_inj.mp h
    rfl
  · obtain rfl := Option.some_inj.mp h
    rw [emitCompare]
    · rfl
    all_goals assumption

theorem emit_of_fault (h : p.fault? = some fault) :
    p.emit negated = .fail (fault.error negated) := by
  have hnone : ∀ (e : Emission) (g : Fault), none = some g → e = .fail (g.error negated) :=
    fun _ _ hg ↦ by cases hg
  cases p with
  | member name | literal v =>
    obtain rfl := Option.some_inj.mp h
    rfl
  | compare op l r => exact emitCompare_of_fault h
  | like kind name s => exact emitNamed_of_fault (hnone _) h
  | boolEquals name b => exact emitNamed_of_fault (hnone _) h
  | inSet name vs =>
    refine emitNamed_of_fault (fun g hg ↦ ?_) h
    rw [Option.ite_none_right_eq_some] at hg
    obtain rfl := Option.some_inj.mp hg.2
    rw [if_pos hg.1]
    rfl
  | not | and | or | flatAnd | flatOr => cases h

theorem namedFault?_eq_none {other : Option Fault} :
    namedFault? name other = none ↔ Text.allBlank name = false ∧ other = none := by
  rw [namedFault?]
  by_cases hblank : Text.allBlank name <;> simp [hblank]

theorem isComparison_of_fault? {op : CompareOp} {l r : Predicate}
    (h : comparisonFault? op l r = none) : isComparison op l r := by
  have hsound : ∀ (name : String) (v : Value), namedFault? name
      (if v.isNull && op.isOrdering then some (.orderedNull op) else none) = none →
      (!Text.allBlank name && !(v.isNull && op.isOrdering)) = true := by
    intro name v h
    obtain ⟨hname, hnull⟩ := namedFault?_eq_none.mp h
    rw [ite_eq_right_iff] at hnull
    rw [hname, Bool.not_false, Bool.true_and, Bool.not_eq_true']
    exact Bool.eq_false_iff.mpr fun hordered ↦ by cases hnull hordered
  unfold comparisonFault? at h
  split at h
  · exact hsound _ _ h
  · exact hsound _ _ h
  · cases h
  · cases h

/-- A leaf without a fault is a condition. -/
theorem isCondition_of_isLeaf (hleaf : p.isLeaf) (h : p.fault? = none) : p.isCondition := by
  cases p with
  | member name | literal v => cases h
  | compare op l r => exact isComparison_of_fault? h
  | like kind name s | boolEquals name b =>
    rw [isCondition, (namedFault?_eq_none.mp h).1]
    rfl
  | inSet name vs =>
    obtain ⟨hname, hempty⟩ := namedFault?_eq_none.mp h
    rw [ite_eq_right_iff] at hempty
    rw [isCondition, hname, Bool.not_false, Bool.true_and, Bool.not_eq_true']
    exact Bool.eq_false_iff.mpr fun h ↦ by cases hempty h
  | not | and | or | flatAnd | flatOr => cases hleaf

theorem covers_of_isLeaf (hleaf : p.isLeaf) : (p.emit negated).Covers [⟨negated, p⟩] := by
  cases hfault : p.fault? with
  | some fault =>
    rw [emit_of_fault hfault]
    exact .of_fault (l := ⟨negated, p⟩) hfault
  | none =>
    have hcondition : (p.emit negated).failure = none :=
      failure_emit.mpr (isCondition_of_isLeaf hleaf hfault)
    obtain ⟨ts, hts⟩ := Emission.failure_eq_none.mp hcondition
    rw [hts]
    exact .of_write (l := ⟨negated, p⟩) hfault hts

/-- **The writing of a predicate reads its leaves.** -/
theorem covers_emit (p : Predicate) (negated : Bool) :
    (p.emit negated).Covers (p.leaves negated) := by
  -- a negation turns the flag of what is below it, so the flag is general in the induction
  induction p generalizing negated with
  | not p ih => exact ih _
  | and l r ihl ihr | or l r ihl ihr => exact (ihl false).joined _ _ _ _ rfl (ihr false)
  | flatAnd l r ihl ihr | flatOr l r ihl ihr =>
    exact (ihl false).joined negated negated false false rfl (ihr false)
  | _ => exact covers_of_isLeaf rfl

theorem covers_emitAll (ps : List Predicate) : (emitAll ps).Covers (leavesAll ps) := by
  cases ps with
  | nil => exact .of_constants_eq_nil rfl
  | cons p ps =>
    rw [← leaves_foldl_and]
    exact covers_emit _ _

end Checks

/-! ## Negations -/

/-- The predicate without its negations. -/
def withoutNot : Predicate → Predicate
  | not p => p.withoutNot
  | and l r => .and l.withoutNot r.withoutNot
  | or l r => .or l.withoutNot r.withoutNot
  | flatAnd l r => .flatAnd l.withoutNot r.withoutNot
  | flatOr l r => .flatOr l.withoutNot r.withoutNot
  | p => p

theorem map_test_leaves_withoutNot (p : Predicate) (m n : Bool) :
    (p.withoutNot.leaves m).map Leaf.test = (p.leaves n).map Leaf.test := by
  induction p generalizing m n with
  | not p ih => exact ih m !n
  | and l r ihl ihr | or l r ihl ihr | flatAnd l r ihl ihr | flatOr l r ihl ihr =>
    simp only [withoutNot, leaves, List.map_append, ihl false false, ihr false false]
  | _ => rfl

theorem map_test_leavesAll_withoutNot (ps : List Predicate) :
    (leavesAll (ps.map withoutNot)).map Leaf.test = (leavesAll ps).map Leaf.test := by
  rw [leavesAll, leavesAll, List.flatMap_map, List.map_flatMap, List.map_flatMap]
  exact congrArg ps.flatMap (funext fun p ↦ map_test_leaves_withoutNot p false false)

/-- Both conditions were written, or both were refused with the same error, but for the sign of a
comparison with null. -/
inductive SameOutcome : Except Error String → Except Error String → Prop
  | written (text text' : String) : SameOutcome (.ok text) (.ok text')
  | refused (err : Error) : SameOutcome (.error err) (.error err)
  | negated (op : CompareOp) :
    SameOutcome (.error (.nullWithOrder op.sql)) (.error (.nullWithOrder op.negate.sql))

theorem SameOutcome.of_fault (fault : Fault) (m n : Bool) :
    SameOutcome (.error (fault.error m)) (.error (fault.error n)) := by
  cases fault with
  | orderedNull op =>
    cases m <;> cases n
    · exact .refused _
    · exact .negated op
    · have hsigns := SameOutcome.negated op.negate
      rwa [CompareOp.negate_negate] at hsigns
    · exact .refused _
  | _ => exact .refused _

/-- Leaves with the same tests have the same first fault. -/
theorem SameOutcome.of_covers {e f : Emission} {ls ms : List Leaf} (he : e.Covers ls)
    (hf : f.Covers ms) (htests : ls.map Leaf.test = ms.map Leaf.test)
    (g h : List Token → String) : SameOutcome (e.toExcept.map g) (f.toExcept.map h) := by
  have hfind : ∀ ks : List Leaf, ks.findSome? Leaf.fault? = (ks.map Leaf.test).findSome? fault? :=
    fun ks ↦ (List.findSome?_map ..).symm
  obtain ⟨m, he⟩ := he.exists_failure
  obtain ⟨n, hf⟩ := hf.exists_failure
  rw [hfind, htests] at he
  rw [hfind] at hf
  rw [Emission.toExcept, Emission.toExcept, he, hf]
  cases (ms.map Leaf.test).findSome? fault? with
  | none => exact .written _ _
  | some fault => exact .of_fault fault m n

/-! ## The first fault -/

/-- **The first faulty leaf decides.** If no leaf has a fault, then a condition is written and all
constants are bound behind the parameters that are there. If one has, then the first of them is
reported, and the constants of the leaves in front of it are bound. Nothing but the sign that is
reported depends on the negations around the leaves, and neither do the dialect and the parameters
matter. -/
theorem toCondition_leaves (ps : List Predicate) :
    ((∀ l ∈ leavesAll ps, l.fault? = none) ∧ (∀ d bound, ∃ text, toCondition d bound ps =
        (.ok text, bound ++ (leavesAll ps).flatMap (Leaf.values d))) ∨
      ∃ before l after fault, leavesAll ps = before ++ l :: after ∧
        (∀ m ∈ before, m.fault? = none) ∧ l.fault? = some fault ∧
        ∀ d bound, toCondition d bound ps =
          (.error (l.error fault), bound ++ before.flatMap (Leaf.values d))) ∧
    ∀ d bound d' bound', SameOutcome (toCondition d bound ps).1
      (toCondition d' bound' (ps.map withoutNot)).1 := by
  have hcovers := covers_emitAll ps
  constructor
  · simp only [toCondition]
    generalize emitAll ps = e at hcovers
    generalize leavesAll ps = ls at hcovers
    cases hcovers with
    | complete sound binds =>
      refine .inl ⟨sound, fun d bound ↦ ?_⟩
      rw [← binds d]
      exact ⟨_, rfl⟩
    | stopped after sound binds faulty =>
      refine .inr ⟨_, _, after, _, rfl, sound, faulty, fun d bound ↦ ?_⟩
      rw [← binds d]
      rfl
  · intro d bound d' bound'
    exact .of_covers hcovers (covers_emitAll _) (map_test_leavesAll_withoutNot ps).symm _ _

example : toCondition .postgres [.int32 7]
    [.compare .eq (.member "A") (.literal (.int32 1)),
      .not (.compare .gt (.member "B") (.literal .null)), .boolEquals "" none] =
    (.error (.nullWithOrder "<="), [.int32 7, .int32 1]) := by
  decide +kernel

end Predicate

end QueryChain
