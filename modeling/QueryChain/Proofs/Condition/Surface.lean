import QueryChain.Proofs.Condition.Wording

/-!
# The surface of predicates

What a predicate says about a row is one truth value. What its text says depends on where the text
stands, because a flat disjunction that is not negated is written open: its disjuncts lie on the
surface of the text, and an `AND` next to it takes one of them only. So the meaning of a text is the
list of its disjuncts, and this list follows the writing node by node.

The main statement is that the grammar reads the tokens of a predicate as these disjuncts.
-/

namespace QueryChain

/-! ## Emissions without an error -/

namespace Emission

theorem toExcept_eq_ok {e : Emission} {ts : List Token} : e.toExcept = .ok ts ↔ e = write ts := by
  obtain ⟨us, _ | err⟩ := e <;> simp [toExcept, write]

theorem append_eq_write {e f : Emission} {ts : List Token} :
    e ++ f = write ts ↔ ∃ us vs, e = write us ∧ f = write vs ∧ us ++ vs = ts := by
  obtain ⟨us, _ | err⟩ := e <;> obtain ⟨vs, _ | err'⟩ := f <;> simp [append_def, join, write]

theorem write_inj {ts us : List Token} : write ts = write us ↔ ts = us := by
  rw [write, write, Emission.mk.injEq]
  exact and_iff_left rfl

end Emission

/-- Puts parentheses around tokens where they are needed. -/
def Token.enclose (parens : Bool) (ts : List Token) : List Token :=
  if parens then .leftParen :: (ts ++ [.rightParen]) else ts

namespace Predicate

theorem enclose_eq_write {parens : Bool} {e : Emission} {ts : List Token}
    (h : enclose parens e = .write ts) :
    ∃ us, e = .write us ∧ Token.enclose parens us = ts := by
  cases parens with
  | false => exact ⟨ts, h, rfl⟩
  | true =>
    obtain ⟨s, v, hs, hv, rfl⟩ := Emission.append_eq_write.mp h
    obtain ⟨u, t, hu, rfl, rfl⟩ := Emission.append_eq_write.mp hs
    rw [Emission.write_inj] at hu hv
    subst hu hv
    exact ⟨t, rfl, rfl⟩

/-- Two operands and the keyword between them, as all connectives are written. -/
theorem joined_eq_write {e f : Emission} {negated parens : Bool} (lparens rparens : Bool)
    {j : Token} {ts : List Token} (h : .write (notIf negated) ++ enclose parens
      (enclose lparens e ++ .write [j] ++ enclose rparens f) = .write ts) :
    ∃ us vs, e = .write us ∧ f = .write vs ∧ ts = notIf negated ++ Token.enclose parens
      (Token.enclose lparens us ++ j :: Token.enclose rparens vs) := by
  obtain ⟨_, _, hnot, hgroup, rfl⟩ := Emission.append_eq_write.mp h
  obtain ⟨_, hinner, rfl⟩ := enclose_eq_write hgroup
  obtain ⟨_, _, hleft, hright, rfl⟩ := Emission.append_eq_write.mp hinner
  obtain ⟨_, _, hl, hj, rfl⟩ := Emission.append_eq_write.mp hleft
  obtain ⟨us, rfl, rfl⟩ := enclose_eq_write hl
  obtain ⟨vs, rfl, rfl⟩ := enclose_eq_write hright
  rw [Emission.write_inj] at hnot hj
  subst hnot hj
  refine ⟨us, vs, rfl, rfl, ?_⟩
  rw [List.append_assoc (Token.enclose lparens us), List.singleton_append]

/-! ## The meaning of a predicate -/

/-- A test for null by `=` or `<>`; null has no place in an order. -/
def evalNull (op : CompareOp) (v : Value) : Truth :=
  match op with
  | .eq => .ofBool v.isNull
  | .ne => (Truth.ofBool v.isNull).not
  | _ => .unknown

/-- A comparison of a member with a constant, in either order. -/
def evalCompare (κ : Collation) (row : String → Value) (op : CompareOp) :
    Predicate → Predicate → Truth
  | member name, literal v => if v.isNull then evalNull op (row name) else κ.relate op (row name) v
  | literal v, member name => if v.isNull then evalNull op (row name) else κ.relate op v (row name)
  | _, _ => .unknown

/-- What a predicate says about a row. A bare member or constant says nothing. -/
def eval (κ : Collation) (d : Dialect) (row : String → Value) : Predicate → Truth
  | member _ | literal _ => .unknown
  | not p => (p.eval κ d row).not
  | and l r | flatAnd l r => (l.eval κ d row).and (r.eval κ d row)
  | or l r | flatOr l r => (l.eval κ d row).or (r.eval κ d row)
  | compare op l r => evalCompare κ row op l r
  | like kind name s => κ.like (row name) (.string (kind.pattern s))
  | inSet name vs => κ.among (row name) vs
  | boolEquals name none => .ofBool (row name).isNull
  | boolEquals name (some b) => κ.relate .eq (row name) (d.boolValue b)

theorem evalCompare_negate (κ : Collation) (row : String → Value) (op : CompareOp)
    (l r : Predicate) : evalCompare κ row op.negate l r = (evalCompare κ row op l r).not := by
  have hnull : ∀ v : Value, evalNull op.negate v = (evalNull op v).not := by
    intro v
    cases op with
    | ne => exact (Truth.not_not _).symm
    | _ => rfl
  fun_cases evalCompare κ row op l r with
  | case1 name v h => rw [evalCompare, if_pos h, hnull]
  | case2 name v h => rw [evalCompare, if_neg h, κ.relate_negate]
  | case3 v name h => rw [evalCompare, if_pos h, hnull]
  | case4 v name h => rw [evalCompare, if_neg h, κ.relate_negate]
  | case5 l r hl hr =>
    rw [evalCompare]
    · rfl
    · exact hl
    · exact hr

/-! ## Tests -/

section Tests

variable {d : Dialect} {ts : List Token}

/-- The tokens are a single test, which says about every row what `t` says. -/
def IsTest (d : Dialect) (ts : List Token) (t : Collation → (String → Value) → Truth) : Prop :=
  ∃ c, SearchCondition.Test (ts.map (Token.settle d)) c ∧ ∀ κ row, c.eval κ row = t κ row

theorem emitNamed_eq_write {name : String} {e : Emission} (h : emitNamed name e = .write ts) :
    e = .write ts := by
  unfold emitNamed at h
  split at h
  · cases h
  · exact h

/-- A comparison is written as a test for null, or with the constant on the side where it stands. -/
theorem emitComparison_eq_write {op : CompareOp} {name : String} {v : Value} {memberFirst : Bool}
    (h : emitComparison op name v memberFirst = .write ts) :
    v.isNull ∧ (op = .eq ∧ ts = nullTest name false ∨ op = .ne ∧ ts = nullTest name true) ∨
    ¬v.isNull ∧ ts = if memberFirst then [.member name, .sign op, .constant (.value v)]
      else [.constant (.value v), .sign op, .member name] := by
  have hwritten := emitNamed_eq_write h
  by_cases hnull : v.isNull
  · rw [if_pos hnull] at hwritten
    refine .inl ⟨hnull, ?_⟩
    cases op with
    | eq => exact .inl ⟨rfl, (Emission.write_inj.mp hwritten).symm⟩
    | ne => exact .inr ⟨rfl, (Emission.write_inj.mp hwritten).symm⟩
    | _ => cases hwritten
  · rw [if_neg hnull] at hwritten
    refine .inr ⟨hnull, ?_⟩
    cases memberFirst with
    | true => exact (Emission.write_inj.mp hwritten).symm
    | false => exact (Emission.write_inj.mp hwritten).symm

/-- A comparison is written only between a member and a constant. -/
theorem emitCompare_eq_write {op : CompareOp} {l r : Predicate}
    (h : emitCompare op l r = .write ts) :
    ∃ name v memberFirst, emitComparison op name v memberFirst = .write ts ∧
      l = (if memberFirst then member name else literal v) ∧
      r = if memberFirst then literal v else member name := by
  unfold emitCompare at h
  split at h
  · exact ⟨_, _, true, h, rfl, rfl⟩
  · exact ⟨_, _, false, h, rfl, rfl⟩
  · cases h
  · cases h

theorem emitIn_eq_write {name : String} {vs : List Value} {negated : Bool}
    (h : emitIn name vs negated = .write ts) :
    vs ≠ [] ∧ ts = [.member name] ++ notIf negated ++ [.inList, .leftParen] ++ listed vs ++
      [.rightParen] := by
  have hwritten := emitNamed_eq_write h
  by_cases hempty : vs.isEmpty
  · rw [if_pos hempty] at hwritten
    cases hwritten
  · rw [if_neg hempty, Emission.write_inj] at hwritten
    rw [List.isEmpty_iff] at hempty
    exact ⟨hempty, hwritten.symm⟩

theorem isTest_nullTest (d : Dialect) (name : String) (negated : Bool) :
    IsTest d (nullTest name negated)
      fun _ row ↦ (Truth.ofBool (row name).isNull).notIf negated := by
  refine ⟨.isNull negated (.column name), ?_, fun κ row ↦ rfl⟩
  cases negated with
  | false => exact .isNull false (.column name)
  | true => exact .isNull true (.column name)

theorem isTest_emitComparison {op : CompareOp} {name : String} {v : Value} {memberFirst : Bool}
    (h : emitComparison op name v memberFirst = .write ts) :
    IsTest d ts fun κ row ↦ if v.isNull then evalNull op (row name)
      else if memberFirst then κ.relate op (row name) v else κ.relate op v (row name) := by
  rcases emitComparison_eq_write h with ⟨hnull, ⟨rfl, rfl⟩ | ⟨rfl, rfl⟩⟩ | ⟨hnull, rfl⟩
  · simp only [if_pos hnull]
    exact isTest_nullTest d name false
  · simp only [if_pos hnull]
    exact isTest_nullTest d name true
  · simp only [if_neg hnull]
    cases memberFirst with
    | true => exact ⟨_, .compare op (.column name) (.constant v), fun κ row ↦ rfl⟩
    | false => exact ⟨_, .compare op (.constant v) (.column name), fun κ row ↦ rfl⟩

theorem isTest_emitCompare {op : CompareOp} {l r : Predicate}
    (h : emitCompare op l r = .write ts) : IsTest d ts fun κ row ↦ evalCompare κ row op l r := by
  obtain ⟨name, v, memberFirst, hwritten, rfl, rfl⟩ := emitCompare_eq_write h
  cases memberFirst with
  | true => exact isTest_emitComparison hwritten
  | false => exact isTest_emitComparison hwritten

theorem isTest_emitLike {kind : StringMatch} {name s : String} {negated : Bool}
    (h : emitLike kind name s negated = .write ts) :
    IsTest d ts fun κ row ↦ (κ.like (row name) (.string (kind.pattern s))).notIf negated := by
  obtain rfl := Emission.write_inj.mp (emitNamed_eq_write h)
  refine ⟨.like negated (.column name) (.constant (.string (kind.pattern s))), ?_, fun κ row ↦ rfl⟩
  cases negated with
  | false => exact .like false (.column name) (.constant _)
  | true => exact .like true (.column name) (.constant _)

theorem settle_listed (d : Dialect) (vs : List Value) :
    (listed vs).map (Token.settle d) = Operand.list (vs.map .constant) := by
  induction vs with
  | nil => rfl
  | cons v vs ih =>
    cases vs with
    | nil => rfl
    | cons w vs =>
      rw [listed, List.map_cons, List.map_cons, ih]
      · rfl
      · exact List.cons_ne_nil _ _

theorem isTest_emitIn {name : String} {vs : List Value} {negated : Bool}
    (h : emitIn name vs negated = .write ts) :
    IsTest d ts fun κ row ↦ (κ.among (row name) vs).notIf negated := by
  obtain ⟨hne, rfl⟩ := emitIn_eq_write h
  have hitems : vs.map Operand.constant ≠ [] := fun hnil ↦ hne (List.map_eq_nil_iff.mp hnil)
  refine ⟨.inList negated (.column name) (vs.map .constant), ?_, fun κ row ↦ ?_⟩
  · simp only [List.map_append, settle_listed]
    cases negated with
    | false => exact .inList false (.column name) hitems
    | true => exact .inList true (.column name) hitems
  · have hvalues : (vs.map Operand.constant).map (Operand.value row) = vs := by
      rw [List.map_map]
      exact List.map_id vs
    rw [SearchCondition.eval, hvalues, Operand.value_column]

theorem isTest_emitBool {name : String} {b : Option Bool} {negated : Bool}
    (h : emitBool name b negated = .write ts) :
    IsTest d ts fun κ row ↦ ((boolEquals name b).eval κ d row).notIf negated := by
  have hwritten := emitNamed_eq_write h
  cases b with
  | none =>
    obtain rfl := Emission.write_inj.mp hwritten
    exact isTest_nullTest d name negated
  | some b =>
    obtain rfl := Emission.write_inj.mp hwritten
    refine ⟨.compare (if negated then .ne else .eq) (.column name) (.constant (d.boolValue b)),
      .compare _ (.column name) (.constant (d.boolValue b)), fun κ row ↦ ?_⟩
    cases negated with
    | false => rfl
    | true => exact κ.relate_negate .eq _ _

end Tests

/-! ## The disjuncts of a predicate -/

/-- The disjuncts of the text of a predicate, or of its negation. -/
def disjuncts (κ : Collation) (d : Dialect) (row : String → Value) (negated : Bool) :
    Predicate → List Truth
  | not p => p.disjuncts κ d row !negated
  | and l r => (Truth.enclose true (Truth.link
      (Truth.enclose l.isFlat (l.disjuncts κ d row false))
      (Truth.enclose r.isFlat (r.disjuncts κ d row false)))).map (Truth.notIf negated)
  | or l r => (Truth.enclose true
      (Truth.enclose l.isFlat (l.disjuncts κ d row false) ++
        Truth.enclose r.isFlat (r.disjuncts κ d row false))).map (Truth.notIf negated)
  | flatAnd l r => (Truth.enclose negated (Truth.link (l.disjuncts κ d row false)
      (r.disjuncts κ d row false))).map (Truth.notIf negated)
  | flatOr l r => (Truth.enclose negated (l.disjuncts κ d row false ++
      r.disjuncts κ d row false)).map (Truth.notIf negated)
  | p => [(p.eval κ d row).notIf negated]

/-- The tokens have the given disjuncts on their surface. -/
def Surfaces (d : Dialect) (ts : List Token) (us : Collation → (String → Value) → List Truth) :
    Prop :=
  ∃ cs, SearchCondition.Disjuncts (ts.map (Token.settle d)) cs ∧
    ∀ κ row, cs.map (SearchCondition.eval κ row) = us κ row

namespace Surfaces

variable {d : Dialect} {ts us : List Token} {f g : Collation → (String → Value) → List Truth}

theorem of_isTest {t : Collation → (String → Value) → Truth} (h : IsTest d ts t) :
    Surfaces d ts fun κ row ↦ [t κ row] := by
  obtain ⟨c, hc, heval⟩ := h
  refine ⟨[c], .factor (.test hc), fun κ row ↦ ?_⟩
  rw [List.map_singleton, heval]

theorem and (hf : Surfaces d ts f) (hg : Surfaces d us g) :
    Surfaces d (ts ++ .and :: us) fun κ row ↦ Truth.link (f κ row) (g κ row) := by
  obtain ⟨cs, hcs, hf⟩ := hf
  obtain ⟨es, hes, hg⟩ := hg
  obtain ⟨ds, hds, heval⟩ := hcs.and hes
  refine ⟨ds, ?_, fun κ row ↦ ?_⟩
  · rw [List.map_append]
    exact hds
  · rw [heval, hf, hg]

theorem or (hf : Surfaces d ts f) (hg : Surfaces d us g) :
    Surfaces d (ts ++ .or :: us) fun κ row ↦ f κ row ++ g κ row := by
  obtain ⟨cs, hcs, hf⟩ := hf
  obtain ⟨es, hes, hg⟩ := hg
  refine ⟨cs ++ es, ?_, fun κ row ↦ ?_⟩
  · rw [List.map_append]
    exact hcs.or hes
  · rw [List.map_append, hf, hg]

/-- Parentheses make a factor of any text. -/
theorem exists_factor (hf : Surfaces d ts f) :
    ∃ c, SearchCondition.Reads .factor ((Token.enclose true ts).map (Token.settle d)) c ∧
      ∀ κ row, c.eval κ row = .any (f κ row) := by
  obtain ⟨cs, hcs, hf⟩ := hf
  obtain ⟨c, hc, heval⟩ := hcs.group
  refine ⟨c, ?_, fun κ row ↦ ?_⟩
  · rw [Token.enclose, if_pos rfl, List.map_cons, List.map_append]
    exact hc
  · rw [heval, hf]

theorem enclose (hf : Surfaces d ts f) (parens : Bool) :
    Surfaces d (Token.enclose parens ts) fun κ row ↦ Truth.enclose parens (f κ row) := by
  cases parens with
  | false => exact hf
  | true =>
    obtain ⟨c, hc, heval⟩ := hf.exists_factor
    refine ⟨[c], .factor hc, fun κ row ↦ ?_⟩
    rw [List.map_singleton, heval]
    rfl

/-- A negation stands in front of parentheses. -/
theorem negate (hf : Surfaces d ts f) {negated parens : Bool} (h : negated → parens) :
    Surfaces d (notIf negated ++ Token.enclose parens ts) fun κ row ↦
      (Truth.enclose parens (f κ row)).map (Truth.notIf negated) := by
  cases negated with
  | false =>
    have hid : Truth.notIf false = id := rfl
    simp only [hid, List.map_id]
    exact hf.enclose parens
  | true =>
    obtain rfl := h rfl
    obtain ⟨c, hc, heval⟩ := hf.exists_factor
    refine ⟨[.not c], .factor (.not hc), fun κ row ↦ ?_⟩
    rw [List.map_singleton, SearchCondition.eval, heval]
    rfl

end Surfaces

/-- **The text of a predicate is read as its disjuncts.** -/
theorem surfaces_of_emit (d : Dialect) {p : Predicate} {negated : Bool} {ts : List Token}
    (h : p.emit negated = .write ts) :
    Surfaces d ts fun κ row ↦ p.disjuncts κ d row negated := by
  -- a negation flips the flag and writes nothing, so the flag is general in the induction
  induction p generalizing negated ts with
  | member name => cases h
  | literal v => cases h
  | not p ih => exact ih h
  | and l r ihl ihr =>
    obtain ⟨us, vs, hl, hr, rfl⟩ := joined_eq_write l.isFlat r.isFlat h
    exact (((ihl hl).enclose _).and ((ihr hr).enclose _)).negate fun _ ↦ rfl
  | or l r ihl ihr =>
    obtain ⟨us, vs, hl, hr, rfl⟩ := joined_eq_write l.isFlat r.isFlat h
    exact (((ihl hl).enclose _).or ((ihr hr).enclose _)).negate fun _ ↦ rfl
  | flatAnd l r ihl ihr =>
    obtain ⟨us, vs, hl, hr, rfl⟩ := joined_eq_write false false h
    exact ((ihl hl).and (ihr hr)).negate id
  | flatOr l r ihl ihr =>
    obtain ⟨us, vs, hl, hr, rfl⟩ := joined_eq_write false false h
    exact ((ihl hl).or (ihr hr)).negate id
  | compare op l r =>
    have htest := isTest_emitCompare (d := d) h
    cases negated with
    | false => exact .of_isTest htest
    | true =>
      have hnegate : ∀ κ row, evalCompare κ row op.negate l r = (evalCompare κ row op l r).not :=
        fun κ row ↦ evalCompare_negate κ row op l r
      simp only [if_pos, hnegate] at htest
      exact .of_isTest htest
  | like kind name s => exact .of_isTest (isTest_emitLike h)
  | inSet name vs => exact .of_isTest (isTest_emitIn h)
  | boolEquals name b => exact .of_isTest (isTest_emitBool h)

end Predicate

end QueryChain
