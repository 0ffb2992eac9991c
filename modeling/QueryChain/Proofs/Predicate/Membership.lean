import QueryChain.Proofs.Condition.Narrowing
import QueryChain.Proofs.Predicate.Built

/-!
# Membership and equality

A set is written as one `IN` list, with every element bound as it is. Written as single equalities
the same values are bound with more care: a null is tested for and not compared with, and a Boolean
is bound in the way that the dialect holds it. So membership is the disjunction of the equalities
only as far as this care changes nothing. A null in the list finds no row, and under `NOT IN` it
loses all of them.
-/

namespace QueryChain

namespace Truth

theorem any_eq_holds {ts : List Truth} : any ts = holds ↔ holds ∈ ts := by
  induction ts with
  | nil => simp
  | cons t ts ih =>
    have hor : ∀ u : Truth, t.or u = holds ↔ holds = t ∨ u = holds := by
      intro u
      cases t <;> cases u <;> decide
    rw [any_cons, hor, ih, List.mem_cons]

theorem any_eq_fails {ts : List Truth} : any ts = fails ↔ ∀ t ∈ ts, t = fails := by
  induction ts with
  | nil => simp
  | cons t ts ih => rw [any_cons, or_eq_fails, ih, List.forall_mem_cons]

theorem all_eq_holds {ts : List Truth} : all ts = holds ↔ ∀ t ∈ ts, t = holds := by
  induction ts with
  | nil => simp
  | cons t ts ih =>
    have hand : ∀ u : Truth, t.and u = holds ↔ t = holds ∧ u = holds := by
      intro u
      cases t <;> cases u <;> decide
    rw [all_cons, hand, ih, List.forall_mem_cons]

theorem ofBool_eq_holds {b : Bool} : ofBool b = holds ↔ b := by
  cases b <;> decide

theorem not_eq_holds {t : Truth} : t.not = holds ↔ t = fails := by
  cases t <;> decide

end Truth

namespace Collation

variable {κ : Collation} {v w : Value} {ws : List Value}

theorem relate_of_isNull {op : CompareOp} (h : v.isNull ∨ w.isNull) :
    κ.relate op v w = .unknown := by
  rw [relate, if_pos (Bool.or_eq_true_iff.mpr h)]

theorem among_eq_holds :
    κ.among v ws = .holds ↔ ∃ w ∈ ws, κ.relate .eq v w = .holds := by
  rw [among, Truth.any_eq_holds, List.mem_map]

theorem among_eq_fails :
    κ.among v ws = .fails ↔ ∀ w ∈ ws, κ.relate .eq v w = .fails := by
  rw [among, Truth.any_eq_fails, List.forall_mem_map]

/-- Values compare like the numbers that they hold, and a Boolean holds one or zero. -/
def byNumber : Collation where
  compare v w := Ord.compare (number v) (number w)
  matchesPattern _ _ := false
where
  number : Value → Int
    | .bool b => if b then 1 else 0
    | v => (v.asInt64?.getD 0).toInt

end Collation

namespace Predicate

/-! ## Selected rows -/

/-- The condition that the predicate holds selects the row. -/
def Selects (κ : Collation) (d : Dialect) (row : String → Value) (bound : List Value)
    (p : Predicate) : Prop :=
  meaning? κ d row bound [p] = some .holds

instance {κ : Collation} {d : Dialect} {row : String → Value} {bound : List Value}
    {p : Predicate} : Decidable (p.Selects κ d row bound) :=
  inferInstanceAs (Decidable (_ = _))

variable {κ : Collation} {d : Dialect} {row : String → Value} {bound : List Value}
  {name : String} {v : Value} {p : Predicate} {ps : List Predicate} {vs : List Value}

theorem selects_iff (hp : p.isCondition) (hgrouped : p.isGrouped) :
    p.Selects κ d row bound ↔ p.eval κ d row = .holds := by
  have htranslates : p.Translates := failure_emit.mpr hp
  rw [Selects, meaning?_singleton htranslates, evalText, disjuncts_of_isGrouped κ d row hgrouped,
    Option.some_inj, Truth.any_cons, Truth.any_nil, Truth.or_fails, Truth.notIf_false]

/-! ## Combinations of given predicates -/

theorem combineFrom_map_some (f : Predicate → Predicate → Predicate) (p : Predicate) (index : Nat)
    (ps : List Predicate) : combineFrom f (some p) index (ps.map some) = .ok (ps.foldl f p) := by
  induction ps generalizing p index with
  | nil => rfl
  | cons q ps ih => exact ih (f p q) (index + 1)

theorem eval_foldl_or (p : Predicate) (ps : List Predicate) :
    (ps.foldl or p).eval κ d row = .any ((p :: ps).map (eval κ d row)) := by
  induction ps generalizing p with
  | nil => exact (Truth.or_fails _).symm
  | cons q ps ih =>
    rw [List.foldl_cons, ih]
    simp only [List.map_cons, Truth.any_cons, eval, Truth.or_assoc]

theorem eval_foldl_and (p : Predicate) (ps : List Predicate) :
    (ps.foldl and p).eval κ d row = .all ((p :: ps).map (eval κ d row)) := by
  induction ps generalizing p with
  | nil => exact (Truth.and_holds _).symm
  | cons q ps ih =>
    rw [List.foldl_cons, ih]
    simp only [List.map_cons, Truth.all_cons, eval, Truth.and_assoc]

/-- A combination of grouped conditions is built from left to right, and it is one itself. -/
theorem exists_combineFrom {f : Predicate → Predicate → Predicate}
    (hcondition : ∀ l r, l.isCondition → r.isCondition → (f l r).isCondition)
    (hgrouped : ∀ l r, l.isGrouped → r.isGrouped → (f l r).isGrouped)
    (hne : ps ≠ []) (hps : ∀ q ∈ ps, q.isCondition ∧ q.isGrouped) :
    ∃ q qs, ps = q :: qs ∧ combineFrom f none 0 (ps.map some) = .ok (qs.foldl f q) ∧
      (qs.foldl f q).isCondition ∧ (qs.foldl f q).isGrouped := by
  obtain ⟨q, qs, rfl⟩ := List.exists_cons_of_ne_nil hne
  have hbuilt : combineFrom f none 0 ((q :: qs).map some) = .ok (qs.foldl f q) :=
    combineFrom_map_some f q _ qs
  refine ⟨q, qs, rfl, hbuilt, ?_, ?_⟩
  · exact isCondition_of_combineFrom hcondition (fun _ hr ↦ by cases hr)
      (fun r hr ↦ (hps r (by simpa using hr)).1) hbuilt
  · rw [List.forall_mem_cons] at hps
    refine List.foldlRecOn qs f hps.1.2 fun l hl r hr ↦ hgrouped l r hl (hps.2 r hr).2

/-- The disjunction of grouped conditions selects the rows that one of them holds for. -/
theorem exists_anyOf (hne : ps ≠ []) (hps : ∀ q ∈ ps, q.isCondition ∧ q.isGrouped) :
    ∃ p, anyOf (ps.map some) = .ok p ∧ ∀ κ d row bound,
      p.Selects κ d row bound ↔ ∃ q ∈ ps, q.eval κ d row = .holds := by
  obtain ⟨q, qs, rfl, hbuilt, hcondition, hgrouped⟩ := exists_combineFrom (f := or)
    (fun _ _ hl hr ↦ Bool.and_eq_true_iff.mpr ⟨hl, hr⟩)
    (fun _ _ hl hr ↦ Bool.and_eq_true_iff.mpr ⟨hl, hr⟩) hne hps
  refine ⟨_, hbuilt, fun κ d row bound ↦ ?_⟩
  rw [selects_iff hcondition hgrouped, eval_foldl_or, Truth.any_eq_holds, List.mem_map]

/-- The conjunction of grouped conditions selects the rows that all of them hold for. -/
theorem exists_allOf (hne : ps ≠ []) (hps : ∀ q ∈ ps, q.isCondition ∧ q.isGrouped) :
    ∃ p, allOf (ps.map some) = .ok p ∧ ∀ κ d row bound,
      p.Selects κ d row bound ↔ ∀ q ∈ ps, q.eval κ d row = .holds := by
  obtain ⟨q, qs, rfl, hbuilt, hcondition, hgrouped⟩ := exists_combineFrom (f := and)
    (fun _ _ hl hr ↦ Bool.and_eq_true_iff.mpr ⟨hl, hr⟩)
    (fun _ _ hl hr ↦ Bool.and_eq_true_iff.mpr ⟨hl, hr⟩) hne hps
  refine ⟨_, hbuilt, fun κ d row bound ↦ ?_⟩
  rw [selects_iff hcondition hgrouped, eval_foldl_and, Truth.all_eq_holds, List.forall_mem_map]

/-! ## Single values -/

/-- The test that a member equals a value. -/
def equality (name : String) : Value → Predicate
  | .bool b => .boolEquals name (some b)
  | v => .compare .eq (.member name) (.literal v)

/-- The test that a member differs from a value. -/
def difference (name : String) : Value → Predicate
  | .bool b => .not (.boolEquals name (some b))
  | v => .compare .ne (.member name) (.literal v)

theorem equals_eq (hname : Text.allBlank name = false) (v : Value) :
    equals name v = .ok (equality name v) := by
  have hcheck : checkName "member" name = .ok () := checkName_eq_ok.mpr hname
  cases v <;> simp only [equals, isBool, compareMember, equality, hcheck] <;> rfl

theorem notEquals_eq (hname : Text.allBlank name = false) (v : Value) :
    notEquals name v = .ok (difference name v) := by
  have hcheck : checkName "member" name = .ok () := checkName_eq_ok.mpr hname
  cases v <;> simp only [notEquals, isBool, compareMember, difference, hcheck] <;> rfl

theorem isCondition_equality (hname : Text.allBlank name = false) (v : Value) :
    (equality name v).isCondition ∧ (equality name v).isGrouped := by
  refine ⟨isCondition_of_equals (equals_eq hname v), ?_⟩
  cases v <;> rfl

theorem isCondition_difference (hname : Text.allBlank name = false) (v : Value) :
    (difference name v).isCondition ∧ (difference name v).isGrouped := by
  refine ⟨isCondition_of_notEquals (notEquals_eq hname v), ?_⟩
  cases v <;> rfl

/-- The test for a difference is the negation of the test for equality, also for null. -/
theorem eval_difference (v : Value) :
    (difference name v).eval κ d row = ((equality name v).eval κ d row).not := by
  cases v with
  | bool b => rfl
  | _ => exact evalCompare_negate κ row .eq (.member name) (.literal _)

theorem eval_equality_null :
    (equality name .null).eval κ d row = .ofBool (row name).isNull := rfl

/-- A value that is not null is equal as the database compares it, if it compares a Boolean like
what the dialect holds for it. -/
theorem eval_equality (hv : v ≠ .null)
    (hbool : ∀ b, v = .bool b →
      κ.relate .eq (row name) (.bool b) = κ.relate .eq (row name) (d.boolValue b)) :
    (equality name v).eval κ d row = κ.relate .eq (row name) v := by
  cases v with
  | null => exact absurd rfl hv
  | bool b => exact (hbool b rfl).symm
  | _ => rfl

/-! ## Lists of values -/

/-- Membership in a list is equality with an element, but for a row without a value. -/
theorem among_eq_holds_iff
    (hbool : ∀ b, .bool b ∈ vs →
      κ.relate .eq (row name) (.bool b) = κ.relate .eq (row name) (d.boolValue b)) :
    κ.among (row name) vs = .holds ↔ (∃ v ∈ vs, (equality name v).eval κ d row = .holds) ∧
      ¬((row name).isNull ∧ .null ∈ vs) := by
  rw [Collation.among_eq_holds]
  constructor
  · rintro ⟨v, hv, hrelate⟩
    have hvalues : ¬((row name).isNull ∨ v.isNull) := by
      intro h
      rw [Collation.relate_of_isNull h] at hrelate
      cases hrelate
    rw [not_or] at hvalues
    have hne : v ≠ .null := by
      rintro rfl
      exact hvalues.2 rfl
    refine ⟨⟨v, hv, ?_⟩, fun h ↦ hvalues.1 h.1⟩
    rw [eval_equality hne fun b hb ↦ hbool b (hb ▸ hv), hrelate]
  · rintro ⟨⟨v, hv, heval⟩, hnull⟩
    by_cases hne : v = .null
    · subst hne
      rw [eval_equality_null, Truth.ofBool_eq_holds] at heval
      exact absurd ⟨heval, hv⟩ hnull
    · rw [eval_equality hne fun b hb ↦ hbool b (hb ▸ hv)] at heval
      exact ⟨v, hv, heval⟩

/-- Absence from a list is the difference from every element, for a list without null. -/
theorem among_eq_fails_iff
    (hbool : ∀ b, .bool b ∈ vs →
      κ.relate .eq (row name) (.bool b) = κ.relate .eq (row name) (d.boolValue b)) :
    κ.among (row name) vs = .fails ↔ (∀ v ∈ vs, (difference name v).eval κ d row = .holds) ∧
      .null ∉ vs := by
  have hpoint : .null ∉ vs → ∀ v ∈ vs, ((difference name v).eval κ d row = .holds ↔
      κ.relate .eq (row name) v = .fails) := by
    intro hnull v hv
    have hne : v ≠ .null := by
      rintro rfl
      exact hnull hv
    rw [eval_difference, eval_equality hne fun b hb ↦ hbool b (hb ▸ hv), Truth.not_eq_holds]
  rw [Collation.among_eq_fails]
  constructor
  · intro h
    have hnull : .null ∉ vs := by
      intro hmem
      have hrelate := h .null hmem
      rw [Collation.relate_of_isNull (.inr rfl)] at hrelate
      cases hrelate
    exact ⟨fun v hv ↦ (hpoint hnull v hv).mpr (h v hv), hnull⟩
  · rintro ⟨h, hnull⟩ v hv
    exact (hpoint hnull v hv).mp (h v hv)

/-! ## Membership -/

/-- The disjunction of the equalities of a member with all values, as the builders give it. -/
def anyEqual (name : String) (vs : List Value) : Except Error Predicate := do
  anyOf ((← vs.mapM (equals name)).map some)

/-- The conjunction of the differences of a member from all values, as the builders give it. -/
def allDifferent (name : String) (vs : List Value) : Except Error Predicate := do
  allOf ((← vs.mapM (notEquals name)).map some)

theorem isIn_eq (hname : Text.allBlank name = false) (hvs : vs ≠ []) :
    isIn name vs = .ok (.inSet name vs) := by
  obtain ⟨v, us, rfl⟩ := List.exists_cons_of_ne_nil hvs
  have hcheck : checkName "member" name = .ok () := checkName_eq_ok.mpr hname
  rw [isIn, hcheck]
  rfl

theorem isNotIn_eq (hname : Text.allBlank name = false) (hvs : vs ≠ []) :
    isNotIn name vs = .ok (.not (.inSet name vs)) := by
  rw [isNotIn, isIn_eq hname hvs]
  rfl

theorem anyEqual_eq (hname : Text.allBlank name = false) :
    anyEqual name vs = anyOf ((vs.map (equality name)).map some) := by
  have hequals : equals name = fun v ↦ pure (equality name v) := funext (equals_eq hname)
  rw [anyEqual, hequals, List.mapM_pure]
  rfl

theorem allDifferent_eq (hname : Text.allBlank name = false) :
    allDifferent name vs = allOf ((vs.map (difference name)).map some) := by
  have hnotEquals : notEquals name = fun v ↦ pure (difference name v) :=
    funext (notEquals_eq hname)
  rw [allDifferent, hnotEquals, List.mapM_pure]
  rfl

/-- **Membership is the disjunction of the equalities, but for null.** If the database compares a
Boolean in the list like what the dialect holds for it, then membership selects what the disjunction
of the equalities selects, except for the rows without a value where the list has a null; and
absence selects what the conjunction of the differences selects, unless the list has a null: then it
selects nothing. -/
theorem selects_isIn (κ : Collation) (d : Dialect) (row : String → Value) (bound : List Value)
    {name : String} {vs : List Value} (hname : Text.allBlank name = false) (hvs : vs ≠ [])
    (hbool : ∀ b, .bool b ∈ vs →
      κ.relate .eq (row name) (.bool b) = κ.relate .eq (row name) (d.boolValue b)) :
    ∃ isin notin any all, isIn name vs = .ok isin ∧ isNotIn name vs = .ok notin ∧
      anyEqual name vs = .ok any ∧ allDifferent name vs = .ok all ∧
      (isin.Selects κ d row bound ↔
        any.Selects κ d row bound ∧ ¬((row name).isNull ∧ .null ∈ vs)) ∧
      (notin.Selects κ d row bound ↔ all.Selects κ d row bound ∧ .null ∉ vs) := by
  have hin := isIn_eq hname hvs
  have hnotIn := isNotIn_eq hname hvs
  obtain ⟨any, hany, hanySelects⟩ := exists_anyOf
    (by simpa using hvs : vs.map (equality name) ≠ [])
    (List.forall_mem_map.mpr fun v _ ↦ isCondition_equality hname v)
  obtain ⟨all, hall, hallSelects⟩ := exists_allOf
    (by simpa using hvs : vs.map (difference name) ≠ [])
    (List.forall_mem_map.mpr fun v _ ↦ isCondition_difference hname v)
  rw [← anyEqual_eq hname] at hany
  rw [← allDifferent_eq hname] at hall
  refine ⟨_, _, any, all, hin, hnotIn, hany, hall, ?_, ?_⟩
  · rw [selects_iff (isCondition_of_isIn hin) rfl, hanySelects, eval, among_eq_holds_iff hbool]
    simp only [List.mem_map, exists_exists_and_eq_and]
  · rw [selects_iff (isCondition_of_isNotIn hnotIn) rfl, hallSelects, eval, eval,
      Truth.not_eq_holds, among_eq_fails_iff hbool]
    simp only [List.forall_mem_map]

/-- A list with a null and a Boolean, behind a parameter that is bound already. -/
theorem selects_isIn_null_true :
    Text.allBlank "A" = false ∧ [Value.null, .bool true] ≠ [] ∧
    (∀ b, .bool b ∈ [Value.null, .bool true] →
      Collation.byNumber.relate .eq (.int64 1) (.bool b) =
        Collation.byNumber.relate .eq (.int64 1) (Dialect.sqlServer.boolValue b)) ∧
    ∃ isin notin, isIn "A" [.null, .bool true] = .ok isin ∧
      isNotIn "A" [.null, .bool true] = .ok notin ∧
      isin.Selects .byNumber .sqlServer (fun _ ↦ .int64 1) [.int32 7] ∧
      ¬notin.Selects .byNumber .sqlServer (fun _ ↦ .int64 1) [.int32 7] := by
  have hname : Text.allBlank "A" = false := by decide
  have hvs : [Value.null, .bool true] ≠ [] := by decide
  have hbool : ∀ b, .bool b ∈ [Value.null, .bool true] →
      Collation.byNumber.relate .eq (.int64 1) (.bool b) =
        Collation.byNumber.relate .eq (.int64 1) (Dialect.sqlServer.boolValue b) := by
    intro b _
    cases b <;> decide
  obtain ⟨isin, notin, any, all, hin, hnotIn, hany, -, hselects, hrejects⟩ :=
    selects_isIn .byNumber .sqlServer (fun _ ↦ .int64 1) [.int32 7] hname hvs hbool
  have hanySelects : any.Selects .byNumber .sqlServer (fun _ ↦ .int64 1) [.int32 7] := by
    obtain rfl : (Predicate.compare .eq (.member "A") (.literal .null)).or
        (.boolEquals "A" (some true)) = any := Except.ok.inj hany
    decide +kernel
  exact ⟨hname, hvs, hbool, isin, notin, hin, hnotIn, hselects.mpr ⟨hanySelects, by decide⟩,
    fun h ↦ (hrejects.mp h).2 (by decide)⟩

/-- A list with a null does not find the row without a value, and a list without the value of a row
does not pass it if it has a null; and where a Boolean is no number, a list does not find the number
that stands for it. -/
theorem not_selects_isIn :
    (∃ isin any, isIn "A" [.null] = .ok isin ∧ anyEqual "A" [.null] = .ok any ∧
      any.Selects .byNumber .sqlServer (fun _ ↦ .null) [] ∧
      ¬isin.Selects .byNumber .sqlServer (fun _ ↦ .null) []) ∧
    (∃ notin all, isNotIn "A" [.int32 1, .null] = .ok notin ∧
      allDifferent "A" [.int32 1, .null] = .ok all ∧
      all.Selects .byNumber .sqlServer (fun _ ↦ .int32 2) [] ∧
      ¬notin.Selects .byNumber .sqlServer (fun _ ↦ .int32 2) []) ∧
    ∃ κ isin any, isIn "A" [.bool true] = .ok isin ∧ anyEqual "A" [.bool true] = .ok any ∧
      any.Selects κ .sqlServer (fun _ ↦ .int32 1) [] ∧
      ¬isin.Selects κ .sqlServer (fun _ ↦ .int32 1) [] := by
  refine ⟨⟨_, _, rfl, rfl, ?_, ?_⟩, ⟨_, _, rfl, rfl, ?_, ?_⟩,
    ⟨fun v w ↦ if v = w then .eq else .lt, fun _ _ ↦ false⟩, _, _, rfl, rfl, ?_, ?_⟩
  all_goals decide +kernel

end Predicate

end QueryChain
