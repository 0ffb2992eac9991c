import QueryChain.Proofs.Predicate.Built
import QueryChain.Proofs.Statement.Filtering

/-!
# What was validated can be translated

A query is checked call by call. A call that is refused leaves the query as it was, so whatever the
sequence of calls, every operator of the query passed its check, and the checks of the translation
find nothing more. The same holds for changes of rows with a built condition, where the names of
the target and of the fields are checked only once.
-/

namespace QueryChain

/-! ## Sequences of calls -/

/-- A call of a builder that continues a query. -/
inductive Query.Call
  | filter (p : Predicate)
  | orderByKey (key : Predicate) (direction : Direction)
  | thenByKey (key : Predicate) (direction : Direction)
  | orderBy (member : String)
  | orderByDescending (member : String)
  | thenBy (member : String)
  | thenByDescending (member : String)
  | skip (count : Int64)
  | take (count : Int64)
  | selectOnly (fields : List String)

namespace Query

/-- What a call gives. -/
def Call.run (q : Query) : Call → Except Error Query
  | filter p => .ok (q.filter p)
  | orderByKey key direction => q.orderByKey key direction
  | thenByKey key direction => q.thenByKey key direction
  | orderBy member => q.orderBy member
  | orderByDescending member => q.orderByDescending member
  | thenBy member => q.thenBy member
  | thenByDescending member => q.thenByDescending member
  | skip count => q.skip count
  | take count => q.take count
  | selectOnly fields => q.selectOnly fields

/-- The query after a call; a call that fails leaves it as it was. -/
def afterCall (q : Query) (c : Call) : Query :=
  match c.run q with
  | .ok q' => q'
  | .error _ => q

/-- The query after a sequence of calls. -/
def afterCalls (q : Query) (cs : List Call) : Query := cs.foldl afterCall q

/-- The filters of the call are conditions. -/
def Call.IsChecked : Call → Prop
  | filter p => p.isCondition
  | _ => True

end Query

/-- The operator passed the check of its builder, and it does not end the query. -/
def Operator.IsChecked : Operator → Prop
  | filter p => p.isCondition
  | orderBy key _ | thenBy key _ => ∃ name, keyName key = .ok name
  | skip _ | take _ | selectOnly _ => True
  | terminal _ => False

namespace Query

variable {q q' : Query}

/-- Every operator of the query passed its check, and the query has not ended. -/
def IsChecked (q : Query) : Prop := ∀ op ∈ q.operators, op.IsChecked

theorem IsChecked.append (hq : q.IsChecked) {op : Operator} (hop : op.IsChecked) :
    (q.append op).IsChecked := by
  intro op' hop'
  rcases List.mem_append.mp hop' with hmem | hmem
  · exact hq op' hmem
  · rw [List.mem_singleton.mp hmem]
    exact hop

theorem exists_keyName_of_checkKey {key : Predicate} (h : checkKey key = .ok ()) :
    ∃ name, keyName key = .ok name := by
  rw [checkKey] at h
  rw [keyName]
  cases hname : key.asMember? with
  | none =>
    rw [hname] at h
    cases h
  | some name => exact ⟨name, rfl⟩

theorem IsChecked.orderByKey (hq : q.IsChecked) {key : Predicate} {direction : Direction}
    (h : q.orderByKey key direction = .ok q') : q'.IsChecked := by
  obtain ⟨_, hkey, h⟩ := Except.bind_eq_ok.mp h
  cases h
  exact hq.append (exists_keyName_of_checkKey hkey)

theorem IsChecked.thenByKey (hq : q.IsChecked) {key : Predicate} {direction : Direction}
    (h : q.thenByKey key direction = .ok q') : q'.IsChecked := by
  obtain ⟨_, hkey, h⟩ := Except.bind_eq_ok.mp h
  cases h
  exact hq.append (exists_keyName_of_checkKey hkey)

theorem IsChecked.selectOnly (hq : q.IsChecked) {fields : List String}
    (h : q.selectOnly fields = .ok q') : q'.IsChecked := by
  rw [Query.selectOnly] at h
  split at h
  · cases h
  · split at h
    · cases h
    · cases h
      exact hq.append trivial

/-- A call keeps a query checked, whether or not it fails. -/
theorem IsChecked.afterCall (hq : q.IsChecked) {c : Call} (hc : c.IsChecked) :
    (q.afterCall c).IsChecked := by
  rw [Query.afterCall]
  cases hrun : c.run q with
  | error err => exact hq
  | ok q' =>
    cases c with
    | filter p =>
      cases hrun
      exact hq.append hc
    | orderByKey | orderBy | orderByDescending => exact hq.orderByKey hrun
    | thenByKey | thenBy | thenByDescending => exact hq.thenByKey hrun
    | skip count | take count =>
      obtain ⟨n, -, hrun⟩ := Except.bind_eq_ok.mp hrun
      cases hrun
      exact hq.append trivial
    | selectOnly fields => exact hq.selectOnly hrun

theorem IsChecked.afterCalls (hq : q.IsChecked) {cs : List Call} (hcs : ∀ c ∈ cs, c.IsChecked) :
    (q.afterCalls cs).IsChecked := by
  induction cs generalizing q with
  | nil => exact hq
  | cons c cs ih =>
    rw [List.forall_mem_cons] at hcs
    exact ih (hq.afterCall hcs.1) hcs.2

end Query

/-! ## Translation -/

theorem exists_orderKeysFrom {ops : List Operator} (h : ∀ op ∈ ops, op.IsChecked)
    (keys : List (String × Direction)) : ∃ ks, orderKeysFrom keys ops = .ok ks := by
  induction ops generalizing keys with
  | nil => exact ⟨keys, rfl⟩
  | cons op ops ih =>
    rw [List.forall_mem_cons] at h
    obtain ⟨hop, hops⟩ := h
    cases op with
    | orderBy key direction =>
      obtain ⟨name, hname⟩ := hop
      obtain ⟨ks, hks⟩ := ih hops [(name, direction)]
      exact ⟨ks, Except.bind_eq_ok.mpr ⟨name, hname, hks⟩⟩
    | thenBy key direction =>
      obtain ⟨name, hname⟩ := hop
      obtain ⟨ks, hks⟩ := ih hops (keys ++ [(name, direction)])
      exact ⟨ks, Except.bind_eq_ok.mpr ⟨name, hname, hks⟩⟩
    | _ => exact ih hops keys

theorem Predicate.isCondition_foldl_and {p : Predicate} {ps : List Predicate}
    (hp : p.isCondition) (hps : ∀ q ∈ ps, q.isCondition) : (ps.foldl and p).isCondition := by
  induction ps generalizing p with
  | nil => exact hp
  | cons q ps ih =>
    rw [List.forall_mem_cons] at hps
    exact ih (Bool.and_eq_true_iff.mpr ⟨hp, hps.1⟩) hps.2

theorem Predicate.exists_emitAll {ps : List Predicate} (h : ∀ p ∈ ps, p.isCondition) :
    ∃ ts, emitAll ps = .write ts := by
  cases ps with
  | nil => exact ⟨[], rfl⟩
  | cons p ps =>
    rw [List.forall_mem_cons] at h
    exact Emission.failure_eq_none.mp (failure_emit.mpr (isCondition_foldl_and h.1 h.2))

/-- A checked query that ends with a condition has a statement. -/
theorem Query.IsChecked.exists_toStatement {q : Query} (hq : q.IsChecked) {t : Terminal}
    (ht : ∀ p, t.predicate? = some p → p.isCondition) (d : Dialect) :
    ∃ s, (q.terminate t).toStatement d = .ok s := by
  have hsplit : (q.terminate t).split = .ok (q.operators, t) := by
    rw [Query.split_eq_ok]
    refine ⟨fun op hop hterminal ↦ ?_, .inl rfl⟩
    have hchecked := hq op hop
    cases op with
    | terminal t => exact hchecked
    | _ => cases hterminal
  have hconditions : ∀ p ∈ q.operators.filterMap Operator.filter? ++ t.predicate?.toList,
      p.isCondition := by
    intro p hp
    rcases List.mem_append.mp hp with hp | hp
    · obtain ⟨op, hop, hfilter⟩ := List.mem_filterMap.mp hp
      have hchecked := hq op hop
      cases op with
      | filter p' =>
        cases hfilter
        exact hchecked
      | _ => cases hfilter
    · exact ht p (Option.mem_toList.mp hp)
  obtain ⟨ts, hts⟩ := Predicate.exists_emitAll hconditions
  obtain ⟨ks, hks⟩ := exists_orderKeysFrom hq []
  have hchain : ∃ s, Select.ofChain d q.source q.operators t = .ok s := by
    have htokens := Emission.toExcept_eq_ok.mpr hts
    by_cases hcount : t.isCount
    · exact ⟨_, Except.bind_eq_ok.mpr ⟨ts, htokens, if_pos hcount⟩⟩
    · exact ⟨_, Except.bind_eq_ok.mpr ⟨ts, htokens,
        (if_neg hcount).trans (Except.bind_eq_ok.mpr ⟨ks, hks, rfl⟩)⟩⟩
  obtain ⟨s, hs⟩ := hchain
  exact ⟨_, Except.bind_eq_ok.mpr ⟨s, Except.bind_eq_ok.mpr ⟨_, hsplit, hs⟩, rfl⟩⟩

theorem Statement.checkFields_eq_ok {fields : List (String × Value)}
    (h : ∀ e ∈ fields, Text.allBlank e.1 = false) : checkFields fields = .ok () := by
  induction fields with
  | nil => rfl
  | cons e fields ih =>
    rw [List.forall_mem_cons] at h
    exact Except.bind_eq_ok.mpr ⟨(), checkName_eq_ok.mpr h.1, ih h.2⟩

/-- **What was validated can be translated.** Every sequence of calls on a query, with filters and a
terminal that were built, ends in a statement; and so do a deletion from a named source and an
update of named fields of a named target, with a condition that was built. -/
theorem translate_built (d : Dialect) :
    (∀ (source : Source) (cs : List Query.Call) (t : Terminal),
      (∀ p, .filter p ∈ cs → p.Built) → (∀ p, t.predicate? = some p → p.Built) →
      ∃ s, ((Query.afterCalls ⟨source, []⟩ cs).terminate t).toStatement d = .ok s) ∧
    (∀ (source : String) (p : Predicate), Text.allBlank source = false → p.Built →
      ∃ s, Statement.delete source (some p) d = .ok s) ∧
    (∀ (target : String) (fields : List (String × Value)) (p : Predicate),
      Text.allBlank target = false → fields ≠ [] → (∀ e ∈ fields, Text.allBlank e.1 = false) →
      p.Built → ∃ s, Statement.update target fields (some p) d = .ok s) ∧
    ∀ (bound : List Value) (p : Predicate), p.Built →
      ∃ text store, Predicate.toCondition d bound [p] = (.ok text, store) := by
  have hwritten : ∀ p : Predicate, p.Built → ∃ ts, Predicate.emitAll [p] = .write ts := by
    intro p hp
    exact Predicate.exists_emitAll (List.forall_mem_singleton.mpr hp.isCondition)
  refine ⟨fun source cs t hcs ht ↦ ?_, fun source p hsource hp ↦ ?_,
    fun target fields p htarget hne hfields hp ↦ ?_, fun bound p hp ↦ ?_⟩
  · have hempty : Query.IsChecked ⟨source, []⟩ := fun op hop ↦ absurd hop List.not_mem_nil
    refine Query.IsChecked.exists_toStatement (hempty.afterCalls fun c hc ↦ ?_)
      (fun p hp ↦ (ht p hp).isCondition) d
    cases c with
    | filter p => exact (hcs p hc).isCondition
    | _ => trivial
  · obtain ⟨ts, hts⟩ := hwritten p hp
    exact ⟨_, Statement.delete_eq_ok.mpr ⟨checkName_eq_ok.mpr hsource, ts, hts, rfl⟩⟩
  · obtain ⟨ts, hts⟩ := hwritten p hp
    exact ⟨_, Statement.update_eq_ok.mpr ⟨checkName_eq_ok.mpr htarget, hne,
      Statement.checkFields_eq_ok hfields, ts, hts, rfl⟩⟩
  · obtain ⟨ts, hts⟩ := hwritten p hp
    exact ⟨_, _, Predicate.toCondition_of_emitAll bound hts⟩

/-- Two of the calls fail, the order by a constant and the one that skips nothing. The condition is
the negation of a combination. -/
theorem translate_built_page :
    let p : Predicate := .not (.or (.not (.inSet "A" [.int32 1, .null]))
      (.compare .gt (.member "B") (.literal (.int64 7))))
    let cs : List Query.Call := [.filter p, .orderByKey (.literal .null) .asc, .thenBy "B", .skip 0,
      .take 5]
    p.Built ∧
    (∃ s, ((Query.afterCalls ⟨.table "T", []⟩ cs).terminate (.first (some p))).toStatement
      .sqlServer = .ok s) ∧
    (∃ s, Statement.delete "T" (some p) .sqlServer = .ok s) ∧
    (∃ s, Statement.update "T" [("B", .null)] (some p) .sqlServer = .ok s) ∧
    ∃ text store, Predicate.toCondition .sqlServer [.null] [p] = (.ok text, store) := by
  intro p cs
  let set : Predicate := .not (.inSet "A" [.int32 1, .null])
  let greater : Predicate := .compare .gt (.member "B") (.literal (.int64 7))
  have hset : set.Built := by
    have hcall : Predicate.isNotIn "A" [.int32 1, .null] = .ok set := by decide +kernel
    exact .isNotIn hcall
  have hgreater : greater.Built := by
    have hcall : Predicate.greaterThan "B" (.int64 7) = .ok greater := by decide +kernel
    exact .greaterThan hcall
  have hp : p.Built := by
    have hcall : Predicate.anyOf [some set, some greater] = .ok (.or set greater) := rfl
    refine .not (.anyOf (fun q hq ↦ ?_) hcall)
    rcases List.mem_cons.mp hq with hq | hq
    · cases hq
      exact hset
    · cases List.mem_singleton.mp hq
      exact hgreater
  have htranslate := translate_built .sqlServer
  refine ⟨hp, htranslate.1 _ cs _ (fun q hq ↦ ?_) (fun q hq ↦ ?_),
    htranslate.2.1 _ _ (by decide) hp,
    htranslate.2.2.1 _ _ _ (by decide) (by decide) (by decide) hp, htranslate.2.2.2 _ _ hp⟩
  · rcases List.mem_cons.mp hq with hq | hq
    · cases hq
      exact hp
    · simp at hq
  · cases hq
    exact hp

end QueryChain
