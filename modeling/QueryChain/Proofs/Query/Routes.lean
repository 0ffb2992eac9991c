import QueryChain.Proofs.Execution.Stages
import QueryChain.Proofs.Predicate.Membership
import QueryChain.Proofs.Query.Concerns
import QueryChain.Proofs.Query.Page
import QueryChain.Proofs.Statement.Filtering

/-!
# Three routes of a condition

A condition can be a filter of the chain, it can come with the terminal, and it can be a part of a
conjunction that was built before. The filters and the condition of the terminal are collected into
one list, and the list is written as the conjunction that the builder makes of it. So a statement
knows of its conditions only the conjunction of that list, and the routes by which they came are
forgotten. What is done with the answer afterwards reads the page and the source, which no condition
touches.
-/

namespace QueryChain

/-! ## Chains with one conjunction -/

theorem Terminal.unfiltered_unfiltered (t : Terminal) : t.unfiltered.unfiltered = t.unfiltered := by
  cases t <;> rfl

/-- Two chains that differ in their conditions only, and have one conjunction. -/
theorem Select.ofChain_of_conjunction {body body' : List Operator} {t t' : Terminal}
    (hrest : body.filterMap Operator.unfiltered? = body'.filterMap Operator.unfiltered?)
    (hending : t.unfiltered = t'.unfiltered)
    (hconditions : Predicate.conjunction? (body.filterMap Operator.filter? ++ t.predicate?.toList) =
      Predicate.conjunction? (body'.filterMap Operator.filter? ++ t'.predicate?.toList))
    (d : Dialect) (source : Source) : ofChain d source body t = ofChain d source body' t' := by
  have hpage : Page.ofOperators body = Page.ofOperators body' := by
    rw [← Page.ofOperators_unfiltered, hrest, Page.ofOperators_unfiltered]
  have hfields : selectedFields body = selectedFields body' := by
    rw [← selectedFields_unfiltered, hrest, selectedFields_unfiltered]
  have hkeys : orderKeys body = orderKeys body' := by
    rw [← orderKeys_unfiltered, hrest, orderKeys_unfiltered]
  have hcount : t.isCount = t'.isCount := by
    rw [← t.isCount_unfiltered, hending, t'.isCount_unfiltered]
  have hfirst : t.isFirst = t'.isFirst := by
    rw [← t.isFirst_unfiltered, hending, t'.isFirst_unfiltered]
  rw [ofChain, ofChain, Predicate.emitAll, hconditions, ← Predicate.emitAll, hcount, hfirst, hpage,
    hfields, hkeys]

namespace Query

variable {q : Query} {t t' : Terminal}

/-! ## Filters behind a chain -/

theorem operators_foldl_filter (q : Query) (ps : List Predicate) :
    (ps.foldl filter q).operators = q.operators ++ ps.map .filter := by
  induction ps generalizing q with
  | nil => exact (List.append_nil _).symm
  | cons p ps ih =>
    rw [List.foldl_cons, ih, filter, operators_append, List.append_assoc]
    rfl

theorem source_foldl_filter (q : Query) (ps : List Predicate) :
    (ps.foldl filter q).source = q.source := by
  induction ps generalizing q with
  | nil => rfl
  | cons p ps ih => exact ih (q.filter p)

theorem conditions_foldl_filter (q : Query) (ps : List Predicate) :
    (ps.foldl filter q).operators.filterMap Operator.filter? =
      q.operators.filterMap Operator.filter? ++ ps := by
  rw [operators_foldl_filter, List.filterMap_append, List.filterMap_map]
  congr 1
  exact List.filterMap_some

theorem unfiltered_foldl_filter (q : Query) (ps : List Predicate) :
    (ps.foldl filter q).operators.filterMap Operator.unfiltered? =
      q.operators.filterMap Operator.unfiltered? := by
  have hnone : (ps.map Operator.filter).filterMap Operator.unfiltered? = [] := by
    rw [List.filterMap_eq_nil_iff, List.forall_mem_map]
    exact fun p _ ↦ rfl
  rw [operators_foldl_filter, List.filterMap_append, hnone, List.append_nil]

theorem find?_isTerminal_foldl_filter (q : Query) (ps : List Predicate) :
    (ps.foldl filter q).operators.find? Operator.isTerminal =
      q.operators.find? Operator.isTerminal := by
  have hnone : (ps.map Operator.filter).find? Operator.isTerminal = none := by
    rw [List.find?_eq_none, List.forall_mem_map]
    exact fun p _ ↦ Bool.false_ne_true
  rw [operators_foldl_filter, List.find?_append, hnone, Option.or_none]

/-- The conditions behind a chain count only by the conjunction of all. A terminal in the chain is
the same error on both sides. -/
theorem toStatement_of_conjunction (ps ps' : List Predicate)
    (hending : t.unfiltered = t'.unfiltered)
    (hconditions :
      Predicate.conjunction? (q.operators.filterMap Operator.filter? ++ ps ++ t.predicate?.toList) =
      Predicate.conjunction?
        (q.operators.filterMap Operator.filter? ++ ps' ++ t'.predicate?.toList))
    (d : Dialect) :
    ((ps.foldl filter q).terminate t).toStatement d =
      ((ps'.foldl filter q).terminate t').toStatement d := by
  have hrest : (ps.foldl filter q).operators.filterMap Operator.unfiltered? =
      (ps'.foldl filter q).operators.filterMap Operator.unfiltered? := by
    rw [unfiltered_foldl_filter, unfiltered_foldl_filter]
  rw [← conditions_foldl_filter q ps, ← conditions_foldl_filter q ps'] at hconditions
  have hchain := Select.ofChain_of_conjunction hrest hending hconditions d q.source
  have hselect : ((ps.foldl filter q).terminate t).select d =
      ((ps'.foldl filter q).terminate t').select d := by
    rw [select, select, split_terminate, split_terminate, find?_isTerminal_foldl_filter,
      find?_isTerminal_foldl_filter, terminate, terminate, source_append, source_append,
      source_foldl_filter, source_foldl_filter]
    rcases q.operators.find? Operator.isTerminal with _ | op
    · exact hchain
    · rfl
  rw [toStatement, hselect, toStatement]

/-! ## The routes -/

/-- The condition of a terminal is one more filter. -/
theorem toStatement_of_predicate {p : Predicate} (h : t.predicate? = some p) (d : Dialect) :
    (q.terminate t).toStatement d = ((q.filter p).terminate t.unfiltered).toStatement d := by
  refine toStatement_of_conjunction [] [p] t.unfiltered_unfiltered.symm ?_ d
  rw [h, t.predicate?_unfiltered, List.append_nil]
  exact congrArg _ (List.append_nil _).symm

/-- Filters behind a chain without filters are the conjunction that is built of them. -/
theorem toStatement_of_allOf (hq : ∀ op ∈ q.operators, op.filter? = none) (p : Predicate)
    (ps : List Predicate) (t : Terminal) (d : Dialect) :
    (((p :: ps).foldl filter q).terminate t).toStatement d =
      ((q.filter (ps.foldl .and p)).terminate t).toStatement d := by
  refine toStatement_of_conjunction (p :: ps) [ps.foldl .and p] rfl ?_ d
  rw [List.filterMap_eq_nil_iff.mpr hq]
  exact congrArg some List.foldl_append

theorem adjustedCount_filter (q : Query) (p : Predicate) :
    (q.filter p).adjustedCount = q.adjustedCount := by
  have hpage : Page.ofQuery (q.filter p) = Page.ofQuery q := page_append q (.filter p)
  funext total
  rw [adjustedCount, hpage, adjustedCount]

/-- **It does not matter by which route a condition comes.** A terminal with a condition has the
statement, or the error, of the filtered query with the bare terminal; and the operations, blocking
or asynchronous, do the same with every database and give the same answer. Filters that are put one
after another behind a query without filters have the statement of the one filter by their
conjunction, for every terminal. -/
theorem condition_routes (q : Query) :
    (∀ t p, t.predicate? = some p → ∀ d, (q.terminate t).toStatement d =
      ((q.filter p).terminate t.unfiltered).toStatement d) ∧
    (∀ (σ γ : Type) (ctx : Context σ γ) p,
      ctx.count q (some p) = ctx.count (q.filter p) none ∧
      ctx.first q (some p) = ctx.first (q.filter p) none ∧
      ctx.firstOrDefault q (some p) = ctx.firstOrDefault (q.filter p) none ∧
      ctx.countAsync q (some p) = ctx.countAsync (q.filter p) none ∧
      ctx.firstAsync q (some p) = ctx.firstAsync (q.filter p) none ∧
      ctx.firstOrDefaultAsync q (some p) = ctx.firstOrDefaultAsync (q.filter p) none) ∧
    ((∀ op ∈ q.operators, op.filter? = none) → ∀ p ps, ∃ c,
      Predicate.allOf ((p :: ps).map some) = .ok c ∧ ∀ t d,
        (((p :: ps).foldl filter q).terminate t).toStatement d =
          ((q.filter c).terminate t).toStatement d) := by
  refine ⟨fun t p h d ↦ toStatement_of_predicate h d, ?_, ?_⟩
  · intro σ γ ctx p
    have hstatement {t : Terminal} (h : t.predicate? = some p) :
        ctx.statementFor q t = ctx.statementFor (q.filter p) t.unfiltered :=
      toStatement_of_predicate h ctx.dialect
    have hcount : ctx.count q (some p) = ctx.count (q.filter p) none := by
      rw [Context.count, hstatement rfl, Context.count, adjustedCount_filter]
      rfl
    refine ⟨hcount, ?_, ?_, ?_, ?_, ?_⟩
    · rw [Context.first, hstatement rfl]
      rfl
    · rw [Context.firstOrDefault, hstatement rfl]
      rfl
    · rw [ctx.countAsync_eq, hcount, ctx.countAsync_eq]
    · rw [Context.firstAsync, hstatement rfl]
      rfl
    · rw [Context.firstOrDefaultAsync, hstatement rfl]
      rfl
  · intro hq p ps
    exact ⟨ps.foldl .and p, Predicate.combineFrom_map_some .and p 1 ps,
      toStatement_of_allOf hq p ps⟩

/-- A first row with a condition, behind a source that binds a value of its own, and behind two
filters as well. -/
theorem condition_routes_first :
    let adult : Predicate := .compare .ge (.member "Age") (.literal (.int32 18))
    let named : Predicate := .like .contains "Name" "a"
    let active : Predicate := .boolEquals "Active" (some true)
    let q : Query := ⟨.function "F" [.int32 1], [.orderBy (.member "A") .desc, .skip 2]⟩
    let t : Terminal := .first (some active)
    let s : Statement := ⟨"SELECT * FROM F($1) WHERE Active = $2 " ++
        "ORDER BY A DESC OFFSET 2 ROWS FETCH NEXT 1 ROW ONLY",
      [⟨"@param0", .int32 1⟩, ⟨"@param1", .bool true⟩]⟩
    let s' : Statement := ⟨"SELECT * FROM F($1) WHERE ((Age >= $2 AND Name LIKE $3) AND " ++
        "Active = $4) ORDER BY A DESC OFFSET 2 ROWS FETCH NEXT 1 ROW ONLY",
      [⟨"@param0", .int32 1⟩, ⟨"@param1", .int32 18⟩, ⟨"@param2", .string "%a%"⟩,
        ⟨"@param3", .bool true⟩]⟩
    t.predicate? = some active ∧ (∀ op ∈ q.operators, op.filter? = none) ∧
      (q.terminate t).toStatement .postgres = .ok s ∧
      ((q.filter active).terminate (.first none)).toStatement .postgres = .ok s ∧
      (((q.filter adult).filter named).terminate t).toStatement .postgres = .ok s' ∧
      ∃ c, Predicate.allOf [some adult, some named] = .ok c ∧
        ((q.filter c).terminate t).toStatement .postgres = .ok s' := by
  intro adult named active q t s s'
  obtain ⟨hending, -, hfilters⟩ := condition_routes q
  have hpredicate : t.predicate? = some active := rfl
  have hbare : ∀ op ∈ q.operators, op.filter? = none := by decide
  have hs : (q.terminate t).toStatement .postgres = .ok s := by decide +kernel
  have hs' : (((q.filter adult).filter named).terminate t).toStatement .postgres = .ok s' := by
    decide +kernel
  obtain ⟨c, hc, hstatement⟩ := hfilters hbare adult [named]
  exact ⟨hpredicate, hbare, hs, (hending t active hpredicate .postgres).symm.trans hs, hs', c, hc,
    (hstatement t .postgres).symm.trans hs'⟩

end Query

end QueryChain
