import QueryChain.Proofs.Execution.Usage
import QueryChain.Proofs.Statement.Limits

/-!
# One page, asked for in three ways

The rows of a query can be listed, the first of them can be asked for, and they can be counted. The
page of the query reaches the answer in a different way each time: a list asks the database for the
page, a first row is one row of it by `TOP` or by `FETCH`, and the number of all rows is corrected
by arithmetic once it is known. That the three agree needs one fact of the builders, which is that
a page never keeps no row at all.
-/

namespace QueryChain

/-! ## Queries of builders -/

/-- What every builder makes sure of: the query has not ended, a key is a member, and a row is
kept. -/
def Operator.IsBuilt : Operator → Prop
  | filter _ | skip _ | selectOnly _ => True
  | orderBy key _ | thenBy key _ => ∃ name, keyName key = .ok name
  | take n => 0 < n
  | terminal _ => False

theorem Operator.IsBuilt.not_isTerminal {op : Operator} (h : op.IsBuilt) : ¬op.isTerminal := by
  intro hterminal
  cases op with
  | terminal t => exact h
  | _ => cases hterminal

namespace Query

variable {q q' : Query}

theorem positive_eq_ok {count : Int64} {n : UInt64} (h : positive count = .ok n) : 0 < n := by
  rw [positive] at h
  by_cases hcount : count < 1
  · rw [if_pos hcount] at h
    cases h
  · rw [if_neg hcount] at h
    cases h
    rw [Int64.lt_iff_toInt_lt] at hcount
    have hone : (1 : Int64).toInt = 1 := rfl
    have hle : (0 : Int64) ≤ count := by
      rw [Int64.le_iff_toInt_le, Int64.toInt_zero]
      omega
    have hnat : count.toUInt64.toNat = count.toInt.toNat := Int64.toNat_toUInt64_of_le hle
    rw [UInt64.lt_iff_toNat_lt, hnat, UInt64.toNat_zero]
    omega

theorem Call.run_eq_ok {c : Call} (h : c.run q = .ok q') :
    ∃ op : Operator, op.IsBuilt ∧ q' = q.append op := by
  have hkeyed {key : Predicate} {op : Operator}
      (hop : (∃ name, keyName key = .ok name) → op.IsBuilt)
      (h : (checkKey key >>= fun _ ↦ pure (q.append op)) = .ok q') :
      ∃ op : Operator, op.IsBuilt ∧ q' = q.append op := by
    obtain ⟨_, hkey, h⟩ := Except.bind_eq_ok.mp h
    cases h
    exact ⟨op, hop (exists_keyName_of_checkKey hkey), rfl⟩
  cases c with
  | filter p =>
    cases h
    exact ⟨.filter p, trivial, rfl⟩
  | orderByKey | orderBy | orderByDescending | thenByKey | thenBy | thenByDescending =>
    exact hkeyed id h
  | skip count =>
    obtain ⟨n, -, h⟩ := Except.bind_eq_ok.mp h
    cases h
    exact ⟨.skip n, trivial, rfl⟩
  | take count =>
    obtain ⟨n, hn, h⟩ := Except.bind_eq_ok.mp h
    cases h
    exact ⟨.take n, positive_eq_ok hn, rfl⟩
  | selectOnly fields =>
    change q.selectOnly fields = .ok q' at h
    rw [Query.selectOnly] at h
    by_cases hblank : fields.any Text.allBlank
    · rw [if_pos hblank] at h
      cases h
    · by_cases hnone : fields.isEmpty
      · rw [if_neg hblank, if_pos hnone] at h
        cases h
      · rw [if_neg hblank, if_neg hnone] at h
        cases h
        exact ⟨.selectOnly fields, trivial, rfl⟩

/-- Whatever the sequence of calls, every operator of the query came from a builder. -/
theorem isBuilt_of_mem_afterCalls {cs : List Call} (hq : ∀ op ∈ q.operators, op.IsBuilt) :
    ∀ op ∈ (q.afterCalls cs).operators, op.IsBuilt := by
  induction cs generalizing q with
  | nil => exact hq
  | cons c cs ih =>
    refine ih ?_
    rw [afterCall]
    rcases hrun : c.run q with err | q'
    · exact hq
    · obtain ⟨op, hop, rfl⟩ := Call.run_eq_ok hrun
      intro op' hop'
      rcases List.mem_append.mp hop' with hmem | hmem
      · exact hq op' hmem
      · rwa [List.mem_singleton.mp hmem]

theorem select_terminate (hq : ∀ op ∈ q.operators, op.IsBuilt) (t : Terminal) (d : Dialect) :
    (q.terminate t).select d = Select.ofChain d q.source q.operators t := by
  have hsplit : (q.terminate t).split = .ok (q.operators, t) := by
    rw [split_eq_ok]
    exact ⟨fun op hop ↦ (hq op hop).not_isTerminal, .inl rfl⟩
  rw [select, hsplit]
  rfl

theorem exists_orderKeys {ops : List Operator} (h : ∀ op ∈ ops, op.IsBuilt) :
    ∃ ks, orderKeys ops = .ok ks := by
  rw [← orderKeys_unfiltered]
  refine exists_orderKeysFrom ?_ []
  intro op hop
  obtain ⟨op', hmem, hop⟩ := List.mem_filterMap.mp hop
  have hbuilt := h op' hmem
  cases op' with
  | filter p => cases hop
  | orderBy | thenBy =>
    cases hop
    exact hbuilt
  | skip | take | selectOnly =>
    cases hop
    trivial
  | terminal t => exact hbuilt.elim

end Query

theorem Page.take_pos {ops : List Operator} (h : ∀ op ∈ ops, op.IsBuilt) :
    ∀ n, (ofOperators ops).take = some n → 0 < n := by
  have hfold : ∀ page : Page, (∀ n, page.take = some n → 0 < n) →
      ∀ n, (ops.foldl apply page).take = some n → 0 < n := by
    induction ops with
    | nil => exact fun page hpage ↦ hpage
    | cons op ops ih =>
      intro page hpage
      rw [List.forall_mem_cons] at h
      refine ih h.2 _ ?_
      cases op with
      | take m =>
        intro n hn
        rcases htake : page.take with _ | k
        · simp only [apply, htake, Option.some.injEq] at hn
          exact hn ▸ h.1
        · simp only [apply, htake, Option.some.injEq] at hn
          have hmin : min k m = if k ≤ m then k else m := rfl
          rw [hmin] at hn
          by_cases hle : k ≤ m
          · rw [if_pos hle] at hn
            exact hn ▸ hpage k htake
          · rw [if_neg hle] at hn
            exact hn ▸ h.1
      | _ => exact hpage
  exact hfold {} (by simp)

/-- The first row of a page that keeps rows is the first one behind those that are left out. -/
theorem Page.take_one_restrict {ρ : Type} {page : Page} (h : ∀ n, page.take = some n → 0 < n)
    (rows : List ρ) :
    (page.restrict rows).take 1 = (rows.drop (page.skip.getD 0).toNat).take 1 := by
  rw [restrict]
  rcases htake : page.take with _ | n
  · rfl
  · have hpos : 0 < n.toNat := UInt64.lt_iff_toNat_lt.mp (h n htake)
    dsimp only
    rw [List.take_take]
    congr 1
    omega

/-- **List, first row and count agree on the page.** A query of builders has all of its statements
or none of them, and they select from the same rows. Of these rows, a statement for a first row
selects the first one that the statement for a list selects; and if the count is answered with the
number of these rows, it gives the number of those that the statement for a list selects. -/
theorem Context.page_agrees {σ γ ρ : Type} (ctx : Context σ γ) (source : Source)
    (cs : List Query.Call) :
    let q := Query.afterCalls ⟨source, []⟩ cs
    (∀ t, t.predicate? = none →
      (∀ e, ctx.statementFor q t = .error e ↔ ctx.statementFor q .toList = .error e) ∧
      ∀ sel list, (q.terminate t).select ctx.dialect = .ok sel →
        (q.terminate .toList).select ctx.dialect = .ok list →
        sel.source = list.source ∧ sel.condition = list.condition ∧
          (t.isFirst → sel.order.sortKeys = list.order.sortKeys)) ∧
    (∀ t s, ctx.statementFor q t = .ok s → ∃ l, (q.terminate t).HasLimits ctx.dialect l) ∧
    ∀ l, (q.terminate .toList).HasLimits ctx.dialect l → ∀ rows : List ρ,
      (∀ t l', t.isFirst → (q.terminate t).HasLimits ctx.dialect l' →
        l'.restrict rows = (l.restrict rows).take 1) ∧
      ∀ p command s total n s', ctx.statementFor q (.count p) = .ok command →
        ctx.scalarOf command s = (.ok total, s') → total.asInt64? = some n →
        n.toInt = rows.length →
        ∃ m, ctx.count q p s = (.ok m, s') ∧ m.toInt = (l.restrict rows).length := by
  intro q
  have hbuilt : ∀ op ∈ q.operators, op.IsBuilt :=
    Query.isBuilt_of_mem_afterCalls fun op hop ↦ absurd hop List.not_mem_nil
  have hselect := Query.select_terminate hbuilt
  refine ⟨?_, ?_, ?_⟩
  · intro t ht
    have hkeys := Query.exists_orderKeys hbuilt
    refine ⟨?_, ?_⟩
    · intro e
      rw [statementFor, statementFor, Query.toStatement_eq_error, Query.toStatement_eq_error,
        hselect, hselect, Select.ofChain_eq_error hkeys, Select.ofChain_eq_error hkeys, ht]
      rfl
    · intro sel list hsel hlist
      rw [hselect] at hsel hlist
      obtain ⟨hsource, hcondition, horder⟩ := Select.agree_of_ofChain ht hsel hlist
      refine ⟨hsource, hcondition, ?_⟩
      intro hfirst
      exact horder (Select.not_isCount_of_isFirst hfirst) (by decide)
  · intro t s hs
    obtain ⟨sel, hsel, -⟩ := Except.bind_eq_ok.mp hs
    exact ⟨sel.rowLimits, Query.hasLimits_iff.mpr ⟨sel, hsel, rfl⟩⟩
  · intro l hl rows
    obtain ⟨list, hlist, rfl⟩ := Query.hasLimits_iff.mp hl
    rw [hselect] at hlist
    rw [Select.restrict_toList hlist]
    refine ⟨?_, ?_⟩
    · intro t l' ht hl'
      obtain ⟨sel, hsel, rfl⟩ := Query.hasLimits_iff.mp hl'
      rw [hselect] at hsel
      rw [Select.restrict_first ht hsel, Page.take_one_restrict (Page.take_pos hbuilt)]
    · intro p command s total n s' hcommand hanswer htotal hn
      refine ⟨(Page.ofQuery q).adjustCount n, ?_, Page.toInt_adjustCount_length _ hn⟩
      rw [ctx.count_of_ok hcommand hanswer, Query.adjustedCount, htotal]

/-- A window of two rows out of four, asked for without `TOP`; the call that skips nothing is
refused. -/
theorem Context.page_agrees_window :
    let ctx : Context Script Script.Cursor := ⟨Script.backend, .postgres⟩
    let q := Query.afterCalls ⟨.table "T", []⟩ [.skip 1, .take 3, .skip 0, .take 2]
    let listed : Limits := ⟨none, some 1, some 2⟩
    let single : Limits := ⟨none, some 1, some 1⟩
    let s : Script := { replies := [.scalar (.int32 4)] }
    (q.terminate .toList).HasLimits .postgres listed ∧
      (q.terminate (.first none)).HasLimits .postgres single ∧
      single.restrict [1, 2, 3, 4] = (listed.restrict [1, 2, 3, 4]).take 1 ∧
      ∃ m s', ctx.count q none s = (.ok m, s') ∧
        m.toInt = (listed.restrict [1, 2, 3, 4]).length := by
  intro ctx q listed single s
  have hlist : (q.terminate .toList).HasLimits .postgres listed :=
    Query.hasLimits_iff.mpr ⟨_, rfl, rfl⟩
  have hfirst : (q.terminate (.first none)).HasLimits .postgres single :=
    Query.hasLimits_iff.mpr ⟨_, rfl, rfl⟩
  obtain ⟨hone, hcount⟩ := (ctx.page_agrees (.table "T") _).2.2 listed hlist [1, 2, 3, 4]
  obtain ⟨m, hm⟩ := hcount none ⟨"SELECT COUNT(*) FROM T", []⟩ s (.int32 4) 4 _ rfl rfl rfl rfl
  exact ⟨hlist, hfirst, hone (.first none) single rfl hfirst, m, _, hm⟩

end QueryChain
