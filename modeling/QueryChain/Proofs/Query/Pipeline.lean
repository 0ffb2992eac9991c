import QueryChain.Proofs.Execution.Paging

/-!
# Skips and takes in the order of the calls

Calls of `skip` and `take` can be read as a pipeline, in which each call works on the rows that the
calls before it left. A query reads them in another way: it has one page, for which the skips are
summed and the smallest take counts. So the page forgets how skips and takes are mixed, and it is
the pipeline in which the takes come last.

A skip behind a take is where the two readings part. In the pipeline it shortens what the take kept;
on the page it moves the window along. The main statement says exactly when this shows: the rows of
the page are those of the pipeline if they fit into what every take leaves for the skips behind it.
-/

namespace QueryChain

namespace Query

variable {ρ : Type}

/-! ## The pipeline -/

/-- What a call does to the rows that the calls before it left. A call that is refused does
nothing. -/
def Call.onRows : Call → List ρ → List ρ
  | skip count, rows => if count < 1 then rows else rows.drop count.toInt.toNat
  | take count, rows => if count < 1 then rows else rows.take count.toInt.toNat
  | _, rows => rows

/-- The rows that are left when the calls are applied one after another. -/
def pipeline (cs : List Call) (rows : List ρ) : List ρ := cs.foldl (fun rows c ↦ c.onRows rows) rows

/-- How many rows a call skips. -/
def Call.skipped : Call → Nat
  | skip count => count.toInt.toNat
  | _ => 0

/-- How many rows a call keeps at most, if it limits them. -/
def Call.kept? : Call → Option Nat
  | take count => if count < 1 then none else some count.toInt.toNat
  | _ => none

/-- How many rows the calls skip together. -/
def skipped (cs : List Call) : Nat := cs.foldr (fun c n ↦ c.skipped + n) 0

/-- The same calls with the takes behind all others. -/
def takesLast (cs : List Call) : List Call :=
  cs.filter (fun c ↦ c.kept?.isNone) ++ cs.filter fun c ↦ c.kept?.isSome

namespace Call

variable {c : Call} {n : Nat}

theorem toNat_eq_zero_of_lt_one {count : Int64} (h : count < 1) : count.toInt.toNat = 0 := by
  have hlt : count.toInt < (1 : Int64).toInt := Int64.lt_iff_toInt_lt.mp h
  have hone : (1 : Int64).toInt = 1 := rfl
  omega

theorem skipped_of_kept (h : c.kept? = some n) : c.skipped = 0 := by
  cases c with
  | skip count => cases h
  | _ => rfl

theorem onRows_of_kept (h : c.kept? = some n) (rows : List ρ) : c.onRows rows = rows.take n := by
  cases c with
  | take count =>
    rw [kept?] at h
    split at h
    · cases h
    · next hcount =>
      rw [onRows, if_neg hcount, Option.some.inj h]
  | _ => cases h

theorem onRows_of_not_kept (h : c.kept? = none) (rows : List ρ) :
    c.onRows rows = rows.drop c.skipped := by
  cases c with
  | skip count =>
    rw [onRows, skipped]
    split
    · next hcount => rw [toNat_eq_zero_of_lt_one hcount, List.drop_zero]
    · rfl
  | take count =>
    rw [kept?] at h
    split at h
    · next hcount => exact if_pos hcount
    · cases h
  | _ => rfl

end Call

@[simp] theorem pipeline_nil (rows : List ρ) : pipeline [] rows = rows := rfl

@[simp] theorem pipeline_cons (c : Call) (cs : List Call) (rows : List ρ) :
    pipeline (c :: cs) rows = pipeline cs (c.onRows rows) := rfl

theorem pipeline_append (as bs : List Call) (rows : List ρ) :
    pipeline (as ++ bs) rows = pipeline bs (pipeline as rows) := List.foldl_append

@[simp] theorem skipped_nil : skipped [] = 0 := rfl

@[simp] theorem skipped_cons (c : Call) (cs : List Call) :
    skipped (c :: cs) = c.skipped + skipped cs := rfl

/-! ## How much is left -/

/-- Of two beginnings of the same rows that are equally long, one is the other. -/
theorem eq_of_isPrefix {as bs rows : List ρ} (has : as <+: rows) (hbs : bs <+: rows)
    (h : as.length = bs.length) : as = bs :=
  List.IsPrefix.eq_of_length (List.prefix_of_prefix_length_le has hbs h.le) h

/-- What is left is the beginning of the rows behind all that are skipped. -/
theorem isPrefix_pipeline (cs : List Call) (rows : List ρ) :
    pipeline cs rows <+: rows.drop (skipped cs) := by
  induction cs generalizing rows with
  | nil => exact List.prefix_rfl
  | cons c cs ih =>
    rw [pipeline_cons, skipped_cons]
    rcases hkept : c.kept? with _ | n
    · rw [Call.onRows_of_not_kept hkept, ← List.drop_drop]
      exact ih _
    · rw [Call.onRows_of_kept hkept, Call.skipped_of_kept hkept, Nat.zero_add]
      have hdrop : (rows.take n).drop (skipped cs) <+: rows.drop (skipped cs) := by
        rw [List.drop_take]
        exact List.take_prefix _ _
      exact (ih _).trans hdrop

/-- So many rows are left as the rows reach behind all that are skipped, and as every take reaches
behind those that are skipped after it. -/
theorem le_length_pipeline {k : Nat} (hk : 0 < k) (cs : List Call) (rows : List ρ) :
    k ≤ (pipeline cs rows).length ↔ k + skipped cs ≤ rows.length ∧
      ∀ c bs n, c :: bs <:+ cs → c.kept? = some n → k + skipped bs ≤ n := by
  induction cs generalizing rows with
  | nil => simp
  | cons c cs ih =>
    rw [pipeline_cons, ih, skipped_cons]
    rcases hkept : c.kept? with _ | m
    · -- a call that keeps all rows is not the one at the head of a suffix
      have hsuffix : ∀ c' bs n, c'.kept? = some n → (c' :: bs <:+ c :: cs ↔ c' :: bs <:+ cs) := by
        intro c' bs n hn
        rw [List.suffix_cons_iff, or_iff_right]
        intro heq
        rw [(List.cons.inj heq).1, hkept] at hn
        cases hn
      rw [Call.onRows_of_not_kept hkept, List.length_drop]
      constructor
      · rintro ⟨hlength, htakes⟩
        refine ⟨by omega, ?_⟩
        intro c' bs n hbs hn
        exact htakes c' bs n ((hsuffix c' bs n hn).mp hbs) hn
      · rintro ⟨hlength, htakes⟩
        refine ⟨by omega, ?_⟩
        intro c' bs n hbs hn
        exact htakes c' bs n ((hsuffix c' bs n hn).mpr hbs) hn
    · rw [Call.onRows_of_kept hkept, Call.skipped_of_kept hkept, Nat.zero_add, List.length_take]
      constructor
      · rintro ⟨hlength, htakes⟩
        refine ⟨by omega, ?_⟩
        intro c' bs n hbs hn
        rcases List.suffix_cons_iff.mp hbs with heq | hbs
        · obtain ⟨rfl, rfl⟩ := List.cons.inj heq
          rw [hkept, Option.some.injEq] at hn
          omega
        · exact htakes c' bs n hbs hn
      · rintro ⟨hlength, htakes⟩
        have hhead := htakes c cs m List.suffix_rfl hkept
        refine ⟨by omega, ?_⟩
        intro c' bs n hbs hn
        exact htakes c' bs n (List.suffix_cons_iff.mpr (.inr hbs)) hn

/-! ## The page of a sequence of calls -/

theorem lt_one_of_positive {count : Int64} {err : Error} (h : positive count = .error err) :
    count < 1 := by
  rw [positive] at h
  by_contra hcount
  rw [if_neg hcount] at h
  cases h

theorem toNat_of_positive {count : Int64} {n : UInt64} (h : positive count = .ok n) :
    n.toNat = count.toInt.toNat ∧ ¬count < 1 := by
  rw [positive] at h
  by_cases hcount : count < 1
  · rw [if_pos hcount] at h
    cases h
  · rw [if_neg hcount] at h
    cases h
    refine ⟨Int64.toNat_toUInt64_of_le ?_, hcount⟩
    rw [Int64.lt_iff_toInt_lt] at hcount
    have hone : (1 : Int64).toInt = 1 := rfl
    rw [Int64.le_iff_toInt_le, Int64.toInt_zero]
    omega

/-- What a call does to the page: nothing, or it adds a skip, or it adds a take. -/
theorem page_afterCall (q : Query) (c : Call) :
    (Page.ofQuery (q.afterCall c) = Page.ofQuery q ∧ c.skipped = 0 ∧ c.kept? = none) ∨
    (∃ n, Page.ofQuery (q.afterCall c) = (Page.ofQuery q).apply (.skip n) ∧
      c.skipped = n.toNat ∧ c.kept? = none) ∨
    ∃ n, Page.ofQuery (q.afterCall c) = (Page.ofQuery q).apply (.take n) ∧
      c.skipped = 0 ∧ c.kept? = some n.toNat := by
  have hkeyed {key : Predicate} {op : Operator} (hop : (Page.ofQuery q).apply op = Page.ofQuery q)
      (hrun : c.run q = checkKey key >>= fun _ ↦ pure (q.append op)) :
      Page.ofQuery (q.afterCall c) = Page.ofQuery q := by
    rw [afterCall, hrun]
    rcases checkKey key with err | _
    · rfl
    · exact (page_append q op).trans hop
  cases c with
  | filter p => exact .inl ⟨page_append q (.filter p), rfl, rfl⟩
  | orderByKey | orderBy | orderByDescending | thenByKey | thenBy | thenByDescending =>
    exact .inl ⟨hkeyed rfl rfl, rfl, rfl⟩
  | skip count =>
    rw [afterCall, Call.run, skip]
    rcases hpositive : positive count with err | n
    · have hcount := lt_one_of_positive hpositive
      exact .inl ⟨rfl, Call.toNat_eq_zero_of_lt_one hcount, rfl⟩
    · exact .inr (.inl ⟨n, page_append q (.skip n), (toNat_of_positive hpositive).1.symm, rfl⟩)
  | take count =>
    rw [afterCall, Call.run, take, Call.kept?]
    rcases hpositive : positive count with err | n
    · exact .inl ⟨rfl, rfl, if_pos (lt_one_of_positive hpositive)⟩
    · obtain ⟨hn, hcount⟩ := toNat_of_positive hpositive
      rw [if_neg hcount, ← hn]
      exact .inr (.inr ⟨n, page_append q (.take n), rfl, rfl⟩)
  | selectOnly fields =>
    refine .inl ⟨?_, rfl, rfl⟩
    rw [afterCall, Call.run, selectOnly]
    by_cases hblank : fields.any Text.allBlank
    · rw [if_pos hblank]
    · by_cases hnone : fields.isEmpty
      · rw [if_neg hblank, if_pos hnone]
      · rw [if_neg hblank, if_neg hnone]
        exact page_append q (.selectOnly fields)

/-- The skips are summed; the sum stops at the largest 64-bit number. -/
theorem skip_afterCalls (q : Query) (cs : List Call) :
    ((Page.ofQuery (q.afterCalls cs)).skip.getD 0).toNat =
      min (((Page.ofQuery q).skip.getD 0).toNat + skipped cs) (UInt64.size - 1) := by
  induction cs generalizing q with
  | nil =>
    have hlt := ((Page.ofQuery q).skip.getD 0).toNat_lt_size
    rw [afterCalls, List.foldl_nil, skipped_nil]
    omega
  | cons c cs ih =>
    have hstep : ((Page.ofQuery (q.afterCall c)).skip.getD 0).toNat =
        min (((Page.ofQuery q).skip.getD 0).toNat + c.skipped) (UInt64.size - 1) := by
      have hlt := ((Page.ofQuery q).skip.getD 0).toNat_lt_size
      rcases page_afterCall q c with ⟨hpage, hskipped, -⟩ | ⟨n, hpage, hskipped, -⟩ |
        ⟨n, hpage, hskipped, -⟩
      · rw [hpage, hskipped]
        omega
      · rw [hpage, hskipped]
        exact toNat_saturatingAdd _ n
      · rw [hpage, hskipped, Page.apply]
        dsimp only
        omega
    have hrest := ih (q.afterCall c)
    rw [hstep] at hrest
    rw [afterCalls, List.foldl_cons, skipped_cons]
    exact hrest.trans (by omega)

end Query

/-- So many rows fit on the page. -/
def Page.Fits (page : Page) (k : Nat) : Prop := ∀ n, page.take = some n → k ≤ n.toNat

theorem Page.fits_apply_take {page : Page} {n : UInt64} {k : Nat} :
    (page.apply (.take n)).Fits k ↔ page.Fits k ∧ k ≤ n.toNat := by
  rcases htake : page.take with _ | m
  · simp [Fits, apply, htake]
  · simp only [Fits, apply, htake, UInt64.toNat_min, Option.some.injEq, forall_eq', Nat.le_min]

namespace Query

variable {ρ : Type}

/-- The smallest take counts. -/
theorem fits_afterCalls (q : Query) (cs : List Call) (k : Nat) :
    (Page.ofQuery (q.afterCalls cs)).Fits k ↔
      (Page.ofQuery q).Fits k ∧ ∀ c ∈ cs, ∀ n, c.kept? = some n → k ≤ n := by
  induction cs generalizing q with
  | nil => simp [afterCalls]
  | cons c cs ih =>
    have hstep : (Page.ofQuery (q.afterCall c)).Fits k ↔
        (Page.ofQuery q).Fits k ∧ ∀ n, c.kept? = some n → k ≤ n := by
      rcases page_afterCall q c with ⟨hpage, -, hkept⟩ | ⟨n, hpage, -, hkept⟩ | ⟨n, hpage, -, hkept⟩
      · simp [hpage, hkept]
      · rw [hpage, hkept]
        simp [Page.Fits, Page.apply]
      · rw [hpage, hkept, Page.fits_apply_take]
        simp
    rw [afterCalls, List.foldl_cons, ← afterCalls, ih, hstep, List.forall_mem_cons, and_assoc]

/-! ## The page as a pipeline -/

/-- Without takes, the calls only skip. -/
theorem pipeline_filter_isNone (cs : List Call) (rows : List ρ) :
    pipeline (cs.filter fun c ↦ c.kept?.isNone) rows = rows.drop (skipped cs) := by
  induction cs generalizing rows with
  | nil => rfl
  | cons c cs ih =>
    rw [skipped_cons, ← List.drop_drop]
    rcases hkept : c.kept? with _ | n
    · rw [List.filter_cons_of_pos (by rw [hkept]; rfl), pipeline_cons,
        Call.onRows_of_not_kept hkept, ih]
    · rw [List.filter_cons_of_neg (by rw [hkept]; simp), Call.skipped_of_kept hkept,
        List.drop_zero, ih]

/-- Without skips, the smallest take counts. -/
theorem le_length_pipeline_filter_isSome {k : Nat} (cs : List Call) (rows : List ρ) :
    k ≤ (pipeline (cs.filter fun c ↦ c.kept?.isSome) rows).length ↔
      k ≤ rows.length ∧ ∀ c ∈ cs, ∀ n, c.kept? = some n → k ≤ n := by
  induction cs generalizing rows with
  | nil => simp
  | cons c cs ih =>
    rcases hkept : c.kept? with _ | n
    · rw [List.filter_cons_of_neg (by rw [hkept]; simp), ih]
      simp [hkept]
    · rw [List.filter_cons_of_pos (by rw [hkept]; rfl), pipeline_cons,
        Call.onRows_of_kept hkept, ih, List.length_take, List.forall_mem_cons, hkept]
      simp only [Option.some.injEq, forall_eq', Nat.le_min]
      tauto

theorem pipeline_takesLast (cs : List Call) (rows : List ρ) : pipeline (takesLast cs) rows =
    pipeline (cs.filter fun c ↦ c.kept?.isSome) (rows.drop (skipped cs)) := by
  rw [takesLast, pipeline_append, pipeline_filter_isNone]

theorem skipped_filter_isSome (cs : List Call) :
    skipped (cs.filter fun c ↦ c.kept?.isSome) = 0 := by
  induction cs with
  | nil => rfl
  | cons c cs ih =>
    rcases hkept : c.kept? with _ | n
    · rw [List.filter_cons_of_neg (by rw [hkept]; simp), ih]
    · rw [List.filter_cons_of_pos (by rw [hkept]; rfl), skipped_cons, ih,
        Call.skipped_of_kept hkept]

theorem isPrefix_pipeline_takesLast (cs : List Call) (rows : List ρ) :
    pipeline (takesLast cs) rows <+: rows.drop (skipped cs) := by
  have hprefix := isPrefix_pipeline (cs.filter fun c ↦ c.kept?.isSome) (rows.drop (skipped cs))
  rwa [skipped_filter_isSome, List.drop_zero, ← pipeline_takesLast] at hprefix

theorem le_length_pipeline_takesLast {k : Nat} (cs : List Call) (rows : List ρ) :
    k ≤ (pipeline (takesLast cs) rows).length ↔
      k ≤ rows.length - skipped cs ∧ ∀ c ∈ cs, ∀ n, c.kept? = some n → k ≤ n := by
  rw [pipeline_takesLast, le_length_pipeline_filter_isSome, List.length_drop]

/-- Whatever stands behind a take can only shorten the rows. -/
theorem length_pipeline_le (cs : List Call) (rows : List ρ) :
    (pipeline cs rows).length ≤ (pipeline (takesLast cs) rows).length := by
  by_cases hpos : 0 < (pipeline cs rows).length
  · obtain ⟨hlength, htakes⟩ := (le_length_pipeline hpos cs rows).mp le_rfl
    refine (le_length_pipeline_takesLast cs rows).mpr ⟨by omega, ?_⟩
    intro c hc n hn
    obtain ⟨as, bs, rfl⟩ := List.append_of_mem hc
    have hkept := htakes c bs n (List.suffix_append as _) hn
    omega
  · omega

/-- The order of the calls does not show if what is left fits into every take, behind the rows that
are skipped after it. -/
theorem pipeline_takesLast_eq_iff (cs : List Call) (rows : List ρ) :
    pipeline (takesLast cs) rows = pipeline cs rows ↔
      ∀ c bs n, c :: bs <:+ cs → c.kept? = some n →
        (pipeline (takesLast cs) rows).length ≤ n - skipped bs := by
  have hle := length_pipeline_le cs rows
  by_cases hpos : 0 < (pipeline (takesLast cs) rows).length
  · have hlength := ((le_length_pipeline_takesLast cs rows).mp le_rfl).1
    constructor
    · intro heq c bs n hbs hn
      have hfits := ((le_length_pipeline hpos cs rows).mp (heq ▸ le_rfl)).2 c bs n hbs hn
      omega
    · intro hfits
      have hreach : (pipeline (takesLast cs) rows).length ≤ (pipeline cs rows).length := by
        refine (le_length_pipeline hpos cs rows).mpr ⟨by omega, ?_⟩
        intro c bs n hbs hn
        have := hfits c bs n hbs hn
        omega
      exact eq_of_isPrefix (isPrefix_pipeline_takesLast cs rows) (isPrefix_pipeline cs rows)
        (le_antisymm hreach hle)
  · have hnil : pipeline (takesLast cs) rows = [] := List.length_eq_zero_iff.mp (by omega)
    have hnil' : pipeline cs rows = [] := List.length_eq_zero_iff.mp (by omega)
    rw [hnil, hnil']
    simp

end Query

theorem Page.isPrefix_restrict {ρ : Type} (page : Page) (rows : List ρ) :
    page.restrict rows <+: rows.drop (page.skip.getD 0).toNat := by
  rw [restrict]
  rcases page.take with _ | n
  · exact List.prefix_rfl
  · exact List.take_prefix _ _

theorem Page.le_length_restrict {ρ : Type} {page : Page} {rows : List ρ} {k : Nat} :
    k ≤ (page.restrict rows).length ↔
      k ≤ rows.length - (page.skip.getD 0).toNat ∧ page.Fits k := by
  rw [restrict, Fits]
  rcases page.take with _ | n
  · simp
  · simp only [List.length_take, List.length_drop, Option.some.injEq, forall_eq', Nat.le_min]
    exact and_comm

namespace Query

variable {ρ : Type}

/-- The page of a query keeps the rows of the pipeline in which the takes come last. -/
theorem restrict_eq_pipeline_takesLast (source : Source) (cs : List Call) {rows : List ρ}
    (h : skipped cs < UInt64.size ∨ rows.length < UInt64.size) :
    (Page.ofQuery (afterCalls ⟨source, []⟩ cs)).restrict rows = pipeline (takesLast cs) rows := by
  set page := Page.ofQuery (afterCalls ⟨source, []⟩ cs) with hpage
  have hskip : (page.skip.getD 0).toNat = min (skipped cs) (UInt64.size - 1) := by
    have hsum := skip_afterCalls ⟨source, []⟩ cs
    have hzero : ((Page.ofQuery ⟨source, []⟩).skip.getD 0).toNat = 0 := rfl
    rwa [hzero, Nat.zero_add] at hsum
  have hdrop : rows.drop (page.skip.getD 0).toNat = rows.drop (skipped cs) := by
    rw [hskip]
    rcases h with hsum | hrows
    · rw [min_eq_left (by omega)]
    · -- where the sum stops, nothing is left of so few rows
      by_cases hle : skipped cs ≤ UInt64.size - 1
      · rw [min_eq_left hle]
      · rw [List.drop_of_length_le (by omega), List.drop_of_length_le (by omega)]
  have hlength (k : Nat) : k ≤ (page.restrict rows).length ↔
      k ≤ (pipeline (takesLast cs) rows).length := by
    have hfits : page.Fits k ↔ ∀ c ∈ cs, ∀ n, c.kept? = some n → k ≤ n := by
      rw [hpage, fits_afterCalls]
      refine and_iff_right ?_
      intro n hn
      cases hn
    rw [Page.le_length_restrict, le_length_pipeline_takesLast, hfits, ← List.length_drop, hdrop,
      List.length_drop]
  have hprefix := page.isPrefix_restrict rows
  rw [hdrop] at hprefix
  have heq := le_antisymm ((hlength _).mp le_rfl) ((hlength _).mpr le_rfl)
  exact eq_of_isPrefix hprefix (isPrefix_pipeline_takesLast cs rows) heq

/-- **The page is the pipeline with the takes behind all other calls.** A list of the rows of a
query has a statement, whose limits select the rows of that pipeline, as long as the skips add up to
a 64-bit number or the rows are no more than that; and the count of the rows is corrected to their
number. The rows are those of the calls in their own order, and so is the number, exactly if they
fit into what every take leaves for the skips behind it. -/
theorem page_eq_pipeline (d : Dialect) (source : Source) {cs : List Call}
    (hcs : ∀ p, .filter p ∈ cs → p.isCondition) :
    let q := afterCalls ⟨source, []⟩ cs
    ∃ l, (∀ l', (q.terminate .toList).HasLimits d l' ↔ l' = l) ∧
      ∀ rows : List ρ, skipped cs < UInt64.size ∨ rows.length < UInt64.size →
        l.restrict rows = pipeline (takesLast cs) rows ∧
        (l.restrict rows = pipeline cs rows ↔
          ∀ c bs n, c :: bs <:+ cs → c.kept? = some n →
            (l.restrict rows).length ≤ n - skipped bs) ∧
        ∀ (total : Value) (n : Int64), total.asInt64? = some n → n.toInt = rows.length →
          ∃ m, q.adjustedCount total = .ok m ∧ m.toInt = (l.restrict rows).length ∧
            (m.toInt = (pipeline cs rows).length ↔ l.restrict rows = pipeline cs rows) := by
  intro q
  have hempty : IsChecked ⟨source, []⟩ := fun op hop ↦ absurd hop List.not_mem_nil
  have hchecked : q.IsChecked := by
    refine hempty.afterCalls ?_
    intro c hc
    cases c with
    | filter p => exact hcs p hc
    | _ => trivial
  have hbuilt : ∀ op ∈ q.operators, op.IsBuilt :=
    isBuilt_of_mem_afterCalls fun op hop ↦ absurd hop List.not_mem_nil
  obtain ⟨s, hs⟩ := hchecked.exists_toStatement (t := .toList) (by simp [Terminal.predicate?]) d
  obtain ⟨sel, hsel, -⟩ := Except.bind_eq_ok.mp hs
  refine ⟨sel.rowLimits, ?_, ?_⟩
  · intro l'
    rw [hasLimits_iff]
    constructor
    · rintro ⟨sel', hsel', rfl⟩
      rw [hsel, Except.ok.injEq] at hsel'
      rw [hsel']
    · rintro rfl
      exact ⟨sel, hsel, rfl⟩
  · intro rows hrows
    rw [select_terminate hbuilt] at hsel
    have hrestrict : sel.rowLimits.restrict rows = (Page.ofQuery q).restrict rows :=
      Select.restrict_toList hsel rows
    have hpage := restrict_eq_pipeline_takesLast source cs hrows
    rw [hrestrict, hpage]
    refine ⟨rfl, pipeline_takesLast_eq_iff cs rows, ?_⟩
    intro total n htotal hn
    have hnumber := Page.toInt_adjustCount_length (Page.ofQuery q) hn
    rw [hpage] at hnumber
    refine ⟨(Page.ofQuery q).adjustCount n, by rw [adjustedCount, htotal], hnumber, ?_⟩
    rw [hnumber, Int.natCast_inj]
    constructor
    · intro hlength
      exact eq_of_isPrefix (isPrefix_pipeline_takesLast cs rows) (isPrefix_pipeline cs rows) hlength
    · exact congrArg List.length

/-- A skip behind a take that is followed by a smaller take, a condition, and a call that is
refused. -/
theorem page_eq_pipeline_interleaved :
    let cs : List Call := [.skip 1, .take 5, .filter (.boolEquals "A" none), .skip 2, .take 0,
      .take 2]
    let q := afterCalls ⟨.table "T", []⟩ cs
    let l : Limits := ⟨none, some 3, some 2⟩
    (∀ p, .filter p ∈ cs → p.isCondition) ∧ skipped cs < UInt64.size ∧
      (q.terminate .toList).HasLimits .postgres l ∧
      l.restrict (List.range 9) = pipeline cs (List.range 9) ∧
      ∃ m, q.adjustedCount (.int32 9) = .ok m ∧ m.toInt = (pipeline cs (List.range 9)).length := by
  intro cs q l
  have hcs : ∀ p, .filter p ∈ cs → p.isCondition := by
    intro p hp
    simp only [cs, List.mem_cons, Call.filter.injEq, reduceCtorEq, false_or, List.not_mem_nil,
      or_false] at hp
    rw [hp]
    decide
  have hl : (q.terminate .toList).HasLimits .postgres l := hasLimits_iff.mpr ⟨_, rfl, rfl⟩
  have hskipped : skipped cs < UInt64.size := by decide
  obtain ⟨l', hlimits, hrows⟩ := page_eq_pipeline (ρ := Nat) .postgres (.table "T") hcs
  obtain rfl := (hlimits l).mp hl
  obtain ⟨-, heq, hcount⟩ := hrows (List.range 9) (.inl hskipped)
  have hpipeline : l.restrict (List.range 9) = pipeline cs (List.range 9) := by decide
  obtain ⟨m, hm, hlength, -⟩ := hcount (.int32 9) 9 rfl rfl
  exact ⟨hcs, hskipped, hl, hpipeline, m, hm, hpipeline ▸ hlength⟩

/-- In the order of the calls, the skip takes away two of the five rows that were kept; on the page
there are five rows behind the first two. And a sum of skips that stops at the largest 64-bit number
leaves one of `2 ^ 64` rows, where the calls leave none. -/
theorem page_ne_pipeline :
    (let cs : List Call := [.take 5, .skip 2]
    let q := afterCalls ⟨.table "T", []⟩ cs
    let l : Limits := ⟨none, some 2, some 5⟩
    (q.terminate .toList).HasLimits .sqlServer l ∧
      l.restrict (List.range 10) = [2, 3, 4, 5, 6] ∧ pipeline cs (List.range 10) = [2, 3, 4] ∧
      q.adjustedCount (.int32 10) = .ok 5) ∧
    let cs : List Call := [.skip Int64.maxValue, .skip Int64.maxValue, .skip Int64.maxValue]
    let l : Limits := ⟨none, some (UInt64.size - 1), none⟩
    ((afterCalls ⟨.table "T", []⟩ cs).terminate .toList).HasLimits .sqlServer l ∧
      (l.restrict (List.replicate UInt64.size ())).length = 1 ∧
      (pipeline cs (List.replicate UInt64.size ())).length = 0 := by
  have hrows : (List.replicate UInt64.size ()).length = UInt64.size := List.length_replicate
  generalize List.replicate UInt64.size () = rows at hrows
  refine ⟨⟨hasLimits_iff.mpr ⟨_, rfl, rfl⟩, by decide, by decide, by decide⟩,
    hasLimits_iff.mpr ⟨_, rfl, by decide⟩, ?_, ?_⟩
  · change (rows.drop (UInt64.size - 1)).length = 1
    rw [List.length_drop, hrows]
    decide
  · have hskipped : UInt64.size ≤
        skipped [.skip Int64.maxValue, .skip Int64.maxValue, .skip Int64.maxValue] := by decide
    have hlength := (isPrefix_pipeline [.skip Int64.maxValue, .skip Int64.maxValue,
      .skip Int64.maxValue] rows).length_le
    rw [List.length_drop, hrows] at hlength
    omega

end Query

end QueryChain
