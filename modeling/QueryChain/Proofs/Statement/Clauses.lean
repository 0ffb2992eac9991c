import QueryChain.Proofs.Execution.Paging
import QueryChain.Proofs.Query.Concerns

/-!
# The clauses of a statement

A database reads a statement for rows as a list of clauses. The columns and the source are always
there; a limit in front of the columns, a condition, an order, an offset and a fetch may be there,
each of them once and in this order. Not every choice of clauses is allowed: a fetch needs an
offset, an offset needs an order, and `TOP` stands with neither. A statement that breaks one of
these rules fails only when it is run.

There are five forms of a selection, and each of them keeps the rules. What is more, a statement has
the clauses that its chain asks for and no others.
-/

namespace QueryChain

/-- The clauses of a statement. What stands between the keywords is any text. -/
structure Clauses extends Limits where
  columns : String
  source : String
  condition : Option String := none
  order : Option String := none
deriving DecidableEq

/-! ## The text of clauses -/

namespace Clauses

/-- A clause that may be left out. -/
def optional (keyword : String) : Option String → String
  | some x => keyword ++ x
  | none => ""

/-- The source with its condition and order. -/
def body (c : Clauses) : String :=
  c.source ++ optional " WHERE " c.condition ++ optional " ORDER BY " c.order

/-- The statement with these clauses. -/
def text (c : Clauses) : String :=
  "SELECT " ++ Limits.topText c.top ++ c.columns ++ " FROM " ++ c.body ++
    (Limits.offsetText c.offset ++ Limits.fetchText c.fetch)

/-- What the keyword of a clause introduces is the same wherever both have the clause. Which of the
clauses are there is left open. -/
structure SameContents (c c' : Clauses) : Prop where
  columns : c.columns = c'.columns
  source : c.source = c'.source
  condition : ∀ w ∈ c.condition, ∀ w' ∈ c'.condition, w = w'
  order : ∀ o ∈ c.order, ∀ o' ∈ c'.order, o = o'

/-- Whether a clause is there is seen by its keyword, if what may follow begins in another way. -/
theorem optional_inj {keyword : String} {a b : Option String} {cs ds : List Char}
    (hcs : ¬keyword.toList <+: cs) (hds : ¬keyword.toList <+: ds)
    (hab : ∀ x ∈ a, ∀ y ∈ b, x = y)
    (h : (optional keyword a).toList ++ cs = (optional keyword b).toList ++ ds) :
    a = b ∧ cs = ds := by
  have hprefix (x : String) (es : List Char) :
      keyword.toList <+: (optional keyword (some x)).toList ++ es := by
    rw [optional, String.toList_append, List.append_assoc]
    exact List.prefix_append _ _
  rcases a with _ | x <;> rcases b with _ | y
  · exact ⟨rfl, h⟩
  · have hkeyword : keyword.toList <+: (optional keyword none).toList ++ cs := h ▸ hprefix y ds
    exact absurd hkeyword hcs
  · have hkeyword : keyword.toList <+: (optional keyword none).toList ++ ds := h ▸ hprefix x cs
    exact absurd hkeyword hds
  · obtain rfl := hab x rfl y rfl
    exact ⟨rfl, List.append_cancel_left h⟩

theorem not_startsWith_orderBy (offset fetch : Option Nat) :
    ¬" ORDER BY ".toList <+:
      (Limits.offsetText offset).toList ++ (Limits.fetchText fetch).toList := by
  rcases offset with _ | n <;> rcases fetch with _ | m <;>
    simp [Limits.offsetText, Limits.fetchText]

theorem not_startsWith_where (order : Option String) (offset fetch : Option Nat) :
    ¬" WHERE ".toList <+: (optional " ORDER BY " order).toList ++
      ((Limits.offsetText offset).toList ++ (Limits.fetchText fetch).toList) := by
  rcases order with _ | o <;> rcases offset with _ | n <;> rcases fetch with _ | m <;>
    simp [optional, Limits.offsetText, Limits.fetchText]

/-- **A statement is read in one way.** Whatever the names and the condition are, also where they
hold keywords, a text has one set of clauses around them. -/
theorem text_inj {c c' : Clauses} (hsame : c.SameContents c') (h : c.text = c'.text) : c = c' := by
  have hchars := congrArg String.toList h
  simp only [text, body, String.toList_append, List.append_assoc, List.append_cancel_left_eq,
    hsame.columns, hsame.source] at hchars
  obtain ⟨htop, hchars⟩ := Limits.topText_inj hchars
  rw [List.append_cancel_left_eq] at hchars
  obtain ⟨hcondition, hchars⟩ :=
    optional_inj (not_startsWith_where _ _ _) (not_startsWith_where _ _ _) hsame.condition hchars
  obtain ⟨horder, hchars⟩ :=
    optional_inj (not_startsWith_orderBy _ _) (not_startsWith_orderBy _ _) hsame.order hchars
  rw [← String.toList_append, ← String.toList_append, String.toList_inj] at hchars
  obtain ⟨hoffset, hfetch⟩ := Limits.endText_inj hchars
  obtain ⟨⟨top, offset, fetch⟩, columns, source, condition, order⟩ := c
  obtain ⟨⟨top', offset', fetch'⟩, columns', source', condition', order'⟩ := c'
  obtain ⟨hcolumns, hsource, -, -⟩ := hsame
  simp_all

/-! ## Rules for clauses -/

/-- What a dialect asks of the clauses of a statement. -/
structure WellFormed (d : Dialect) (c : Clauses) : Prop where
  offset_of_fetch : c.fetch.isSome → c.offset.isSome
  order_of_offset : c.offset.isSome → c.order.isSome
  alone_of_top : c.top.isSome → c.offset = none ∧ c.fetch = none
  top_supported : c.top.isSome → d = .sqlServer
  top_eq_one : ∀ n ∈ c.top, n = 1
  one_le_fetch : ∀ n ∈ c.fetch, 1 ≤ n

/-- The clauses are those that a chain over a source asks for with its terminal. -/
structure Answer (d : Dialect) (source : Source) (body : List Operator) (t : Terminal)
    (c : Clauses) : Prop where
  source_eq : c.source = (source.render d []).1
  condition : let ps := body.filterMap Operator.filter? ++ t.predicate?.toList
    ∃ text store, Predicate.toCondition d source.arguments ps = (.ok text, store) ∧
      c.condition = if ps = [] then none else some text
  /-- Orderings, pages and columns are of no use for a count. -/
  count : t.isCount → c.columns = "COUNT(*)" ∧ c.order = none ∧ c.toLimits = {}
  columns : ¬t.isCount → c.columns = projectionText (selectedFields body)
  /-- The order that says nothing stands where an offset needs an order and the chain has none. -/
  order : ¬t.isCount → ∃ ks, orderKeys body = .ok ks ∧ (ks = [] ↔ Operator.about .order body = []) ∧
    (ks ≠ [] → c.order = some (orderText ks)) ∧
    (ks = [] → c.offset = none → c.order = none) ∧
    (c.order = some "(SELECT NULL)" ↔ ks = [] ∧ c.offset.isSome)
  /-- One row is asked for in one of two ways. -/
  first : t.isFirst → c.top = some 1 ∧ c.fetch = none ∨ c.top = none ∧ c.fetch = some 1
  list : t = .toList → c.top = none ∧ (c.fetch.isSome ↔ ∃ n, .take n ∈ body) ∧
    (c.offset.isSome ↔ ∃ n, .skip n ∈ body ∨ .take n ∈ body)

end Clauses

/-! ## The clauses of a selection -/

/-- The text of an order, if there is one. -/
def OrderClause.text? : OrderClause → Option String
  | absent => none
  | arbitrary => some "(SELECT NULL)"
  | keys ks => some (orderText ks)

theorem OrderClause.render_template (d : Dialect) (start : Nat) (o : OrderClause) :
    o.template.render d start = Clauses.optional " ORDER BY " o.text? := by
  cases o <;> simp [template, text?, Clauses.optional, Template.render, Template.parts]

/-- A list of keys ends with a direction, so it is not mistaken for the order that says nothing. -/
theorem getLast?_orderText {ks : List (String × Direction)} (h : ks ≠ []) :
    (orderText ks).toList.getLast? = some 'C' := by
  rw [orderText]
  induction ks with
  | nil => exact absurd rfl h
  | cons k ks ih =>
    cases ks with
    | nil =>
      obtain ⟨name, direction⟩ := k
      cases direction <;> simp [Direction.sql]
    | cons l ks =>
      have hrest := ih (List.cons_ne_nil l ks)
      rw [List.map_cons] at hrest
      rw [List.map_cons, List.map_cons, String.intercalate_cons_cons, String.toList_append,
        List.getLast?_append, hrest]
      rfl

/-- An order that says nothing is written for an offset without keys, and only there. -/
theorem OrderClause.text?_ofKeys (ks : List (String × Direction)) (hasOffset : Bool) :
    (ks ≠ [] → (ofKeys ks hasOffset).text? = some (orderText ks)) ∧
      (ks = [] → hasOffset = false → (ofKeys ks hasOffset).text? = none) ∧
      ((ofKeys ks hasOffset).text? = some "(SELECT NULL)" ↔ ks = [] ∧ hasOffset) := by
  rw [ofKeys]
  by_cases hnil : ks = []
  · cases hasOffset <;> simp [hnil, text?]
  · have hne : orderText ks ≠ "(SELECT NULL)" := by
      intro heq
      have hlast := getLast?_orderText hnil
      rw [heq] at hlast
      exact absurd hlast (by decide)
    simp [hnil, text?, hne]

/-- The condition is empty only if there is nothing to be satisfied. -/
theorem Predicate.eq_nil_iff_of_emitAll {ps : List Predicate} {ts : List Token}
    (h : emitAll ps = .write ts) : ts = [] ↔ ps = [] := by
  cases ps with
  | nil =>
    obtain rfl := Emission.write_inj.mp h
    exact iff_of_true rfl rfl
  | cons p ps =>
    obtain ⟨t, ht, -⟩ := exists_piece_of_emit (p := ps.foldl .and p) h
    exact iff_of_false (List.ne_nil_of_mem ht) (List.cons_ne_nil p ps)

namespace Select

variable {d : Dialect} {s : Select}

/-- The clauses that a selection is written with. -/
def clauses (d : Dialect) (s : Select) : Clauses where
  toLimits := s.rowLimits
  columns := s.columnsText
  source := (s.source.render d []).1
  condition :=
    if s.condition = [] then none
    else some (Template.render d s.source.arguments.length (Token.spell s.condition))
  order := s.order.text?

theorem bodyText_eq (d : Dialect) (s : Select) : s.bodyText d = (s.clauses d).body := by
  have hlength : s.source.template.constants.length = s.source.arguments.length := by
    rw [← s.source.values_template d, Template.values, List.length_map]
  have hwhere (start : Nat) : (whereClause s.condition).render d start = Clauses.optional " WHERE "
      (if s.condition = [] then none
        else some (Template.render d start (Token.spell s.condition))) := by
    rw [whereClause]
    by_cases hnil : s.condition = []
    · rw [if_pos hnil, if_pos hnil]
      rfl
    · rw [if_neg hnil, if_neg hnil]
      exact String.join_cons
  rw [bodyText, Template.render_append, Template.render_append, OrderClause.render_template, hwhere,
    hlength, Nat.zero_add]
  rfl

/-- The statement of a selection is written with its clauses. -/
theorem sql_eq_text (d : Dialect) (s : Select) :
    (s.template.toStatement d).sql = (s.clauses d).text := by
  have hlimits : (s.template.toStatement d).HasLimits s.columnsText (s.bodyText d) s.rowLimits :=
    hasLimits_iff.mpr rfl
  rw [bodyText_eq] at hlimits
  exact hlimits

/-! ## The forms of a selection -/

variable {source : Source} {body : List Operator} {t : Terminal}

/-- The forms in which the rows of a chain are selected, given the tokens of its condition. -/
inductive Form (d : Dialect) (source : Source) (body : List Operator) (ts : List Token) :
    Terminal → Select → Prop
  | count (p : Option Predicate) :
    Form d source body ts (.count p) ⟨.count, source, ts, .absent, none, none⟩
  /-- One row by `TOP`. -/
  | top {t ks} (ht : t.isFirst) (hskip : (Page.ofOperators body).skip = none)
    (hd : d.supportsTop) (hks : orderKeys body = .ok ks) :
    Form d source body ts t
      ⟨.columns true (selectedFields body), source, ts, .ofKeys ks false, none, none⟩
  /-- One row by an offset. -/
  | single {t ks} (ht : t.isFirst) (hskip : d.supportsTop → (Page.ofOperators body).skip.isSome)
    (hks : orderKeys body = .ok ks) :
    Form d source body ts t
      ⟨.columns false (selectedFields body), source, ts, .ofKeys ks true,
        some ((Page.ofOperators body).skip.getD 0), some 1⟩
  /-- All rows. -/
  | all {ks} (hpage : Page.ofOperators body = {}) (hks : orderKeys body = .ok ks) :
    Form d source body ts .toList
      ⟨.columns false (selectedFields body), source, ts, .ofKeys ks false, none, none⟩
  /-- The rows of a page. -/
  | page {ks} (hpage : Page.ofOperators body ≠ {}) (hks : orderKeys body = .ok ks) :
    Form d source body ts .toList
      ⟨.columns false (selectedFields body), source, ts, .ofKeys ks true,
        some ((Page.ofOperators body).skip.getD 0), (Page.ofOperators body).take⟩

/-- Every selection of a chain has one of the forms. -/
theorem form_of_ofChain (h : ofChain d source body t = .ok s) :
    ∃ ts, Predicate.emitAll (body.filterMap Operator.filter? ++ t.predicate?.toList) = .write ts ∧
      Form d source body ts t s := by
  obtain ⟨ts, hts, h⟩ := Except.bind_eq_ok.mp h
  refine ⟨ts, Emission.toExcept_eq_ok.mp hts, ?_⟩
  by_cases hcount : t.isCount
  · rw [if_pos hcount] at h
    cases h
    cases t with
    | count p => exact .count p
    | _ => cases hcount
  rw [if_neg hcount] at h
  obtain ⟨ks, hks, h⟩ := Except.bind_eq_ok.mp h
  let top := t.isFirst && (Page.ofOperators body).skip.isNone && d.supportsTop
  let limit := limits t.isFirst top (Page.ofOperators body)
  obtain rfl : s = ⟨.columns top (selectedFields body), source, ts, .ofKeys ks limit.1.isSome,
      limit.1, limit.2⟩ := (Except.ok.inj h).symm
  by_cases hfirst : t.isFirst
  · by_cases htop : (Page.ofOperators body).skip = none ∧ d.supportsTop
    · have hform : Form d source body ts t _ := .top hfirst htop.1 htop.2 hks
      simpa [limit, top, hfirst, htop, limits] using hform
    · have hskip : d.supportsTop → (Page.ofOperators body).skip.isSome := by
        intro hd
        rw [Option.isSome_iff_ne_none]
        exact fun hnone ↦ htop ⟨hnone, hd⟩
      have hform : Form d source body ts t _ := .single hfirst hskip hks
      have hfalse : ((Page.ofOperators body).skip.isNone && d.supportsTop) = false := by
        simpa using htop
      simpa [limit, top, hfirst, hfalse, limits] using hform
  · obtain rfl : t = .toList := by cases t <;> simp_all [Terminal.isFirst, Terminal.isCount]
    by_cases hpage : Page.ofOperators body = {}
    · have hform : Form d source body ts .toList _ := .all hpage hks
      simpa [limit, top, hpage, limits, Terminal.isFirst] using hform
    · have hform : Form d source body ts .toList _ := .page hpage hks
      rcases hlimits : Page.ofOperators body with ⟨_ | n, _ | m⟩
      · exact absurd hlimits hpage
      all_goals simpa [limit, top, hlimits, limits, Terminal.isFirst] using hform

namespace Form

variable {ts : List Token}

theorem emitted (h : Form d source body ts t s) : s.source = source ∧ s.condition = ts := by
  cases h <;> exact ⟨rfl, rfl⟩

/-- Rows come with the columns of the chain, and in its order. -/
theorem rows (h : Form d source body ts t s) (ht : ¬t.isCount) :
    s.columnsText = projectionText (selectedFields body) ∧
      ∃ ks, orderKeys body = .ok ks ∧ s.order = .ofKeys ks s.offset.isSome := by
  cases h with
  | count p => exact absurd rfl ht
  | top _ _ _ hks | single _ _ hks | all _ hks | page _ hks => exact ⟨rfl, _, hks, rfl⟩

/-- Every form keeps the rules of the dialect. -/
theorem wellFormed (h : Form d source body ts t s) (hbody : ∀ op ∈ body, op.IsBuilt) :
    (s.clauses d).WellFormed d := by
  have horder (ks : List (String × Direction)) : (OrderClause.ofKeys ks true).text?.isSome := by
    rw [OrderClause.ofKeys]
    split <;> rfl
  cases h with
  | count p => constructor <;> simp [clauses, rowLimits]
  | top _ _ hd _ =>
    have hdialect : d = .sqlServer := by
      cases d with
      | sqlServer => rfl
      | postgres => cases hd
    constructor <;> simp [clauses, rowLimits, hdialect]
  | single _ _ _ => constructor <;> simp [clauses, rowLimits, horder]
  | all _ _ => constructor <;> simp [clauses, rowLimits]
  | page _ _ =>
    have hpos : ∀ n, (Page.ofOperators body).take = some n → 1 ≤ n.toNat := by
      intro n hn
      exact UInt64.lt_iff_toNat_lt.mp (Page.take_pos hbody n hn)
    constructor
    case one_le_fetch => simpa [clauses, rowLimits] using hpos
    all_goals simp [clauses, rowLimits, horder]

/-- Every form has the clauses that the chain asks for. -/
theorem answer (h : Form d source body ts t s)
    (hts : Predicate.emitAll (body.filterMap Operator.filter? ++ t.predicate?.toList) = .write ts) :
    (s.clauses d).Answer d source body t := by
  obtain ⟨hsource, hcondition⟩ := h.emitted
  have hrows := h.rows
  constructor
  case source_eq => rw [clauses, hsource]
  case condition =>
    refine ⟨_, _, Predicate.toCondition_of_emitAll _ hts, ?_⟩
    simp only [clauses, hcondition, hsource, Predicate.eq_nil_iff_of_emitAll hts]
  case count =>
    intro ht
    cases h with
    | count p => exact ⟨rfl, rfl, rfl⟩
    | top ht' | single ht' => exact absurd ht (not_isCount_of_isFirst ht')
    | all | page => cases ht
  case columns => exact fun ht ↦ (hrows ht).1
  case order =>
    intro ht
    obtain ⟨-, ks, hks, horder⟩ := hrows ht
    obtain ⟨hkeys, hnone, harbitrary⟩ := OrderClause.text?_ofKeys ks s.offset.isSome
    refine ⟨ks, hks, Operator.orderKeys_eq_nil_iff hks, ?_⟩
    simp only [clauses, rowLimits, horder]
    refine ⟨hkeys, ?_, ?_⟩
    · intro hnil hoffset
      exact hnone hnil (by simpa using hoffset)
    · simpa using harbitrary
  case first =>
    intro ht
    cases h with
    | count p => cases ht
    | top => exact .inl ⟨rfl, rfl⟩
    | single => exact .inr ⟨rfl, rfl⟩
    | all | page => cases ht
  case list =>
    rintro rfl
    rw [← Operator.isSome_take_ofOperators, exists_or, ← Operator.isSome_skip_ofOperators,
      ← Operator.isSome_take_ofOperators]
    cases h with
    | top ht | single ht => cases ht
    | all hpage => simp [clauses, rowLimits, hpage]
    | page hpage =>
      refine ⟨rfl, ?_, ?_⟩
      · simp [clauses, rowLimits]
      · rcases hpage' : Page.ofOperators body with ⟨_ | n, _ | m⟩
        · exact absurd hpage' hpage
        all_goals simp [clauses, rowLimits]

end Form

end Select

/-! ## Statements of builders -/

namespace Query

variable {q : Query}

theorem source_afterCalls (q : Query) (cs : List Call) : (q.afterCalls cs).source = q.source := by
  induction cs generalizing q with
  | nil => rfl
  | cons c cs ih =>
    refine (ih _).trans ?_
    rw [afterCall]
    rcases hrun : c.run q with err | q'
    · rfl
    · obtain ⟨op, -, rfl⟩ := Call.run_eq_ok hrun
      rfl

/-- A query that has not ended is read as one that ends with a list. -/
theorem toStatement_of_isBuilt (hq : ∀ op ∈ q.operators, op.IsBuilt) (d : Dialect) :
    q.toStatement d = (q.terminate .toList).toStatement d := by
  have hsplit : q.split = .ok (q.operators, .toList) := by
    rw [split_eq_ok]
    exact ⟨fun op hop ↦ (hq op hop).not_isTerminal, .inr ⟨rfl, rfl⟩⟩
  have hselect : q.select d = Select.ofChain d q.source q.operators .toList := by
    rw [select, hsplit]
    rfl
  rw [toStatement, toStatement, hselect, select_terminate hq]

/-- **Statements are well formed.** A query of builders that has a statement is written with clauses
that keep the rules of the dialect, which are those that its chain asks for and the only ones that
its text can be read with. A query that has not ended is read as a list. -/
theorem wellFormed_toStatement (source : Source) (cs : List Call) (d : Dialect) :
    let q := afterCalls ⟨source, []⟩ cs
    (∀ t s, (q.terminate t).toStatement d = .ok s →
      ∃ c : Clauses, s.sql = c.text ∧ c.WellFormed d ∧ c.Answer d source q.operators t ∧
        ∀ c' : Clauses, s.sql = c'.text → c.SameContents c' → c' = c) ∧
    q.toStatement d = (q.terminate .toList).toStatement d := by
  intro q
  have hbuilt : ∀ op ∈ q.operators, op.IsBuilt :=
    isBuilt_of_mem_afterCalls fun op hop ↦ absurd hop List.not_mem_nil
  have hsource : q.source = source := source_afterCalls ⟨source, []⟩ cs
  refine ⟨?_, toStatement_of_isBuilt hbuilt d⟩
  intro t s hs
  obtain ⟨sel, hsel, hs⟩ := Except.bind_eq_ok.mp hs
  obtain rfl := Except.ok.inj hs
  rw [select_terminate hbuilt, hsource] at hsel
  obtain ⟨ts, hts, hform⟩ := Select.form_of_ofChain hsel
  have htext := sel.sql_eq_text d
  refine ⟨sel.clauses d, htext, hform.wellFormed hbuilt, hform.answer hts, ?_⟩
  intro c' hc' hsame
  exact (Clauses.text_inj hsame (htext.symm.trans hc')).symm

/-- A limited and sorted list for SQL Server, and one row of the same query for PostgreSQL. The call
that takes nothing is refused. -/
theorem wellFormed_toStatement_page :
    let q := afterCalls ⟨.table "T", []⟩ [.take 5, .filter (.boolEquals "A" (some true)),
      .orderByDescending "B", .take 0, .selectOnly ["B", "C"]]
    let s : Statement := ⟨"SELECT B, C FROM T WHERE A = @param0 ORDER BY B DESC OFFSET 0 ROWS " ++
      "FETCH NEXT 5 ROW ONLY", [⟨"@param0", .int32 1⟩]⟩
    let s' : Statement := ⟨"SELECT B, C FROM T WHERE A = $1 ORDER BY B DESC OFFSET 0 ROWS " ++
      "FETCH NEXT 1 ROW ONLY", [⟨"@param0", .bool true⟩]⟩
    ((q.terminate .toList).toStatement .sqlServer = .ok s ∧
      ∃ c : Clauses, s.sql = c.text ∧ c.WellFormed .sqlServer ∧
        c.Answer .sqlServer (.table "T") q.operators .toList) ∧
    (q.terminate (.first none)).toStatement .postgres = .ok s' ∧
      ∃ c : Clauses, s'.sql = c.text ∧ c.WellFormed .postgres ∧
        c.Answer .postgres (.table "T") q.operators (.first none) := by
  intro q s s'
  have hs : (q.terminate .toList).toStatement .sqlServer = .ok s := by decide +kernel
  have hs' : (q.terminate (.first none)).toStatement .postgres = .ok s' := by decide +kernel
  obtain ⟨c, htext, hwell, hanswer, -⟩ :=
    (wellFormed_toStatement (.table "T") _ .sqlServer).1 .toList s hs
  obtain ⟨c', htext', hwell', hanswer', -⟩ :=
    (wellFormed_toStatement (.table "T") _ .postgres).1 (.first none) s' hs'
  exact ⟨⟨hs, c, htext, hwell, hanswer⟩, hs', c', htext', hwell', hanswer'⟩

end Query

end QueryChain
