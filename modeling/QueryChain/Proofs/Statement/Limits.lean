import QueryChain.Proofs.Query.Page
import QueryChain.Proofs.Statement.Validation

/-!
# The limits of a statement

A statement asks for a page of its rows in up to three places: `TOP` in front of the columns, and
`OFFSET` and `FETCH` at the end. `Limits` holds the three numbers, `Limits.restrict` says which rows
they leave, and a statement has the limits that stand in its text. The names between them may be any
text, also one that looks like a limit; with the columns and the clauses in the middle given, the
text still reads in one way only.

A statement that lists the rows of a query is limited to the page of the query, and a statement for
a first row to the one where the page begins.
-/

namespace QueryChain

/-- The numbers of rows that a statement asks for. -/
structure Limits where
  /-- How many rows are taken first of all. -/
  top : Option Nat := none
  /-- How many of them are left out. -/
  offset : Option Nat := none
  /-- How many of the rest are kept. -/
  fetch : Option Nat := none
deriving DecidableEq

namespace Limits

variable {ρ : Type}

/-- The rows that the limits leave. -/
def restrict (l : Limits) (rows : List ρ) : List ρ :=
  let kept := match l.top with
    | some n => rows.take n
    | none => rows
  let rest := kept.drop (l.offset.getD 0)
  match l.fetch with
  | some n => rest.take n
  | none => rest

/-! ## The text of limits -/

/-- The limit in front of the columns. -/
def topText : Option Nat → String
  | some n => "TOP " ++ toString n ++ " "
  | none => ""

def offsetText : Option Nat → String
  | some n => " OFFSET " ++ toString n ++ " ROWS"
  | none => ""

def fetchText : Option Nat → String
  | some n => " FETCH NEXT " ++ toString n ++ " ROW ONLY"
  | none => ""

/-- A numeral in front of a blank is read in one way. -/
theorem numeral_inj {m n : Nat} {cs ds : List Char}
    (h : (toString m).toList ++ ' ' :: cs = (toString n).toList ++ ' ' :: ds) :
    m = n ∧ cs = ds := by
  have hdigits (k : Nat) : ∀ c ∈ (toString k).toList, c.isDigit := by
    intro c hc
    exact Nat.isDigit_of_mem_toDigits (by decide) (by decide) (Nat.toList_repr ▸ hc)
  have hrun (k : Nat) (es : List Char) :
      ((toString k).toList ++ ' ' :: es).takeWhile Char.isDigit = (toString k).toList := by
    rw [List.takeWhile_append_of_pos (hdigits k), List.takeWhile_cons_of_neg (by decide),
      List.append_nil]
  have hnumeral : (toString m).toList = (toString n).toList := by
    rw [← hrun m cs, h, hrun n ds]
  rw [hnumeral, List.append_cancel_left_eq, List.cons.injEq] at h
  refine ⟨?_, h.2⟩
  have hrepr : Nat.toDigits 10 m = Nat.toDigits 10 n := by
    rw [← Nat.toList_repr, ← Nat.toList_repr]
    exact hnumeral
  rw [← Nat.ofDigitChars_ten_toDigits (n := m), hrepr, Nat.ofDigitChars_ten_toDigits]

/-- What begins again behind something else repeats it, and so holds no other letters. -/
theorem mem_of_prefix_append {f : List Char} (hf : f ≠ []) {cs : List Char} (h : cs <+: f ++ cs) :
    ∀ c ∈ cs, c ∈ f := by
  have hlength : 0 < f.length := List.length_pos_iff.mpr hf
  induction hn : cs.length using Nat.strong_induction_on generalizing cs with
  | _ n ih =>
    intro c hc
    by_cases hle : cs.length ≤ f.length
    · have hpre : cs <+: f := List.prefix_of_prefix_length_le h (List.prefix_append f cs) hle
      exact hpre.subset hc
    · have hpre : f <+: cs := List.prefix_of_prefix_length_le (List.prefix_append f cs) h (by omega)
      obtain ⟨ds, rfl⟩ := hpre
      rw [List.prefix_append_right_inj] at h
      rw [List.length_append] at hn
      rcases List.mem_append.mp hc with hc | hc
      · exact hc
      · exact ih ds.length (by omega) h rfl c hc

/-- The letter of `FROM` keeps a limit in front of the columns apart from the columns. -/
theorem not_topText_append {n : Nat} {columns : String} {cs ds : List Char} :
    columns.toList ++ (" FROM ".toList ++ cs) ≠
      (topText (some n)).toList ++ (columns.toList ++ (" FROM ".toList ++ ds)) := by
  intro h
  have hne : (topText (some n)).toList ≠ [] := by simp [topText]
  have hleft : columns.toList ++ " FROM ".toList <+:
      columns.toList ++ (" FROM ".toList ++ cs) := ⟨cs, List.append_assoc ..⟩
  have hright : (topText (some n)).toList ++ (columns.toList ++ " FROM ".toList) <+:
      columns.toList ++ (" FROM ".toList ++ cs) := by
    refine ⟨ds, ?_⟩
    rw [h, List.append_assoc, List.append_assoc]
  have hpre := List.prefix_of_prefix_length_le hleft hright (by simp)
  have hmem : 'F' ∈ (topText (some n)).toList :=
    mem_of_prefix_append hne hpre 'F' (List.mem_append_right _ (by simp))
  simp only [topText, String.toList_append, List.mem_append] at hmem
  rcases hmem with (hmem | hmem) | hmem
  · simp at hmem
  · have hdigit : 'F'.isDigit :=
      Nat.isDigit_of_mem_toDigits (by decide) (by decide) (Nat.toList_repr ▸ hmem)
    exact absurd hdigit (by decide)
  · simp at hmem

theorem topText_inj {top top' : Option Nat} {columns : String} {cs ds : List Char}
    (h : (topText top).toList ++ (columns.toList ++ (" FROM ".toList ++ cs)) =
      (topText top').toList ++ (columns.toList ++ (" FROM ".toList ++ ds))) :
    top = top' ∧ cs = ds := by
  rcases top with _ | m <;> rcases top' with _ | n
  · simpa [topText] using h
  · exact absurd h not_topText_append
  · exact absurd h.symm not_topText_append
  · have hnumeral (k : Nat) (es : List Char) : (topText (some k)).toList ++ es =
        "TOP ".toList ++ ((toString k).toList ++ ' ' :: es) := by simp [topText]
    rw [hnumeral, hnumeral, List.append_cancel_left_eq] at h
    obtain ⟨rfl, h⟩ := numeral_inj h
    simpa using h

theorem fetchText_inj {fetch fetch' : Option Nat} (h : fetchText fetch = fetchText fetch') :
    fetch = fetch' := by
  have hchars := congrArg String.toList h
  rcases fetch with _ | m <;> rcases fetch' with _ | n
  · rfl
  · simp [fetchText] at hchars
  · simp [fetchText] at hchars
  · have hnumeral (k : Nat) : (fetchText (some k)).toList =
        " FETCH NEXT ".toList ++ ((toString k).toList ++ ' ' :: "ROW ONLY".toList) := by
      rw [fetchText, String.toList_append, String.toList_append, List.append_assoc]
      rfl
    rw [hnumeral, hnumeral, List.append_cancel_left_eq] at hchars
    rw [(numeral_inj hchars).1]

theorem endText_inj {offset offset' fetch fetch' : Option Nat}
    (h : offsetText offset ++ fetchText fetch = offsetText offset' ++ fetchText fetch') :
    offset = offset' ∧ fetch = fetch' := by
  -- a text that begins with an offset does not begin with a fetch
  have hapart (n : Nat) (a : Option Nat) (s : String) :
      fetchText a ≠ offsetText (some n) ++ s := by
    intro heq
    have hchars := congrArg String.toList heq
    rcases a with _ | k <;> simp [fetchText, offsetText] at hchars
  rcases offset with _ | m <;> rcases offset' with _ | n
  · refine ⟨rfl, fetchText_inj ?_⟩
    simpa [offsetText] using h
  · exact absurd (String.empty_append.symm.trans h) (hapart n fetch _)
  · exact absurd (String.empty_append.symm.trans h.symm) (hapart m fetch' _)
  · have hnumeral (k : Nat) (s : String) : (offsetText (some k) ++ s).toList =
        " OFFSET ".toList ++ ((toString k).toList ++ ' ' :: ("ROWS".toList ++ s.toList)) := by
      simp [offsetText]
    have hchars := congrArg String.toList h
    rw [hnumeral, hnumeral, List.append_cancel_left_eq] at hchars
    obtain ⟨rfl, hrest⟩ := numeral_inj hchars
    rw [List.append_cancel_left_eq] at hrest
    exact ⟨rfl, fetchText_inj (String.toList_inj.mp hrest)⟩

end Limits

/-- The text asks for these columns, from this source with its condition and order, within the
limits. -/
def Statement.HasLimits (s : Statement) (columns body : String) (l : Limits) : Prop :=
  s.sql = "SELECT " ++ Limits.topText l.top ++ columns ++ " FROM " ++ body ++
    (Limits.offsetText l.offset ++ Limits.fetchText l.fetch)

/-- Whatever the names are, the limits of a text are determined. -/
theorem Statement.HasLimits.unique {s : Statement} {columns body : String} {l l' : Limits}
    (h : s.HasLimits columns body l) (h' : s.HasLimits columns body l') : l = l' := by
  have heq := congrArg String.toList (h.symm.trans h')
  simp only [String.toList_append, List.append_assoc, List.append_cancel_left_eq] at heq
  obtain ⟨htop, heq⟩ := Limits.topText_inj heq
  rw [List.append_cancel_left_eq, ← String.toList_append, ← String.toList_append] at heq
  obtain ⟨hoffset, hfetch⟩ := Limits.endText_inj (String.toList_inj.mp heq)
  cases l
  cases l'
  simp_all

/-! ## The limits of clauses -/

/-- The keys that an order names. -/
def OrderClause.sortKeys : OrderClause → List (String × Direction)
  | absent | arbitrary => []
  | keys ks => ks

theorem OrderClause.sortKeys_ofKeys (ks : List (String × Direction)) (hasOffset : Bool) :
    (ofKeys ks hasOffset).sortKeys = ks := by
  rw [ofKeys]
  by_cases hnil : ks = []
  · rw [if_pos hnil, hnil]
    cases hasOffset <;> rfl
  · rw [if_neg hnil]
    rfl

namespace Select

variable {ρ : Type} {d : Dialect} {s : Select}

/-- The columns, without a limit in front of them. -/
def columnsText (s : Select) : String :=
  match s.list with
  | .count => "COUNT(*)"
  | .columns _ fields => projectionText fields

/-- The source with its condition and order. -/
def bodyText (d : Dialect) (s : Select) : String :=
  Template.render d 0 (s.source.template ++ whereClause s.condition ++ s.order.template)

/-- The limits that the clauses ask for. -/
def rowLimits (s : Select) : Limits where
  top := match s.list with
    | .columns true _ => some 1
    | _ => none
  offset := s.offset.map UInt64.toNat
  fetch := s.fetch.map UInt64.toNat

theorem render_end (start : Nat) :
    Template.render d start (offsetClause s.offset ++ fetchClause s.fetch) =
      Limits.offsetText s.rowLimits.offset ++ Limits.fetchText s.rowLimits.fetch := by
  rw [rowLimits]
  rcases s.offset with _ | n <;> rcases s.fetch with _ | m <;>
    simp [Template.render, Template.parts, offsetClause, fetchClause, Limits.offsetText,
      Limits.fetchText]

theorem list_text (s : Select) : s.list.text = Limits.topText s.rowLimits.top ++ s.columnsText := by
  rw [rowLimits, columnsText]
  rcases s.list with _ | ⟨_ | _, fields⟩
  · exact String.empty_append.symm
  · rfl
  · rfl

/-- The statement of the clauses has their limits and no others. -/
theorem hasLimits_iff {l : Limits} :
    (s.template.toStatement d).HasLimits s.columnsText (s.bodyText d) l ↔ l = s.rowLimits := by
  have hlimits : (s.template.toStatement d).HasLimits s.columnsText (s.bodyText d) s.rowLimits := by
    have htemplate : s.template = ([.text ("SELECT " ++ s.list.text ++ " FROM ")] : Template) ++
        (s.source.template ++ whereClause s.condition ++ s.order.template) ++
        (offsetClause s.offset ++ fetchClause s.fetch) := by
      simp only [template, List.append_assoc]
    have hfront : Template.render d 0 [.text ("SELECT " ++ s.list.text ++ " FROM ")] =
        "SELECT " ++ Limits.topText s.rowLimits.top ++ s.columnsText ++ " FROM " := by
      simp [list_text, Template.render, Template.parts, String.append_assoc]
    rw [Statement.HasLimits, Template.toStatement, htemplate, Template.render_append,
      Template.render_append, hfront, render_end]
    rfl
  constructor
  · intro h
    exact h.unique hlimits
  · rintro rfl
    exact hlimits

/-! ## Lists and first rows -/

variable {source : Source} {body : List Operator} {t : Terminal}

/-- A list of rows is limited to the page. -/
theorem restrict_toList (h : ofChain d source body .toList = .ok s) (rows : List ρ) :
    s.rowLimits.restrict rows = (Page.ofOperators body).restrict rows := by
  obtain ⟨ts, -, h⟩ := Except.bind_eq_ok.mp h
  rw [if_neg (by decide)] at h
  obtain ⟨ks, -, h⟩ := Except.bind_eq_ok.mp h
  cases h
  rcases Page.ofOperators body with ⟨_ | n, _ | m⟩ <;> rfl

theorem not_isCount_of_isFirst (ht : t.isFirst) : ¬t.isCount := by
  cases t <;> simp_all [Terminal.isFirst, Terminal.isCount]

/-- A first row is looked for where the page begins. -/
theorem restrict_first (ht : t.isFirst) (h : ofChain d source body t = .ok s) (rows : List ρ) :
    s.rowLimits.restrict rows =
      (rows.drop ((Page.ofOperators body).skip.getD 0).toNat).take 1 := by
  obtain ⟨ts, -, h⟩ := Except.bind_eq_ok.mp h
  rw [if_neg (not_isCount_of_isFirst ht)] at h
  obtain ⟨ks, -, h⟩ := Except.bind_eq_ok.mp h
  cases h
  rw [ht]
  rcases Page.ofOperators body with ⟨_ | n, take⟩ <;> cases d <;> rfl

theorem orderKeys_of_ofChain (ht : ¬t.isCount) (h : ofChain d source body t = .ok s) :
    orderKeys body = .ok s.order.sortKeys := by
  obtain ⟨ts, -, h⟩ := Except.bind_eq_ok.mp h
  rw [if_neg ht] at h
  obtain ⟨ks, hks, h⟩ := Except.bind_eq_ok.mp h
  cases h
  rw [hks, OrderClause.sortKeys_ofKeys]

/-- With good keys, only a condition can be wrong. -/
theorem ofChain_eq_error {e : Error} (hkeys : ∃ ks, orderKeys body = .ok ks) :
    ofChain d source body t = .error e ↔
      (Predicate.emitAll (body.filterMap Operator.filter? ++ t.predicate?.toList)).toExcept =
        .error e := by
  obtain ⟨ks, hks⟩ := hkeys
  constructor
  · intro h
    rcases of_ofChain_error h with hcondition | ⟨-, -, -, hfail⟩
    · exact hcondition
    · rw [hks] at hfail
      cases hfail
  · exact fun h ↦ Except.bind_eq_error.mpr (.inl h)

/-- Statements with the same condition of their own select from the same rows, and in the same order
unless they count them. -/
theorem agree_of_ofChain {s s' : Select} {t t' : Terminal} (ht : t.predicate? = t'.predicate?)
    (h : ofChain d source body t = .ok s) (h' : ofChain d source body t' = .ok s') :
    s.source = s'.source ∧ s.condition = s'.condition ∧
      (¬t.isCount → ¬t'.isCount → s.order.sortKeys = s'.order.sortKeys) := by
  obtain ⟨hemit, hsource, -⟩ := of_ofChain h
  obtain ⟨hemit', hsource', -⟩ := of_ofChain h'
  rw [ht, hemit'] at hemit
  refine ⟨hsource.trans hsource'.symm, (Emission.write_inj.mp hemit).symm, ?_⟩
  intro hcount hcount'
  have hkeys := orderKeys_of_ofChain hcount h
  rw [orderKeys_of_ofChain hcount' h', Except.ok.injEq] at hkeys
  exact hkeys.symm

end Select

/-! ## The limits of a query -/

namespace Query

variable {d : Dialect} {q : Query} {l : Limits}

/-- The query has a statement, and the statement has these limits. -/
def HasLimits (d : Dialect) (q : Query) (l : Limits) : Prop :=
  ∃ sel s, q.select d = .ok sel ∧ q.toStatement d = .ok s ∧
    s.HasLimits sel.columnsText (sel.bodyText d) l

theorem toStatement_of_select {sel : Select} (h : q.select d = .ok sel) :
    q.toStatement d = .ok (sel.template.toStatement d) :=
  Except.bind_eq_ok.mpr ⟨sel, h, rfl⟩

theorem toStatement_eq_error {e : Error} :
    q.toStatement d = .error e ↔ q.select d = .error e := by
  rw [toStatement]
  rcases q.select d with e' | sel <;> simp [bind, Except.bind, pure, Except.pure]

theorem hasLimits_iff : q.HasLimits d l ↔ ∃ sel, q.select d = .ok sel ∧ l = sel.rowLimits := by
  constructor
  · rintro ⟨sel, s, hsel, hs, hl⟩
    rw [toStatement_of_select hsel] at hs
    cases hs
    exact ⟨sel, hsel, Select.hasLimits_iff.mp hl⟩
  · rintro ⟨sel, hsel, hl⟩
    exact ⟨sel, _, hsel, toStatement_of_select hsel, Select.hasLimits_iff.mpr hl⟩

end Query

end QueryChain
