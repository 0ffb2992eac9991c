import Mathlib.Data.List.Basic
import Mathlib.Data.List.Induction
import QueryChain.Row.Basic

/-!
# The columns of a row

A row is built from pairs of a name and a value, which are put in one after the other. A name that
occurs again keeps its place and gets the later value, so the place of a column is decided by the
first pair with its name, and its value by the last one. Both are shown by adding one pair at the
end: `Row.columns_put` and `Row.get?_put` say what the last pair does, and the rest is induction on
the pairs in front of it.

A row that is read column by column and built again is the same row. For this the row has to be
taken apart from the end as well, where the last column is one that the others do not have.
-/

namespace QueryChain

namespace RawRow

variable {raw : RawRow} {name : String} {v : Value}

/-- The value stands in the last of the pairs with this name. -/
def IsLast (raw : RawRow) (name : String) (v : Value) : Prop :=
  ∃ before after : RawRow, raw = before ++ (name, v) :: after ∧ name ∉ after.names

theorem names_append (raw rest : RawRow) : names (raw ++ rest) = raw.names ++ rest.names :=
  List.map_append

theorem notMem_names : name ∉ raw.names ↔ ∀ e ∈ raw, (name != e.1) = true := by
  rw [names, List.mem_map, not_exists]
  refine forall_congr' fun e ↦ ?_
  rw [not_and, bne_iff_ne, ne_comm]

theorem isLast_iff : raw.IsLast name v ↔ raw.reverse.lookup name = some v := by
  rw [List.lookup_eq_some_iff]
  constructor
  · rintro ⟨before, after, rfl, hafter⟩
    refine ⟨after.reverse, before.reverse, ?_, ?_⟩
    · rw [List.reverse_append, List.reverse_cons, List.append_assoc, List.singleton_append]
    · intro e he
      exact notMem_names.mp hafter e (List.mem_reverse.mp he)
  · rintro ⟨after, before, hraw, hafter⟩
    refine ⟨before.reverse, after.reverse, ?_, ?_⟩
    · rw [← List.reverse_reverse raw, hraw, List.reverse_append, List.reverse_cons,
        List.append_assoc, List.singleton_append]
    · exact notMem_names.mpr fun e he ↦ hafter e (List.mem_reverse.mp he)

theorem lookup_cons (n : String) (w : Value) (rest : RawRow) (c : String) :
    List.lookup c ((n, w) :: rest) = if c = n then some w else rest.lookup c := by
  rw [List.lookup_cons]
  by_cases h : c = n
  · rw [if_pos h, beq_iff_eq.mpr h]
  · rw [if_neg h, beq_eq_false_iff_ne.mpr h]

/-- Setting a column changes what is found under its name and nothing else. -/
theorem lookup_put (name : String) (v : Value) (raw : RawRow) (c : String) :
    (put name v raw).lookup c = if c = name then some v else raw.lookup c := by
  induction raw with
  | nil => exact lookup_cons name v [] c
  | cons e rest ih =>
    obtain ⟨n, w⟩ := e
    by_cases hn : n = name
    · subst hn
      rw [put, if_pos rfl, lookup_cons, lookup_cons]
      split <;> rfl
    · rw [put, if_neg hn, lookup_cons, lookup_cons, ih]
      by_cases h : c = n
      · rw [if_pos h, if_pos h, if_neg (h.trans_ne hn)]
      · rw [if_neg h, if_neg h]

/-- A new column comes last. -/
theorem put_of_notMem (h : name ∉ raw.names) : put name v raw = raw ++ [(name, v)] := by
  induction raw with
  | nil => rfl
  | cons e rest ih =>
    obtain ⟨n, w⟩ := e
    rw [names, List.map_cons, List.mem_cons, not_or] at h
    rw [put, if_neg (Ne.symm h.1), ih h.2]
    rfl

theorem lookup_of_mem (hraw : raw.names.Nodup) (h : (name, v) ∈ raw) :
    raw.lookup name = some v := by
  induction raw with
  | nil => cases h
  | cons e rest ih =>
    obtain ⟨n, w⟩ := e
    rw [names, List.map_cons, List.nodup_cons] at hraw
    rcases List.mem_cons.mp h with heq | hrest
    · cases heq
      exact List.lookup_cons_self
    · have hmem : name ∈ rest.map Prod.fst := List.mem_map_of_mem hrest
      have hne : name ≠ n := fun heq ↦ hraw.1 (heq ▸ hmem)
      rw [lookup_cons, if_neg hne]
      exact ih hraw.2 hrest

end RawRow

namespace Row

variable {r : Row} {name : String} {v : Value}

theorem entries_put (r : Row) (name : String) (v : Value) :
    (r.put name v).entries = r.entries.put name v :=
  rfl

theorem eq_of_entries {r r' : Row} (h : r.entries = r'.entries) : r = r' := by
  cases r
  cases r'
  cases h
  rfl

theorem get?_put (r : Row) (name : String) (v : Value) (c : String) :
    (r.put name v).get? c = if c = name then some v else r.get? c :=
  RawRow.lookup_put name v r.entries c

theorem columns_put (r : Row) (name : String) (v : Value) :
    (r.put name v).columns = if name ∈ r.columns then r.columns else r.columns ++ [name] :=
  RawRow.names_put name v r.entries

theorem ofColumns_append_singleton (raw : RawRow) (name : String) (v : Value) :
    ofColumns (raw ++ [(name, v)]) = (ofColumns raw).put name v := by
  rw [ofColumns, List.foldl_append]
  rfl

/-! ## What is found under a name -/

/-- The last pair counts. -/
theorem get?_ofColumns (raw : RawRow) (c : String) :
    (ofColumns raw).get? c = raw.reverse.lookup c := by
  induction raw using List.reverseRecOn with
  | nil => rfl
  | append_singleton raw e ih =>
    obtain ⟨n, w⟩ := e
    rw [ofColumns_append_singleton, get?_put, ih, List.reverse_append, List.reverse_singleton,
      List.singleton_append, RawRow.lookup_cons]

theorem mem_columns_iff : name ∈ r.columns ↔ (r.get? name).isSome := by
  rw [get?, List.lookup_isSome_iff, columns, RawRow.names, List.mem_map]
  simp only [beq_iff_eq, eq_comm (a := name)]

theorem contains_eq (r : Row) (name : String) : r.contains name = (r.get? name).isSome := by
  rw [Bool.eq_iff_iff, ← mem_columns_iff, contains, List.any_eq_true, columns, RawRow.names,
    List.mem_map]
  simp only [beq_iff_eq]

/-- Column by column, a row is read as it is looked up. -/
theorem entries_eq_get? (r : Row) :
    r.entries.map (fun e ↦ (e.1, some e.2)) = r.columns.map fun c ↦ (c, r.get? c) := by
  rw [columns, RawRow.names, List.map_map, List.map_inj_left]
  intro e he
  exact congrArg (e.1, ·) (RawRow.lookup_of_mem r.nodup he).symm

/-! ## The order of the columns -/

theorem mem_columns_ofColumns {raw : RawRow} :
    name ∈ (ofColumns raw).columns ↔ name ∈ raw.names := by
  induction raw using List.reverseRecOn with
  | nil => exact Iff.rfl
  | append_singleton raw e ih =>
    obtain ⟨n, w⟩ := e
    have hname : RawRow.names [(n, w)] = [n] := rfl
    rw [ofColumns_append_singleton, columns_put, RawRow.names_append, hname, List.mem_append, ← ih,
      List.mem_singleton]
    by_cases h : n ∈ (ofColumns raw).columns
    · rw [if_pos h, iff_self_or]
      rintro rfl
      exact h
    · rw [if_neg h, List.mem_append, List.mem_singleton]

/-- A column comes before another one if it occurs for the first time before it. -/
theorem pairwise_columns_ofColumns (raw : RawRow) :
    (ofColumns raw).columns.Pairwise fun c c' ↦ raw.names.idxOf c < raw.names.idxOf c' := by
  induction raw using List.reverseRecOn with
  | nil => exact .nil
  | append_singleton raw e ih =>
    obtain ⟨n, w⟩ := e
    have hnames : RawRow.names (raw ++ [(n, w)]) = RawRow.names raw ++ [n] :=
      RawRow.names_append raw _
    have hkept {c : String} (h : c ∈ (ofColumns raw).columns) :
        (RawRow.names raw ++ [n]).idxOf c = (RawRow.names raw).idxOf c :=
      List.idxOf_append_of_mem (mem_columns_ofColumns.mp h)
    have hold : (ofColumns raw).columns.Pairwise fun c c' ↦
        (RawRow.names raw ++ [n]).idxOf c < (RawRow.names raw ++ [n]).idxOf c' := by
      refine ih.imp_of_mem fun {c c'} hc hc' hlt ↦ ?_
      rwa [hkept hc, hkept hc']
    rw [ofColumns_append_singleton, columns_put, hnames]
    by_cases h : n ∈ (ofColumns raw).columns
    · rwa [if_pos h]
    · -- the new column stands behind all pairs, the others stand among them
      rw [if_neg h, List.pairwise_append]
      refine ⟨hold, List.pairwise_singleton _ _, ?_⟩
      intro c hc c' hc'
      rw [List.mem_singleton] at hc'
      subst hc'
      have hnew : c' ∉ RawRow.names raw := fun hmem ↦ h (mem_columns_ofColumns.mpr hmem)
      rw [hkept hc, List.idxOf_append_of_notMem hnew]
      exact Nat.lt_add_right _ (List.idxOf_lt_length_iff.mpr (mem_columns_ofColumns.mp hc))

/-! ## Building a row again -/

theorem entries_ofColumns_of_nodup {raw : RawRow} (h : raw.names.Nodup) :
    (ofColumns raw).entries = raw := by
  induction raw using List.reverseRecOn with
  | nil => rfl
  | append_singleton raw e ih =>
    obtain ⟨n, w⟩ := e
    rw [RawRow.names_append, List.nodup_append] at h
    obtain ⟨hraw, -, hnew⟩ := h
    have hfresh : n ∉ RawRow.names raw := fun hmem ↦ hnew n hmem n List.mem_cons_self rfl
    rw [ofColumns_append_singleton, entries_put, ih hraw]
    exact RawRow.put_of_notMem hfresh

theorem ofColumns_entries (r : Row) : ofColumns r.entries = r :=
  eq_of_entries (entries_ofColumns_of_nodup r.nodup)

/-! ## What a row is -/

/-- All that can be asked of a row about a column is told by what is found under its name. -/
structure Agrees (r : Row) (c : String) : Prop where
  contains : r.contains c = (r.get? c).isSome
  isNull : r.isNull c = true ↔ r.get? c = some .null
  int64 : ∀ n, r.getInt64? c = some n ↔ ∃ v, r.get? c = some v ∧ v.asInt64? = some n
  double : ∀ x, r.getDouble? c = some x ↔ ∃ v, r.get? c = some v ∧ v.asDouble? = some x
  string : ∀ s, r.getString? c = some s ↔ ∃ v, r.get? c = some v ∧ v.asString? = some s
  bool : ∀ b, r.getBool? c = some b ↔ ∃ v, r.get? c = some v ∧ v.asBool? = some b

theorem agrees (r : Row) (c : String) : r.Agrees c where
  contains := r.contains_eq c
  isNull := beq_iff_eq
  int64 _ := Option.bind_eq_some_iff
  double _ := Option.bind_eq_some_iff
  string _ := Option.bind_eq_some_iff
  bool _ := Option.bind_eq_some_iff

/-- **The first pair decides on the place of a column, and the last one on its value.** -/
theorem ofColumns_exact (raw : RawRow) :
    let r := ofColumns raw
    (r.columns.Nodup ∧ (∀ c, c ∈ r.columns ↔ c ∈ raw.names) ∧
      r.columns.Pairwise fun c c' ↦ raw.names.idxOf c < raw.names.idxOf c') ∧
    (∀ c v, r.get? c = some v ↔ raw.IsLast c v) ∧
    (∀ c, r.get? c = none ↔ c ∉ raw.names) ∧
    r.entries.map (fun e ↦ (e.1, some e.2)) = r.columns.map (fun c ↦ (c, r.get? c)) ∧
    (∀ c, r.Agrees c) ∧
    ofColumns r.entries = r := by
  intro r
  refine ⟨⟨r.nodup, fun _ ↦ mem_columns_ofColumns, pairwise_columns_ofColumns raw⟩, ?_, ?_,
    r.entries_eq_get?, r.agrees, r.ofColumns_entries⟩
  · intro c v
    rw [RawRow.isLast_iff, ← get?_ofColumns]
  · intro c
    rw [← mem_columns_ofColumns, mem_columns_iff, Option.not_isSome_iff_eq_none]

/-- The second value of `a` is put in the place of the first, and `A` is another column. -/
example :
    (ofColumns [("a", .int32 1), ("b", .null), ("a", .int32 2), ("A", .int32 3)]).entries =
      [("a", .int32 2), ("b", .null), ("A", .int32 3)] :=
  rfl

end Row

end QueryChain
