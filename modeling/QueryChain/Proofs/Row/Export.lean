import Mathlib.Data.List.Basic
import Mathlib.Data.String.Basic
import QueryChain.Proofs.Row.Columns

/-!
# The order of an exported row

A JSON object is built by putting its entries one by one into a list that is ordered by key. Two
facts about one such step carry the whole build: a new key adds an entry and takes none away, and a
list whose keys ascend stays one.

The columns of a row have different names, so nothing is lost on the way: the object has one entry
for each column, with the value of that column in its JSON form. What is lost is the order of the
columns. The entries come out by name, and `Row.exportsInOrder_iff` says that this is the order of
the columns exactly if their names ascend.
-/

namespace QueryChain

namespace Json

variable {key : String} {value : Json} {entries sorted : List (String × Json)}

/-- Every key is below the keys behind it. -/
def KeysAscend (entries : List (String × Json)) : Prop := entries.Pairwise fun e e' ↦ e.1 < e'.1

/-- A new key adds its entry to those that are there. -/
theorem insertEntry_perm (h : key ∉ entries.map Prod.fst) :
    (insertEntry key value entries).Perm ((key, value) :: entries) := by
  induction entries with
  | nil => exact .refl _
  | cons e rest ih =>
    obtain ⟨k, v⟩ := e
    rw [List.map_cons, List.mem_cons, not_or] at h
    rw [insertEntry]
    split
    · exact .refl _
    · rw [if_neg h.1]
      exact ((ih h.2).cons _).trans (.swap _ _ _)

theorem fst_of_mem_insertEntry {e : String × Json} (h : e ∈ insertEntry key value entries) :
    e.1 = key ∨ e ∈ entries := by
  induction entries with
  | nil => exact .inl (congrArg Prod.fst (List.mem_singleton.mp h))
  | cons e' rest ih =>
    obtain ⟨k, v⟩ := e'
    rw [insertEntry] at h
    split at h
    · exact (List.mem_cons.mp h).imp_left (congrArg Prod.fst)
    · split at h
      · exact (List.mem_cons.mp h).imp (congrArg Prod.fst) (List.mem_cons_of_mem _)
      · rcases List.mem_cons.mp h with rfl | hrest
        · exact .inr List.mem_cons_self
        · exact (ih hrest).imp_right (List.mem_cons_of_mem _)

theorem keysAscend_insertEntry (h : KeysAscend entries) :
    KeysAscend (insertEntry key value entries) := by
  induction entries with
  | nil => exact List.pairwise_singleton _ _
  | cons e rest ih =>
    obtain ⟨k, v⟩ := e
    obtain ⟨hk, hrest⟩ := List.pairwise_cons.mp h
    rw [insertEntry]
    split
    · next hlt =>
      refine List.pairwise_cons.mpr ⟨List.forall_mem_cons.mpr ⟨hlt, fun e he ↦ ?_⟩, h⟩
      exact hlt.trans (hk e he)
    · next hle =>
      split
      · next heq =>
        subst heq
        exact List.pairwise_cons.mpr ⟨hk, hrest⟩
      · next hne =>
        refine List.pairwise_cons.mpr ⟨fun e he ↦ ?_, ih hrest⟩
        rcases fst_of_mem_insertEntry he with hkey | hmem
        · rw [hkey]
          exact lt_of_le_of_ne (not_lt.mp hle) (Ne.symm hne)
        · exact hk e hmem

/-- An object with different keys has just the given entries, ordered by key. -/
theorem exists_ofEntries (h : (entries.map Prod.fst).Nodup) :
    ∃ sorted, ofEntries entries = .object sorted ∧ sorted.Perm entries ∧ KeysAscend sorted := by
  refine ⟨_, rfl, ?_⟩
  -- The entries are put in from the first to the last, so the induction takes them from the end.
  induction entries using List.reverseRecOn with
  | nil => exact ⟨.refl _, .nil⟩
  | append_singleton rest e ih =>
    rw [List.map_append, List.nodup_append] at h
    obtain ⟨hrest, -, hnew⟩ := h
    obtain ⟨hperm, hascend⟩ := ih hrest
    rw [List.foldl_append]
    refine ⟨?_, keysAscend_insertEntry hascend⟩
    have hfresh : e.1 ∉ rest.map Prod.fst := fun hmem ↦ hnew e.1 hmem e.1 List.mem_cons_self rfl
    have hinsert : (insertEntry e.1 e.2 _).Perm _ :=
      insertEntry_perm (mt (hperm.map Prod.fst).mem_iff.mp hfresh)
    exact (hinsert.trans (hperm.cons e)).trans (List.perm_append_singleton e rest).symm

/-- Only one order of entries has ascending keys. -/
theorem KeysAscend.eq_of_perm (hs : KeysAscend sorted) (he : KeysAscend entries)
    (h : sorted.Perm entries) : sorted = entries :=
  h.eq_of_pairwise (fun _ _ _ _ hlt hgt ↦ absurd hlt hgt.asymm) hs he

end Json

namespace Row

/-- The columns of a row in their order, with their values in JSON form. -/
def jsonEntries (r : Row) : List (String × Json) := r.entries.map fun e ↦ (e.1, e.2.toJson)

/-- The object of a row has one entry for each column, in the order of the columns. -/
def ExportsInOrder (r : Row) : Prop := r.toJson = .object r.jsonEntries

theorem map_fst_jsonEntries (r : Row) : r.jsonEntries.map Prod.fst = r.columns := by
  rw [jsonEntries, List.map_map]
  rfl

theorem keysAscend_jsonEntries_iff (r : Row) :
    Json.KeysAscend r.jsonEntries ↔ r.columns.Pairwise (· < ·) := by
  rw [← map_fst_jsonEntries, List.pairwise_map]
  rfl

/-- The object of a row has the entries of the row, by name. -/
theorem exists_toJson (r : Row) :
    ∃ sorted, r.toJson = .object sorted ∧ sorted.Perm r.jsonEntries ∧ Json.KeysAscend sorted :=
  Json.exists_ofEntries (r.map_fst_jsonEntries ▸ r.nodup)

theorem exportsInOrder_of_ascend {r : Row} (h : r.columns.Pairwise (· < ·)) : r.ExportsInOrder := by
  obtain ⟨sorted, hjson, hperm, hascend⟩ := r.exists_toJson
  rw [ExportsInOrder, hjson, hascend.eq_of_perm (r.keysAscend_jsonEntries_iff.mpr h) hperm]

theorem ExportsInOrder.ascend {r : Row} (h : r.ExportsInOrder) : r.columns.Pairwise (· < ·) := by
  obtain ⟨sorted, hjson, -, hascend⟩ := r.exists_toJson
  have hsame : sorted = r.jsonEntries := Json.object.inj (hjson.symm.trans h)
  rwa [← keysAscend_jsonEntries_iff, ← hsame]

/-- **An exported row has one entry for each column, with its value, and the entries are ordered by
name.** This is the order of the columns exactly if their names ascend. -/
theorem exportsInOrder_iff (r : Row) :
    (∃ sorted, r.toJson = .object sorted ∧ sorted.Perm r.jsonEntries ∧ Json.KeysAscend sorted) ∧
      (r.ExportsInOrder ↔ r.columns.Pairwise (· < ·)) :=
  ⟨r.exists_toJson, ExportsInOrder.ascend, exportsInOrder_of_ascend⟩

/-- The column `B` comes first in the row and last in its object. -/
theorem not_exportsInOrder_descending :
    let r := ofColumns [("B", .int32 1), ("A", .int32 2)]
    r.columns = ["B", "A"] ∧ r.jsonEntries = [("B", .integer 1), ("A", .integer 2)] ∧
      r.toJson = .object [("A", .integer 2), ("B", .integer 1)] ∧ ¬r.ExportsInOrder := by
  refine ⟨rfl, rfl, rfl, fun h ↦ ?_⟩
  have hlt := List.rel_of_pairwise_cons h.ascend (List.mem_singleton_self "A")
  exact absurd hlt (by decide)

end Row

end QueryChain
