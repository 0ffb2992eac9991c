import QueryChain.Proofs.Query.Page
import QueryChain.Query.OrderKeys

/-!
# Extended chains

A query is continued by more operators, and one base query is continued in several directions. What
the longer chain asks for is known from its two parts, wherever it is cut: an ordering that starts
over discards the keys of the first part, and one that does not adds its keys to them; the columns
named last count; skips are summed and the smallest take counts. The page of the longer chain is
joined of two pages by `Page.append`, which is associative, so that it does not matter where the
chain is cut.

A key that is no member spoils the whole chain, also where a later ordering discards it.
-/

namespace QueryChain

/-! ## Orderings -/

namespace Operator

/-- The operator starts a new ordering. -/
def isOrderBy : Operator → Bool
  | orderBy .. => true
  | _ => false

/-- The operator has no key, or its key is a member. -/
def ordersByMember : Operator → Bool
  | orderBy key _ | thenBy key _ => key.asMember?.isSome
  | _ => true

/-- The member by which an operator orders, with its direction. -/
def sortKey? : Operator → Option (String × Direction)
  | orderBy key direction | thenBy key direction => key.asMember?.map (·, direction)
  | _ => none

/-- The operators from the last one on that starts an ordering; all of them if none does. -/
def sinceOrderBy : List Operator → List Operator
  | [] => []
  | op :: ops => if ops.any isOrderBy then sinceOrderBy ops else op :: ops

/-- The keys of the operators that are in force, in the order of the calls. -/
def sortKeys (ops : List Operator) : List (String × Direction) :=
  (sinceOrderBy ops).filterMap sortKey?

variable {ops : List Operator}

theorem sinceOrderBy_of_not_any (h : ¬ops.any isOrderBy) : sinceOrderBy ops = ops := by
  cases ops with
  | nil => rfl
  | cons op ops =>
    rw [List.any_cons, Bool.or_eq_true, not_or] at h
    rw [sinceOrderBy, if_neg h.2]

theorem sinceOrderBy_append (a b : List Operator) :
    sinceOrderBy (a ++ b) = if b.any isOrderBy then sinceOrderBy b else sinceOrderBy a ++ b := by
  induction a with
  | nil =>
    by_cases hb : b.any isOrderBy
    · rw [if_pos hb, List.nil_append]
    · rw [if_neg hb, List.nil_append, sinceOrderBy_of_not_any hb]
      rfl
  | cons op a ih =>
    rw [List.cons_append, sinceOrderBy, List.any_append, ih, sinceOrderBy]
    by_cases hb : b.any isOrderBy
    · simp only [hb, Bool.or_true, if_true]
    · by_cases ha : a.any isOrderBy <;> simp [ha, hb]

theorem sortKeys_append (a b : List Operator) :
    sortKeys (a ++ b) = if b.any isOrderBy then sortKeys b else sortKeys a ++ sortKeys b := by
  rw [sortKeys, sinceOrderBy_append]
  by_cases hb : b.any isOrderBy
  · rw [if_pos hb, if_pos hb, sortKeys]
  · rw [if_neg hb, if_neg hb, List.filterMap_append, sortKeys, sortKeys,
      sinceOrderBy_of_not_any hb]

end Operator

open Operator

/-- One operator: its key replaces the keys so far or is added to them. -/
theorem orderKeysFrom_cons {op : Operator} (h : op.ordersByMember) (ops : List Operator)
    (keys : List (String × Direction)) :
    orderKeysFrom keys (op :: ops) =
      orderKeysFrom (if op.isOrderBy then op.sortKey?.toList else keys ++ op.sortKey?.toList)
        ops := by
  cases op with
  | orderBy key direction | thenBy key direction =>
    obtain ⟨name, hname⟩ := Option.isSome_iff_exists.mp h
    rw [orderKeysFrom, keyName, sortKey?, hname]
    rfl
  | _ => exact congrArg (orderKeysFrom · ops) (List.append_nil keys).symm

/-- The keys so far are kept unless an ordering starts over. -/
theorem orderKeysFrom_of_ordersByMember {ops : List Operator} (h : ∀ op ∈ ops, op.ordersByMember)
    (keys : List (String × Direction)) :
    orderKeysFrom keys ops =
      .ok (if ops.any isOrderBy then sortKeys ops else keys ++ sortKeys ops) := by
  induction ops generalizing keys with
  | nil => exact congrArg Except.ok (List.append_nil keys).symm
  | cons op ops ih =>
    rw [List.forall_mem_cons] at h
    have hcons : sortKeys (op :: ops) =
        if ops.any isOrderBy then sortKeys ops else op.sortKey?.toList ++ sortKeys ops := by
      rw [← List.singleton_append, sortKeys_append]
      rcases hkey : op.sortKey? with _ | k <;> simp [sortKeys, sinceOrderBy, hkey]
    rw [orderKeysFrom_cons h.1, ih h.2, List.any_cons, hcons]
    by_cases hany : ops.any isOrderBy
    · simp [hany]
    · by_cases hop : op.isOrderBy <;> simp [hany, hop]

theorem orderKeys_of_ordersByMember {ops : List Operator} (h : ∀ op ∈ ops, op.ordersByMember) :
    orderKeys ops = .ok (sortKeys ops) := by
  rw [orderKeys, orderKeysFrom_of_ordersByMember h, List.nil_append, ite_self]

/-- A key that is no member is met in any case. -/
theorem orderKeysFrom_of_not_ordersByMember {ops : List Operator}
    (h : ∃ op ∈ ops, ¬op.ordersByMember) (keys : List (String × Direction)) :
    orderKeysFrom keys ops = .error .orderKeyNotMember := by
  induction ops generalizing keys with
  | nil =>
    obtain ⟨op, hop, -⟩ := h
    exact absurd hop List.not_mem_nil
  | cons op ops ih =>
    by_cases hop : op.ordersByMember
    · rw [orderKeysFrom_cons hop]
      refine ih ?_ _
      simpa [hop] using h
    · cases op with
      | orderBy key direction | thenBy key direction =>
        have hnone : key.asMember? = none := Option.not_isSome_iff_eq_none.mp hop
        rw [orderKeysFrom, keyName, hnone]
        rfl
      | _ => exact absurd rfl hop

/-! ## Columns -/

/-- The columns that are named last count. -/
theorem selectedFields_append (a b : List Operator) :
    selectedFields (a ++ b) =
      if b.any (fun op ↦ op.fields?.isSome) then selectedFields b else selectedFields a := by
  have hnamed : (selectedFields b).isSome = b.any fun op ↦ op.fields?.isSome := by
    rw [Bool.eq_iff_iff, selectedFields, List.getLast?_isSome, ne_eq, List.filterMap_eq_nil_iff,
      List.any_eq_true]
    simp only [Option.isSome_iff_ne_none, Classical.not_forall, exists_prop]
  rw [← hnamed, selectedFields, List.filterMap_append, List.getLast?_append]
  change (selectedFields b).or (selectedFields a) = _
  rcases selectedFields b with _ | fields <;> rfl

/-! ## Pages -/

theorem saturatingAdd_assoc (a b c : UInt64) :
    saturatingAdd (saturatingAdd a b) c = saturatingAdd a (saturatingAdd b c) := by
  rw [← UInt64.toNat_inj]
  simp only [toNat_saturatingAdd]
  omega

theorem zero_saturatingAdd (a : UInt64) : saturatingAdd 0 a = a := by
  have hlt := a.toNat_lt_size
  rw [← UInt64.toNat_inj, toNat_saturatingAdd, UInt64.toNat_zero]
  omega

instance : Std.Associative saturatingAdd := ⟨saturatingAdd_assoc⟩

namespace Page

/-- The page of a chain that goes on with another page. A limit that only one of them has is the
limit of both. -/
def append (page next : Page) : Page :=
  ⟨page.skip.merge saturatingAdd next.skip, page.take.merge min next.take⟩

theorem append_assoc (p q r : Page) : (p.append q).append r = p.append (q.append r) := by
  simp only [append, Std.Associative.assoc]

/-- The page that limits nothing is neutral. -/
theorem append_empty (p : Page) : p.append {} = p := by
  simp only [append, Option.merge_none_right]

theorem apply_eq_append (page : Page) (op : Operator) :
    page.apply op = page.append (ofOperators [op]) := by
  cases op with
  | skip n =>
    rcases page with ⟨_ | m, take⟩ <;> simp [append, ofOperators, apply, zero_saturatingAdd]
  | take n => rcases page with ⟨skip, _ | m⟩ <;> simp [append, ofOperators, apply]
  | _ => exact page.append_empty.symm

theorem foldl_apply (page : Page) (ops : List Operator) :
    ops.foldl apply page = page.append (ofOperators ops) := by
  induction ops generalizing page with
  | nil => exact page.append_empty.symm
  | cons op ops ih =>
    rw [ofOperators, List.foldl_cons, List.foldl_cons, ih, ih (apply {} op), ← append_assoc,
      apply_eq_append]
    rfl

theorem ofOperators_append (a b : List Operator) :
    ofOperators (a ++ b) = (ofOperators a).append (ofOperators b) := by
  rw [ofOperators, List.foldl_append, ← ofOperators, foldl_apply]

end Page

/-! ## All clauses -/

/-- **The clauses of a chain are known from its parts, wherever it is cut.** A key that is no member
spoils the ordering, also where a later ordering would discard it. Without such a key, each part has
the keys that are in force in it, and the second part's alone count if it starts an ordering over.
The columns are those of the second part if it names any. Skips are summed, the smaller take counts,
and a limit that one part lacks is that of the other. -/
theorem clauses_append (a b : List Operator) :
    ((∃ op ∈ a ++ b, ¬op.ordersByMember) → orderKeys (a ++ b) = .error .orderKeyNotMember) ∧
    ((∀ op ∈ a ++ b, op.ordersByMember) →
      orderKeys a = .ok (sortKeys a) ∧ orderKeys b = .ok (sortKeys b) ∧
      orderKeys (a ++ b) =
        .ok (if b.any isOrderBy then sortKeys b else sortKeys a ++ sortKeys b)) ∧
    projectionText (selectedFields (a ++ b)) = projectionText
      (if b.any (fun op ↦ op.fields?.isSome) then selectedFields b else selectedFields a) ∧
    (Page.ofOperators (a ++ b)).skip =
      (Page.ofOperators a).skip.merge saturatingAdd (Page.ofOperators b).skip ∧
    (Page.ofOperators (a ++ b)).take =
      (Page.ofOperators a).take.merge min (Page.ofOperators b).take := by
  refine ⟨?_, ?_, ?_, ?_, ?_⟩
  · intro h
    exact orderKeysFrom_of_not_ordersByMember h []
  · intro h
    obtain ⟨ha, hb⟩ := List.forall_mem_append.mp h
    rw [← sortKeys_append]
    exact ⟨orderKeys_of_ordersByMember ha, orderKeys_of_ordersByMember hb,
      orderKeys_of_ordersByMember h⟩
  · rw [selectedFields_append]
  · rw [Page.ofOperators_append, Page.append]
  · rw [Page.ofOperators_append, Page.append]

/-- A chain that is ordered, limited and projected anew, and one whose bad key is discarded. -/
theorem clauses_append_anew :
    let a : List Operator := [.orderBy (.member "A") .desc, .thenBy (.member "B") .asc, .skip 2,
      .selectOnly ["X", "Y"], .take 9]
    let b : List Operator := [.skip (UInt64.ofNat (UInt64.size - 1)),
      .thenBy (.member "C") .asc, .orderBy (.member "D") .asc, .thenBy (.member "E") .desc]
    let c : List Operator := [.orderBy (.literal (.int32 1)) .asc]
    (∀ op ∈ a ++ b, op.ordersByMember) ∧
      orderKeys (a ++ b) = .ok [("D", .asc), ("E", .desc)] ∧
      (∃ op ∈ c ++ b, ¬op.ordersByMember) ∧ orderKeys (c ++ b) = .error .orderKeyNotMember ∧
      projectionText (selectedFields (a ++ b)) = "X, Y" ∧
      Page.ofOperators (a ++ b) = ⟨some (UInt64.ofNat (UInt64.size - 1)), some 9⟩ := by
  intro a b c
  have hmember : ∀ op ∈ a ++ b, op.ordersByMember := by decide
  have hbad : ∃ op ∈ c ++ b, ¬op.ordersByMember := by decide
  obtain ⟨-, hkeys, hcolumns, hskip, htake⟩ := clauses_append a b
  refine ⟨hmember, (hkeys hmember).2.2, hbad, (clauses_append c b).1 hbad, ?_, ?_⟩
  · rw [hcolumns]
    decide
  · rw [Page.mk.injEq]
    exact ⟨hskip, htake⟩

end QueryChain
