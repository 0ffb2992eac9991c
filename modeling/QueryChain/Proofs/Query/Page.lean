import QueryChain.Query.Page

/-!
# The rows of a page

A page is applied in two ways. The database leaves out rows and keeps rows, and a count that was
made without the page is corrected by arithmetic on clamped 64-bit numbers. Here both are read as
integers: `Page.restrict` is the page of a list of rows, and `Page.toInt_adjustCount` says that the
correction is the exact one, with no trace of the clamping. So they agree on every list that can be
counted at all.
-/

namespace QueryChain

/-! ## Arithmetic that stops at the ends -/

theorem toInt_max (a b : Int64) : (max a b).toInt = max a.toInt b.toInt := by
  have hmax : max a b = if a ≤ b then b else a := rfl
  rw [hmax]
  by_cases h : a ≤ b
  · rw [if_pos h, Int.max_eq_right (Int64.le_iff_toInt_le.mp h)]
  · rw [if_neg h, Int.max_eq_left]
    rw [Int64.le_iff_toInt_le] at h
    omega

theorem toInt_min (a b : Int64) : (min a b).toInt = min a.toInt b.toInt := by
  have hmin : min a b = if a ≤ b then a else b := rfl
  rw [hmin]
  by_cases h : a ≤ b
  · rw [if_pos h, Int.min_eq_left (Int64.le_iff_toInt_le.mp h)]
  · rw [if_neg h, Int.min_eq_right]
    rw [Int64.le_iff_toInt_le] at h
    omega

theorem toNat_saturatingAdd (a b : UInt64) :
    (saturatingAdd a b).toNat = min (a.toNat + b.toNat) (UInt64.size - 1) := by
  have hlt : min (a.toNat + b.toNat) (UInt64.size - 1) < UInt64.size := by
    have hsize : UInt64.size = 2 ^ 64 := rfl
    omega
  exact UInt64.toNat_ofNat_of_lt hlt

theorem toInt_saturatingSub (a b : Int64) :
    (saturatingSub a b).toInt =
      max Int64.minValue.toInt (min (a.toInt - b.toInt) Int64.maxValue.toInt) := by
  have hmin := Int64.toInt_minValue
  have hmax := Int64.toInt_maxValue
  rw [saturatingSub, Int64.toInt_ofInt_of_le]
  · omega
  · omega

theorem toInt_clampSigned (n : UInt64) :
    (clampSigned n).toInt = min (n.toNat : Int) Int64.maxValue.toInt := by
  have hlargest : Int64.maxValue.toUInt64.toNat = 2 ^ 63 - 1 := by decide
  have hmax := Int64.toInt_maxValue
  rw [clampSigned]
  by_cases h : n ≤ Int64.maxValue.toUInt64
  · rw [if_pos h]
    rw [UInt64.le_iff_toNat_le, hlargest] at h
    have hbits : n.toInt64.toInt = n.toBitVec.toInt := rfl
    have hnat : n.toBitVec.toNat = n.toNat := rfl
    rw [hbits, BitVec.toInt_eq_toNat_of_lt (by omega), hnat]
    omega
  · rw [if_neg h]
    rw [UInt64.le_iff_toNat_le, hlargest] at h
    omega

namespace Page

variable {ρ : Type}

/-- The rows of the page among all rows. -/
def restrict (page : Page) (rows : List ρ) : List ρ :=
  let rest := rows.drop (page.skip.getD 0).toNat
  match page.take with
  | some n => rest.take n.toNat
  | none => rest

/-- **The correction of a count is exact.** Nothing of the clamped arithmetic is left in it. -/
theorem toInt_adjustCount (page : Page) (count : Int64) :
    (page.adjustCount count).toInt =
      let rest := max (count.toInt - (page.skip.getD 0).toNat) 0
      match page.take with
      | some n => min rest n.toNat
      | none => rest := by
  have hskip : ((page.skip.map clampSigned).getD 0).toInt =
      min ((page.skip.getD 0).toNat : Int) Int64.maxValue.toInt := by
    cases page.skip with
    | none => rfl
    | some n => exact toInt_clampSigned n
  have hmin := Int64.toInt_minValue
  have hmax := Int64.toInt_maxValue
  have hcount := count.toInt_le
  have hskipped : (max (saturatingSub count ((page.skip.map clampSigned).getD 0)) 0).toInt =
      max (count.toInt - (page.skip.getD 0).toNat) 0 := by
    rw [toInt_max, toInt_saturatingSub, hskip, Int64.toInt_zero]
    omega
  rw [adjustCount]
  cases page.take with
  | none => exact hskipped
  | some n =>
    dsimp only
    rw [toInt_min, hskipped, toInt_clampSigned]
    omega

/-- The corrected count is the number of rows on the page. -/
theorem toInt_adjustCount_length (page : Page) {rows : List ρ} {count : Int64}
    (h : count.toInt = rows.length) :
    (page.adjustCount count).toInt = (page.restrict rows).length := by
  rw [toInt_adjustCount, h, restrict]
  cases page.take with
  | none =>
    dsimp only
    rw [List.length_drop]
    omega
  | some n =>
    dsimp only
    rw [List.length_take, List.length_drop]
    omega

end Page

theorem Query.page_append (q : Query) (op : Operator) :
    Page.ofQuery (q.append op) = (Page.ofQuery q).apply op := by
  rw [Page.ofQuery, operators_append, Page.ofOperators, List.foldl_append]
  rfl

end QueryChain
