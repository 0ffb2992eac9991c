import Mathlib.Order.Lattice
import QueryChain.Execution.Context
import QueryChain.Proofs.Query.Extension

/-!
# The tally of a page

A count is made without the page and corrected afterwards, in 64-bit numbers that stop at their
ends: the skips are summed as unsigned numbers, the sum and the smallest take become signed ones,
and the difference of the count and the sum may stop as well. Here the skips and takes of a chain
are read off as numbers without bounds. The sum stops only where it is larger than any count, so
the corrected count is what these numbers give, whatever the chain.
-/

namespace QueryChain

namespace Operator

/-- How many rows an operator leaves out. -/
def skipped : Operator → Nat
  | skip n => n.toNat
  | _ => 0

/-- How many rows an operator keeps at most, if it limits them. -/
def kept? : Operator → Option Nat
  | take n => some n.toNat
  | _ => none

/-- The exact sum of the skips. -/
def totalSkipped (ops : List Operator) : Nat := ops.foldr (fun op n ↦ op.skipped + n) 0

/-- The smallest take. -/
def leastKept? (ops : List Operator) : Option Nat := (ops.filterMap kept?).min?

theorem totalSkipped_cons (op : Operator) (ops : List Operator) :
    totalSkipped (op :: ops) = op.skipped + totalSkipped ops := rfl

theorem leastKept?_cons (op : Operator) (ops : List Operator) :
    leastKept? (op :: ops) = op.kept?.merge min (leastKept? ops) := by
  rw [leastKept?, List.filterMap_cons, leastKept?]
  rcases op.kept? with _ | n
  · exact Option.merge_none_left.symm
  · rw [List.min?_cons]
    rcases (ops.filterMap kept?).min? with _ | m <;> rfl

end Operator

open Operator

namespace Page

theorem ofOperators_cons (op : Operator) (ops : List Operator) :
    ofOperators (op :: ops) = (ofOperators [op]).append (ofOperators ops) :=
  ofOperators_append [op] ops

/-- A sum that stops is the exact sum, cut off; a limit that is absent counts as zero. -/
theorem toNat_merge_saturatingAdd (m n : Option UInt64) :
    ((m.merge saturatingAdd n).getD 0).toNat =
      min ((m.getD 0).toNat + (n.getD 0).toNat) (UInt64.size - 1) := by
  have hm := (m.getD 0).toNat_lt_size
  have hn := (n.getD 0).toNat_lt_size
  rcases m with _ | m <;> rcases n with _ | n <;>
    simp only [Option.merge, Option.getD, toNat_saturatingAdd, UInt64.toNat_zero] at * <;> omega

theorem map_toNat_merge_min (m n : Option UInt64) :
    (m.merge min n).map UInt64.toNat = (m.map UInt64.toNat).merge min (n.map UInt64.toNat) := by
  rcases m with _ | m <;> rcases n with _ | n
  · rfl
  · rfl
  · rfl
  · exact congrArg some (UInt64.toNat_min m n)

/-- The sum of the skips stops at the largest 64-bit number, wherever in the chain it gets there. -/
theorem toNat_skip_ofOperators (ops : List Operator) :
    ((ofOperators ops).skip.getD 0).toNat = min (totalSkipped ops) (UInt64.size - 1) := by
  induction ops with
  | nil => rfl
  | cons op ops ih =>
    have hop : ((ofOperators [op]).skip.getD 0).toNat = op.skipped := by
      cases op with
      | skip n => exact congrArg UInt64.toNat (zero_saturatingAdd n)
      | _ => rfl
    rw [ofOperators_cons, append, toNat_merge_saturatingAdd, hop, ih, totalSkipped_cons]
    omega

/-- The take of a chain is the smallest of its takes. -/
theorem take_ofOperators (ops : List Operator) :
    (ofOperators ops).take.map UInt64.toNat = leastKept? ops := by
  induction ops with
  | nil => rfl
  | cons op ops ih =>
    have hop : (ofOperators [op]).take.map UInt64.toNat = op.kept? := by
      cases op <;> rfl
    rw [ofOperators_cons, leastKept?_cons, ← hop, ← ih, append, map_toNat_merge_min]

/-- The tally of a chain for so many rows, in numbers without bounds. -/
def tally (ops : List Operator) (count : Int) : Int :=
  let rest := max (count - totalSkipped ops) 0
  match leastKept? ops with
  | some n => min rest n
  | none => rest

variable {ops : List Operator} {count count' : Int}

theorem tally_nonneg : 0 ≤ tally ops count := by
  rw [tally]
  rcases leastKept? ops with _ | n <;> dsimp only <;> omega

theorem tally_le : tally ops count ≤ max count 0 := by
  rw [tally]
  rcases leastKept? ops with _ | n <;> dsimp only <;> omega

theorem tally_mono (h : count ≤ count') : tally ops count ≤ tally ops count' := by
  rw [tally, tally]
  rcases leastKept? ops with _ | n <;> dsimp only <;> omega

/-- Where the sum of the skips stops, no count is left. -/
theorem toInt_adjustCount_ofOperators (ops : List Operator) (count : Int64) :
    ((ofOperators ops).adjustCount count).toInt = tally ops count.toInt := by
  have hlt := count.toInt_lt
  have hrest : max (count.toInt - ((ofOperators ops).skip.getD 0).toNat) 0 =
      max (count.toInt - totalSkipped ops) 0 := by
    have hsize : UInt64.size = 2 ^ 64 := rfl
    rw [toNat_skip_ofOperators]
    omega
  rw [toInt_adjustCount, tally, ← take_ofOperators, hrest]
  rcases (ofOperators ops).take with _ | n <;> rfl

/-- **The correction of a count is exact for every chain.** However large the skips and takes are,
also where their sum passes every 64-bit number and where the count is negative, the corrected count
is the tally in numbers without bounds. So it is no less than zero, no more than the count itself
unless that is negative, and it grows with the count. The total that a query reports is corrected in
this way. -/
theorem adjustCount_exact (ops : List Operator) (count : Int64) :
    let counted := (ofOperators ops).adjustCount
    (counted count).toInt = tally ops count.toInt ∧
    0 ≤ (counted count).toInt ∧ (counted count).toInt ≤ max count.toInt 0 ∧
    (∀ count', count ≤ count' → counted count ≤ counted count') ∧
    ∀ source total, total.asInt64? = some count →
      Query.adjustedCount ⟨source, ops⟩ total = .ok (counted count) := by
  intro counted
  have hcounted (n : Int64) : (counted n).toInt = tally ops n.toInt :=
    toInt_adjustCount_ofOperators ops n
  refine ⟨hcounted count, ?_, ?_, ?_, ?_⟩
  · rw [hcounted]
    exact tally_nonneg
  · rw [hcounted]
    exact tally_le
  · intro count' h
    rw [Int64.le_iff_toInt_le, hcounted, hcounted]
    exact tally_mono (Int64.le_iff_toInt_le.mp h)
  · intro source total htotal
    rw [Query.adjustedCount, htotal]
    rfl

/-- Two skips whose sum is no 64-bit number, a count that is smaller than the largest skip, and a
chain of takes. -/
theorem adjustCount_exact_overflow :
    let ops : List Operator := [.skip (UInt64.ofNat (UInt64.size - 1)), .take 7,
      .orderBy (.member "A") .asc, .skip 1, .take 5]
    let count := Int64.maxValue
    Int64.minValue ≤ count ∧
      (ofOperators ops).adjustCount Int64.minValue ≤ (ofOperators ops).adjustCount count ∧
      ((ofOperators ops).adjustCount count).toInt = 0 ∧
      Value.asInt64? (.int64 count) = some count ∧
      Query.adjustedCount ⟨.table "T", ops⟩ (.int64 count) = .ok 0 := by
  intro ops count
  obtain ⟨hexact, -, -, -, htotal⟩ := adjustCount_exact ops count
  obtain ⟨-, -, -, hmono, -⟩ := adjustCount_exact ops Int64.minValue
  have hle : Int64.minValue ≤ count := by decide
  have hcount : Value.asInt64? (.int64 count) = some count := rfl
  have hzero : tally ops count.toInt = 0 := by decide
  refine ⟨hle, hmono count hle, hexact.trans hzero, hcount, ?_⟩
  rw [htotal (.table "T") (.int64 count) hcount]
  decide

end Page

end QueryChain
