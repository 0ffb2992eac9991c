import QueryChain.CommandLine.Style
import QueryChain.Row.Basic
import QueryChain.Text.Bytes

/-!
# Listings

Rows are listed as a table or as JSON. The columns of a table are those of its first row. A column
is as wide as the longest of its texts has bytes, and texts are filled up with blanks to that many
characters. No text has more characters than bytes, so every text fits and the columns are aligned.
-/

namespace QueryChain.CommandLine

/-- A line and its end. -/
def line (text : String) : String := text ++ "\n"

/-! ## Tables -/

/-- The text of a value in a table: strings stand without quotes. -/
def cellText : Value → String
  | .string s => s
  | v => v.text

/-- The text of a column in a row; without the column it is empty. -/
def cell (column : String) (r : Row) : String := ((r.get? column).map cellText).getD ""

/-- The width of a column. -/
def columnWidth (rows : List Row) (column : String) : Nat :=
  ((column :: rows.map (cell column)).map fun text ↦ Text.byteLength text.toList).foldl max 0

/-- A text filled up with blanks. -/
def pad (width : Nat) (text : String) : String :=
  text ++ String.ofList (List.replicate (width - text.toList.length) ' ')

/-- The line between the header and the rows, over one column. -/
def rule (width : Nat) : String := String.ofList (List.replicate width '─')

/-- Rows arranged in columns, each with its width. -/
structure Table where
  columns : List (String × Nat)
  rows : List Row

namespace Table

/-- The table of rows with the columns of the first one. -/
def ofRows (rows : List Row) : Table where
  columns := ((rows.head?.map Row.columns).getD []).map fun c ↦ (c, columnWidth rows c)
  rows

def header (t : Table) : String := " │ ".intercalate (t.columns.map fun c ↦ pad c.2 c.1)

def separator (t : Table) : String := "─┼─".intercalate (t.columns.map fun c ↦ rule c.2)

def rowLine (t : Table) (r : Row) : String :=
  " │ ".intercalate (t.columns.map fun c ↦ pad c.2 (cell c.1 r))

/-- The lines of a table, and how many rows it has. -/
def text (colored : Bool) (t : Table) : String :=
  line ((Style.bold.and .white).paint colored t.header) ++
    line (Style.dimmed.paint colored t.separator) ++
    String.join (t.rows.map fun r ↦ line (t.rowLine r)) ++
    line "" ++
    line (Style.cyan.paint colored (toString t.rows.length) ++ " row(s) returned")

end Table

/-! ## Results -/

/-- How rows are printed. -/
inductive Format
  | table
  | json
deriving DecidableEq

namespace Format

/-- The format with the given name. -/
def ofName? (s : String) : Option Format :=
  if s = "table" then some table else if s = "json" then some json else none

/-- The text of a result in a format. -/
def text (f : Format) (colored : Bool) (rows : List Row) : String :=
  if rows.isEmpty then line (Style.dimmed.paint colored "(no results)")
  else
    match f with
    | table => (Table.ofRows rows).text colored
    | json => line ((Json.array (rows.map Row.toJson)).pretty 0)

section

variable (f : Format) (colored : Bool) (r : Row) (rs : List Row)

theorem text_nil : f.text colored [] = line (Style.dimmed.paint colored "(no results)") := rfl

/-- The text of rows as a table has a line for every row. -/
theorem text_table_cons :
    table.text colored (r :: rs) = (Table.ofRows (r :: rs)).text colored := rfl

/-- The text of rows as JSON is one array of objects. -/
theorem text_json_cons :
    json.text colored (r :: rs) = line ((Json.array ((r :: rs).map Row.toJson)).pretty 0) := rfl

end

end Format

end QueryChain.CommandLine
