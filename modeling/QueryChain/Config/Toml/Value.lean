/-!
# Values in TOML

The settings need strings, integers and tables, and an array only as a mark for nothing. These are
the values here; a text with any other value in it holds something that is no setting.

Tables remember how they came about, because that decides what may still be added to them. A table
in braces is complete as it stands. The other kinds grow line by line: a table whose header was
read, one that is only implied by the header of a table inside it, and one that a dotted key brought
about.
-/

namespace QueryChain.Toml

/-- How a table came about. -/
inductive Origin
  /-- It stands in braces. -/
  | inline
  /-- It is named by a key in front of the last point of a dotted key. -/
  | dotted
  /-- It is named in the header of a table inside it. -/
  | implied
  /-- It has a header. -/
  | header
deriving DecidableEq

/-- A value that settings can be made of. -/
inductive Value
  | string (s : String)
  | integer (n : Int)
  | emptyArray
  | table (origin : Origin) (entries : List (String × Value))

/-- The values of a table by key, in the order in which they were set. -/
abbrev Entries := List (String × Value)

/-- The value is an array or a table with nothing in it. -/
def Value.isEmpty : Value → Bool
  | emptyArray => true
  | table _ entries => entries.isEmpty
  | _ => false

end QueryChain.Toml
