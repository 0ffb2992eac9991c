import QueryChain.Value.Json

/-!
# Rows

A row maps column names to values and remembers the order of the columns. A column that was not
selected is absent, which is not the same as a column that holds `NULL`. Of two values for one name
the later one counts, in the place of the earlier one.
-/

namespace QueryChain

/-- The columns of a row as they come from the database, with possible repetitions. -/
abbrev RawRow := List (String × Value)

namespace RawRow

/-- Sets the value of a column: in its place if there is one, at the end otherwise. -/
def put (name : String) (v : Value) : RawRow → RawRow
  | [] => [(name, v)]
  | (n, w) :: rest => if n = name then (n, v) :: rest else (n, w) :: put name v rest

/-- The names of the columns. -/
def names (raw : RawRow) : List String := raw.map Prod.fst

theorem names_put (name : String) (v : Value) (raw : RawRow) :
    names (put name v raw) = if name ∈ names raw then names raw else names raw ++ [name] := by
  induction raw with
  | nil => rfl
  | cons e rest ih =>
    obtain ⟨n, w⟩ := e
    by_cases h : n = name
    · subst h
      simp [put, names]
    · simp only [put, if_neg h, names, List.map_cons, List.mem_cons] at ih ⊢
      rw [ih]
      have hne : ¬name = n := fun hc ↦ h hc.symm
      by_cases hm : name ∈ rest.map Prod.fst <;> simp [hm, hne]

theorem nodup_names_put (name : String) (v : Value) {raw : RawRow} (h : raw.names.Nodup) :
    (put name v raw).names.Nodup := by
  rw [names_put]
  split
  · exact h
  · next hm =>
    refine List.nodup_append.mpr ⟨h, by simp, ?_⟩
    rintro a ha b hb rfl
    exact hm (List.mem_singleton.mp hb ▸ ha)

end RawRow

/-- A record whose columns have different names. -/
structure Row where
  entries : RawRow
  nodup : entries.names.Nodup
deriving DecidableEq

namespace Row

/-- The row without columns. -/
def empty : Row := ⟨[], List.nodup_nil⟩

/-- The row in which one column was set. -/
def put (r : Row) (name : String) (v : Value) : Row :=
  ⟨r.entries.put name v, r.entries.nodup_names_put name v r.nodup⟩

/-- The row with the given columns, set one after the other. -/
def ofColumns (raw : RawRow) : Row := raw.foldl (fun r e ↦ r.put e.1 e.2) empty

/-- The names of the columns in order. -/
def columns (r : Row) : List String := r.entries.names

def size (r : Row) : Nat := r.entries.length

def isEmpty (r : Row) : Bool := r.entries.isEmpty

/-- The value of a column; names are compared with regard to case. -/
def get? (r : Row) (name : String) : Option Value := r.entries.lookup name

def contains (r : Row) (name : String) : Bool := r.entries.any fun e ↦ e.1 == name

/-- The column is there and holds `NULL`. -/
def isNull (r : Row) (name : String) : Bool := r.get? name == some .null

def getInt64? (r : Row) (name : String) : Option Int64 := (r.get? name).bind Value.asInt64?

def getDouble? (r : Row) (name : String) : Option Double := (r.get? name).bind Value.asDouble?

def getString? (r : Row) (name : String) : Option String := (r.get? name).bind Value.asString?

def getBool? (r : Row) (name : String) : Option Bool := (r.get? name).bind Value.asBool?

/-- The row as a JSON object, in which the columns are ordered by name. -/
def toJson (r : Row) : Json := .ofEntries (r.entries.map fun e ↦ (e.1, e.2.toJson))

/-- The text of a row: its columns in order, between braces. -/
def text (r : Row) : String :=
  "\x7b " ++ ", ".intercalate (r.entries.map fun e ↦ e.1 ++ ": " ++ e.2.text) ++ " \x7d"

/-- The row of a result that may have one row at most. -/
def single? (rows : List Row) : Except Error (Option Row) :=
  match rows with
  | [] => .ok none
  | [r] => .ok (some r)
  | rows => .error (.cardinality 1 rows.length)

end Row

end QueryChain
