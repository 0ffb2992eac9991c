import QueryChain.Config.Toml.Reader

/-!
# TOML documents

A document is the table that its lines build up. Each line finds its way through the tables so far
and makes those that are missing. A header goes through every table that is not in braces; a dotted
key goes only through tables that have no header. No key is set twice, and no table has two headers.
-/

namespace QueryChain.Toml

/-- The entries with a key set: in its place if it is there, at the end otherwise. -/
def put (key : String) (v : Value) : Entries → Entries
  | [] => [(key, v)]
  | (k, w) :: rest => if k = key then (k, v) :: rest else (k, w) :: put key v rest

/-- A way through tables. -/
structure Way where
  /-- What becomes of a table that is missing on the way. -/
  missing : Origin
  /-- The tables that it goes through. -/
  enters : Origin → Bool

namespace Way

/-- The way of a header. -/
def header : Way := ⟨.implied, (· != .inline)⟩

/-- The way of a dotted key. -/
def dotted : Way := ⟨.dotted, fun o ↦ o == .dotted || o == .implied⟩

/-- Changes the table at the end of a way. -/
def change (w : Way) (f : Origin → Entries → Option (Origin × Entries)) :
    List String → Origin → Entries → Option (Origin × Entries)
  | [], origin, entries => f origin entries
  | key :: rest, origin, entries =>
    let inner := match entries.lookup key with
      | none => w.change f rest w.missing []
      | some (.table o es) => if w.enters o then w.change f rest o es else none
      | some _ => none
    inner.map fun (o, es) ↦ (origin, put key (.table o es) entries)

end Way

/-- Gives a table its header, which it must not have yet. -/
def define : Origin → Entries → Option (Origin × Entries)
  | .implied, entries => some (.header, entries)
  | _, _ => none

/-- Sets a key that was not set. A table at the end of a dotted key must come from dotted keys
only. -/
def insert (viaDots : Bool) (key : String) (v : Value) (origin : Origin) (entries : Entries) :
    Option (Origin × Entries) :=
  if viaDots ≠ (origin == .dotted) ∨ key ∈ entries.map Prod.fst then none
  else some (origin, entries ++ [(key, v)])

/-- The entries of a document so far, and the table that the latest header started. -/
structure Draft where
  entries : Entries := []
  current : List String := []

namespace Draft

/-- The draft after one more line. The table of the whole document counts as one with a header. -/
def add (d : Draft) : Line → Option Draft
  | .header path => (Way.header.change define path .header d.entries).map fun r ↦ ⟨r.2, path⟩
  | .entry path key v =>
    (Way.header.change (Way.dotted.change (insert (!path.isEmpty) key v) path)
      d.current .header d.entries).map fun r ↦ ⟨r.2, d.current⟩

end Draft

/-- The entries of a document. -/
def ofLines? (ls : List Line) : Option Entries :=
  (ls.foldlM Draft.add {}).map Draft.entries

/-- The entries that a text holds. -/
def entries? (s : String) : Option Entries := (lines.run? s).bind ofLines?

end QueryChain.Toml
