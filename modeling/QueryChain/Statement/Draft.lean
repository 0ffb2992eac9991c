import QueryChain.Statement.Change

/-!
# Writing statements in one go

A template is laid out first and filled afterwards. A draft is written in one go: a store takes the
values as they are met and names each by the number of those before it, and the text grows piece by
piece, with references where the values belong. So the order of the parameters is that in which
values were bound, and the order of the references that in which they were written. Nothing in a
draft says that the two agree; that it is the statement of the template is to be proved.
-/

namespace QueryChain

/-! ## Parameters as they come -/

/-- The parameters bound so far. -/
structure Store where
  parameters : List Parameter := []
deriving DecidableEq

/-- Adds a value, and gives the name of its parameter. -/
def Store.append (s : Store) (v : Value) : String × Store :=
  let name := Parameter.nameAt s.parameters.length
  (name, ⟨s.parameters ++ [⟨name, v⟩]⟩)

/-- A statement of which a part is written. -/
structure Draft where
  store : Store := {}
  sql : String := ""
deriving DecidableEq

/-- A step of writing. When it fails, what was bound and written until then stays. -/
abbrev Drafting (α : Type) : Type := ExceptT Error (StateM Draft) α

namespace Drafting

/-- Adds to the text. -/
def write (text : String) : Drafting Unit := modify fun w ↦ { w with sql := w.sql ++ text }

/-- Binds a value, and gives the text that refers to it. -/
def bindValue (d : Dialect) (v : Value) : Drafting String := do
  let w ← get
  let (name, store) := w.store.append v
  set { w with store }
  pure (d.placeholder name store.parameters.length)

/-- The text that is written from here on, which is not added to the text before it. -/
def writtenBy (x : Drafting Unit) : Drafting String := fun w ↦
  let (result, w') := x { w with sql := "" }
  (result.map fun () ↦ w'.sql, { w' with sql := w.sql })

/-- The statement that is written from the start. -/
def finish (x : Drafting Unit) : Except Error Statement :=
  let (result, w) := x {}
  result.map fun () ↦ ⟨w.sql, w.store.parameters⟩

end Drafting

open Drafting

/-! ## Conditions -/

namespace Predicate

def draftNullTest (name : String) (negated : Bool) : Drafting Unit :=
  write (name ++ if negated then " IS NOT NULL" else " IS NULL")

def draftComparison (d : Dialect) (op : CompareOp) (name : String) (v : Value)
    (memberFirst : Bool) : Drafting Unit := do
  checkName "member" name
  if v.isNull then
    match op with
    | .eq => draftNullTest name false
    | .ne => draftNullTest name true
    | op => throw (.nullWithOrder op.sql)
  else
    let reference ← bindValue d v
    write (if memberFirst then name ++ " " ++ op.sql ++ " " ++ reference
      else reference ++ " " ++ op.sql ++ " " ++ name)

def draftCompare (d : Dialect) (op : CompareOp) : Predicate → Predicate → Drafting Unit
  | member name, literal v => draftComparison d op name v true
  | literal v, member name => draftComparison d op name v false
  | member a, member b => throw (.memberWithMember a b)
  | _, _ => throw .comparisonSides

/-- The keyword `NOT` and a blank, where it applies. -/
def notText (negated : Bool) : String := if negated then "NOT " else ""

def draftIn (d : Dialect) (name : String) (values : List Value) (negated : Bool) :
    Drafting Unit := do
  checkName "member" name
  if values.isEmpty then throw (.emptyInList name)
  let references ← values.mapM (bindValue d)
  write (name ++ " " ++ notText negated ++ "IN (" ++ ", ".intercalate references ++ ")")

def draftLike (d : Dialect) (kind : StringMatch) (name literal : String) (negated : Bool) :
    Drafting Unit := do
  checkName "member" name
  let reference ← bindValue d (.string (kind.pattern literal))
  write (name ++ " " ++ notText negated ++ "LIKE " ++ reference)

def draftBool (d : Dialect) (name : String) (b : Option Bool) (negated : Bool) :
    Drafting Unit := do
  checkName "member" name
  match b with
  | none => draftNullTest name negated
  | some b =>
    let reference ← bindValue d (d.boolValue b)
    write (name ++ " " ++ (if negated then "<>" else "=") ++ " " ++ reference)

/-- Two sides with a keyword between them. -/
def draftJoined (keyword : String) (left right : Drafting Unit) : Drafting Unit := do
  left
  write (" " ++ keyword ++ " ")
  right

def draftEnclosed (x : Drafting Unit) : Drafting Unit := do
  write "("
  x
  write ")"

/-- A side of a group, which gets parentheses of its own if it is flat. -/
def draftOperand (p : Predicate) (x : Drafting Unit) : Drafting Unit :=
  if p.isFlat then draftEnclosed x else x

def draftGrouped (keyword : String) (negated : Bool) (left right : Drafting Unit) :
    Drafting Unit := do
  if negated then write "NOT "
  draftEnclosed (draftJoined keyword left right)

def draftFlat (keyword : String) (negated : Bool) (left right : Drafting Unit) :
    Drafting Unit := do
  if negated then
    write "NOT "
    draftEnclosed (draftJoined keyword left right)
  else draftJoined keyword left right

/-- Writes a predicate, or its negation. -/
def draft (d : Dialect) (negated : Bool) : Predicate → Drafting Unit
  | member name => throw (.memberNotCondition name)
  | literal v => throw (.constantNotCondition v.text)
  | not p => p.draft d !negated
  | and l r => draftGrouped "AND" negated (draftOperand l (l.draft d false))
      (draftOperand r (r.draft d false))
  | or l r => draftGrouped "OR" negated (draftOperand l (l.draft d false))
      (draftOperand r (r.draft d false))
  | flatAnd l r => draftFlat "AND" negated (l.draft d false) (r.draft d false)
  | flatOr l r => draftFlat "OR" negated (l.draft d false) (r.draft d false)
  | compare op l r => draftCompare d (if negated then op.negate else op) l r
  | like kind name s => draftLike d kind name s negated
  | inSet name values => draftIn d name values negated
  | boolEquals name b => draftBool d name b negated

/-- The text of the condition that all predicates hold. -/
def draftCondition (d : Dialect) (ps : List Predicate) : Drafting String :=
  writtenBy <| match conjunction? ps with
    | some p => p.draft d false
    | none => pure ()

end Predicate

/-- Writes the clause `WHERE`, unless the text of the condition is empty. -/
def draftWhere (condition : String) : Drafting Unit := do
  if condition ≠ "" then
    write " WHERE "
    write condition

/-! ## Statements -/

/-- The text of a source. -/
def Source.draft (d : Dialect) : Source → Drafting String
  | table name => pure name
  | function name args => do
    let references ← args.mapM (bindValue d)
    pure (name ++ "(" ++ ", ".intercalate references ++ ")")

/-- Writes the ordering. An offset needs one. -/
def draftOrder (keys : List (String × Direction)) (hasOffset : Bool) : Drafting Unit := do
  if keys ≠ [] then
    write " ORDER BY "
    write (orderText keys)
  else if hasOffset then write " ORDER BY (SELECT NULL)"

/-- Writes the offset and the limit. -/
def draftLimits (offset fetch : Option UInt64) : Drafting Unit := do
  if let some n := offset then write (" OFFSET " ++ toString n.toNat ++ " ROWS")
  if let some n := fetch then write (" FETCH NEXT " ++ toString n.toNat ++ " ROW ONLY")

/-- Writes a selection of columns from a source. -/
def draftColumns (top : Bool) (fields : Option (List String)) (source condition : String) :
    Drafting Unit := do
  write "SELECT "
  if top then write "TOP 1 "
  write (projectionText fields)
  write " FROM "
  write source
  draftWhere condition

/-- Writes a statement that counts the rows. -/
def draftCount (source condition : String) : Drafting Unit := do
  write "SELECT COUNT(*) FROM "
  write source
  draftWhere condition

/-- Writes a statement that gives rows. The ordering is looked at when the condition is written. -/
def draftRows (d : Dialect) (body : List Operator) (t : Terminal) (source condition : String) :
    Drafting Unit := do
  let page := Page.ofOperators body
  let top := t.isFirst && page.skip.isNone && d.supportsTop
  draftColumns top (selectedFields body) source condition
  let (offset, fetch) := Select.limits t.isFirst top page
  let keys ← orderKeys body
  draftOrder keys offset.isSome
  draftLimits offset fetch

/-- Writes a chain that ends in a terminal. The source and the condition are bound before anything
is written. -/
def draftChain (d : Dialect) (source : Source) (body : List Operator) (t : Terminal) :
    Drafting Unit := do
  let source ← source.draft d
  let condition ← Predicate.draftCondition d
    (body.filterMap Operator.filter? ++ t.predicate?.toList)
  if t.isCount then draftCount source condition else draftRows d body t source condition

/-- The statement for a query, written in one go. -/
def Query.draft (q : Query) (d : Dialect) : Except Error Statement := do
  let (body, t) ← q.split
  finish (draftChain d q.source body t)

namespace Statement

/-- The text of an assignment. The field is checked before its value is bound. -/
def draftAssignment (d : Dialect) (assignment : String × Value) : Drafting String := do
  checkName "update_fields" assignment.1
  let reference ← bindValue d assignment.2
  pure (assignment.1 ++ " = " ++ reference)

/-- Writes an update. -/
def draftUpdate (target : String) (fields : List (String × Value)) (p : Option Predicate)
    (d : Dialect) : Drafting Unit := do
  checkName "update_target" target
  if fields.isEmpty then throw .noAssignments
  let assignments ← fields.mapM (draftAssignment d)
  write ("UPDATE " ++ target ++ " SET " ++ ", ".intercalate assignments)
  draftWhere (← Predicate.draftCondition d p.toList)

/-- Writes a deletion. -/
def draftDelete (source : String) (p : Option Predicate) (d : Dialect) : Drafting Unit := do
  checkName "source" source
  write ("DELETE FROM " ++ source)
  draftWhere (← Predicate.draftCondition d p.toList)

end Statement

end QueryChain
