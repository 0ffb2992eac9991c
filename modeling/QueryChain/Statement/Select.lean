import QueryChain.Query.OrderKeys
import QueryChain.Query.Page
import QueryChain.Statement.Condition

/-!
# Selecting rows

A query becomes a `Select`, which holds the clauses of the statement, and a `Select` becomes a
template. One row can be asked for in two ways: by `TOP 1`, where the dialect has it and no rows are
skipped, and by an offset with `FETCH NEXT 1` otherwise. An offset needs an ordering, so a query
without one is ordered by a constant.
-/

namespace QueryChain

/-- What a statement selects. -/
inductive SelectList
  | count
  /-- The named columns, or all of them; of the first row only if `top` says so. -/
  | columns (top : Bool) (fields : Option (List String))
deriving DecidableEq

/-- The order of the rows. -/
inductive OrderClause
  | absent
  /-- An order that says nothing, for an offset without an ordering. -/
  | arbitrary
  | keys (ks : List (String × Direction))
deriving DecidableEq

/-- The clauses of a statement that selects rows. -/
structure Select where
  list : SelectList
  source : Source
  /-- The tokens of the condition; none are needed where every row is wanted. -/
  condition : List Token := []
  order : OrderClause := .absent
  offset : Option UInt64 := none
  fetch : Option UInt64 := none
deriving DecidableEq

namespace Source

/-- The source in a `FROM` clause. -/
def template : Source → Template
  | table name => [.text name]
  | function name args => .text (name ++ "(") :: Template.holes args ++ [.text ")"]

end Source

/-- The clause `WHERE`, which is left out when there is no condition. -/
def whereClause (condition : List Token) : Template :=
  if condition = [] then [] else .text " WHERE " :: Token.spell condition

namespace OrderClause

def template : OrderClause → Template
  | absent => []
  | arbitrary => [.text " ORDER BY (SELECT NULL)"]
  | keys ks => [.text (" ORDER BY " ++ orderText ks)]

/-- The order for the given keys. Without keys there is one only if there is an offset. -/
def ofKeys (ks : List (String × Direction)) (hasOffset : Bool) : OrderClause :=
  if ks = [] then (if hasOffset then arbitrary else absent) else keys ks

end OrderClause

namespace SelectList

def text : SelectList → String
  | count => "COUNT(*)"
  | columns top fields => (if top then "TOP 1 " else "") ++ projectionText fields

end SelectList

namespace Select

/-- The clause `OFFSET`. -/
def offsetClause : Option UInt64 → Template
  | some n => [.text (" OFFSET " ++ toString n.toNat ++ " ROWS")]
  | none => []

/-- The clause `FETCH`. -/
def fetchClause : Option UInt64 → Template
  | some n => [.text (" FETCH NEXT " ++ toString n.toNat ++ " ROW ONLY")]
  | none => []

/-- The clauses in the order in which they are written. -/
def template (s : Select) : Template :=
  [.text ("SELECT " ++ s.list.text ++ " FROM ")] ++ s.source.template ++ whereClause s.condition ++
    s.order.template ++ offsetClause s.offset ++ fetchClause s.fetch

/-- The offset and the limit of a statement that gives rows. -/
def limits (first top : Bool) (page : Page) : Option UInt64 × Option UInt64 :=
  if first then (if top then (none, none) else (some (page.skip.getD 0), some 1))
  else match page.skip, page.take with
    | none, none => (none, none)
    | skip, take => (some (skip.getD 0), take)

/-- The clauses for a chain that ends in a terminal. The conditions of the filters come first, then
that of the terminal; an error in a condition comes before one in the ordering. -/
def ofChain (d : Dialect) (source : Source) (body : List Operator) (t : Terminal) :
    Except Error Select := do
  let condition ← (Predicate.emitAll
    (body.filterMap Operator.filter? ++ t.predicate?.toList)).toExcept
  if t.isCount then
    pure ⟨.count, source, condition, .absent, none, none⟩
  else
    let page := Page.ofOperators body
    let top := t.isFirst && page.skip.isNone && d.supportsTop
    let (offset, fetch) := limits t.isFirst top page
    let keys ← orderKeys body
    pure ⟨.columns top (selectedFields body), source, condition,
      .ofKeys keys offset.isSome, offset, fetch⟩

end Select

namespace Query

/-- The clauses that a query asks for in a dialect. -/
def select (q : Query) (d : Dialect) : Except Error Select := do
  let (body, t) ← q.split
  Select.ofChain d q.source body t

/-- The statement for a query in a dialect. -/
def toStatement (q : Query) (d : Dialect) : Except Error Statement := do
  let s ← q.select d
  pure (s.template.toStatement d)

end Query

/-- The text of a source behind parameters that are bound already, and all values bound at the end.
-/
def Source.render (d : Dialect) (bound : List Value) (s : Source) : String × List Value :=
  (s.template.render d bound.length, bound ++ s.template.values d)

end QueryChain
