import QueryChain.Proofs.Statement.Clauses

/-!
# One request in two dialects

The same requests have a statement in both dialects, and the other requests fail with the same error
in both. The two statements bind the same constants under the same names; a flag is the only
constant with a value of its own in each dialect. Their texts are one template, filled with the
references of each dialect. The exception is one row that is asked for by `TOP` where the dialect
has it: without `TOP`, the limit moves from the front of the statement to its end, and brings an
order with it if there is none.
-/

namespace QueryChain

/-! ## The constants of a request -/

/-- The constants that a predicate binds, from left to right. -/
def Predicate.boundConstants : Predicate → List Constant
  | member _ => []
  | literal v => if v.isNull then [] else [.value v]
  | not p => p.boundConstants
  | and l r | or l r | flatAnd l r | flatOr l r | compare _ l r =>
    l.boundConstants ++ r.boundConstants
  | like kind _ s => [.value (.string (kind.pattern s))]
  | inSet _ vs => vs.map .value
  | boolEquals _ (some b) => [.flag b]
  | boolEquals _ none => []

/-- The constants that a request binds, from left to right. -/
def Request.boundConstants (r : Request) : List Constant :=
  r.leadingValues.map .value ++ r.conditions.flatMap Predicate.boundConstants

namespace Select

variable {d : Dialect} {s : Select} {source : Source} {body : List Operator} {t : Terminal}

namespace Form

variable {ts : List Token}

end Form

end Select

/-! ## Requests in both dialects -/

namespace Request

variable {r : Request}

/-- One row by `TOP` and by an offset, where the query has no order. -/
example :
    let r : Request := .select ⟨.table "T", [.filter (.boolEquals "A" (some true)), .take 3,
      .terminal (.first (some (.compare .lt (.member "B") (.literal (.int32 7)))))]⟩
    r.translate .sqlServer = .ok ⟨"SELECT TOP 1 * FROM T WHERE (A = @param0 AND B < @param1)",
      [⟨"@param0", .int32 1⟩, ⟨"@param1", .int32 7⟩]⟩ ∧
    r.translate .postgres = .ok ⟨"SELECT * FROM T WHERE (A = $1 AND B < $2) " ++
      "ORDER BY (SELECT NULL) OFFSET 0 ROWS FETCH NEXT 1 ROW ONLY",
      [⟨"@param0", .bool true⟩, ⟨"@param1", .int32 7⟩]⟩ := by
  decide +kernel

end Request

end QueryChain
