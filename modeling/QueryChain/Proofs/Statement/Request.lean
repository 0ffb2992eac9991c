import QueryChain.Statement.Change

/-!
# Requests

The three kinds of statement that are made from descriptions: queries, updates and deletions. A
request is first laid out as a template, and the statement is read off the template; so what holds
of every template with its values holds of every statement.
-/

namespace QueryChain

/-- What a statement is made from. -/
inductive Request
  | select (q : Query)
  | update (target : String) (fields : List (String × Value)) (p : Option Predicate)
  | delete (source : String) (p : Option Predicate)
deriving DecidableEq

namespace Request

/-- The statement for a request in a dialect. -/
def translate (d : Dialect) : Request → Except Error Statement
  | select q => q.toStatement d
  | update target fields p => Statement.update target fields p d
  | delete source p => Statement.delete source p d

/-- The template for a request in a dialect. -/
def layOut (d : Dialect) : Request → Except Error Template
  | select q => do pure (← q.select d).template
  | update target fields p => Statement.updateTemplate target fields p
  | delete source p => Statement.deleteTemplate source p

/-- Every statement is made from a template. -/
theorem translate_eq (d : Dialect) (r : Request) :
    r.translate d = (r.layOut d).map (Template.toStatement d) := by
  cases r with
  | select q =>
    rw [translate, layOut, Query.toStatement]
    cases q.select d <;> rfl
  | update target fields p =>
    rw [translate, layOut, Statement.update]
    cases Statement.updateTemplate target fields p <;> rfl
  | delete source p =>
    rw [translate, layOut, Statement.delete]
    cases Statement.deleteTemplate source p <;> rfl

end Request

end QueryChain
