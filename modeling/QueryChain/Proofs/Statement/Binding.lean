import QueryChain.Proofs.Condition.Surface
import QueryChain.Proofs.Statement.Request

/-!
# The values bound by a request

Read from left to right, a request holds constants: the arguments of a function or the values of the
assigned fields, then the constants of its conditions. A database that knows parameters by position
only needs exactly these values in this order. Here it is shown that the templates hold them so.
-/

namespace QueryChain

theorem Except.bind_eq_ok {α β : Type} {x : Except Error α} {f : α → Except Error β} {b : β} :
    x >>= f = .ok b ↔ ∃ a, x = .ok a ∧ f a = .ok b := by
  cases x with
  | error e => simp [bind, Except.bind]
  | ok a => simp [bind, Except.bind]

theorem Except.bind_eq_error {α β : Type} {x : Except Error α} {f : α → Except Error β}
    {e : Error} :
    x >>= f = .error e ↔ x = .error e ∨ ∃ a, x = .ok a ∧ f a = .error e := by
  cases x with
  | error e' => simp [bind, Except.bind]
  | ok a => simp [bind, Except.bind]

/-! ## Members and values in the order of a request -/

/-- The column that an operand is. -/
def Operand.column? : Operand → Option String
  | column name => some name
  | constant _ => none

/-- The constant that an operand is. -/
def Operand.constant? : Operand → Option Value
  | column _ => none
  | constant v => some v

namespace Predicate

/-- The values that a predicate binds, from left to right. Null is not bound where it is compared
with, a pattern is bound with its wildcards, and a flag is bound as the dialect holds it. -/
def boundValues (d : Dialect) : Predicate → List Value
  | member _ => []
  | literal v => if v.isNull then [] else [v]
  | not p => p.boundValues d
  | and l r | or l r | flatAnd l r | flatOr l r | compare _ l r =>
    l.boundValues d ++ r.boundValues d
  | like kind _ s => [.string (kind.pattern s)]
  | inSet _ vs => vs
  | boolEquals _ (some b) => [d.boolValue b]
  | boolEquals _ none => []

/-- The names of the members of a predicate, from left to right. -/
def members : Predicate → List String
  | member name | like _ name _ | inSet name _ | boolEquals name _ => [name]
  | literal _ => []
  | not p => p.members
  | and l r | or l r | flatAnd l r | flatOr l r | compare _ l r => l.members ++ r.members

/-- The members and the bound values of a predicate, from left to right. -/
def operands (d : Dialect) : Predicate → List Operand
  | member name => [.column name]
  | literal v => if v.isNull then [] else [.constant v]
  | not p => p.operands d
  | and l r | or l r | flatAnd l r | flatOr l r | compare _ l r => l.operands d ++ r.operands d
  | like kind name s => [.column name, .constant (.string (kind.pattern s))]
  | inSet name vs => .column name :: vs.map .constant
  | boolEquals name (some b) => [.column name, .constant (d.boolValue b)]
  | boolEquals name none => [.column name]

theorem filterMap_constant?_operands (d : Dialect) (p : Predicate) :
    (p.operands d).filterMap Operand.constant? = p.boundValues d := by
  induction p with
  | member name => rfl
  | literal v => by_cases h : v.isNull <;> simp [operands, boundValues, h, Operand.constant?]
  | not p ih => exact ih
  | and l r ihl ihr | or l r ihl ihr | flatAnd l r ihl ihr | flatOr l r ihl ihr
  | compare op l r ihl ihr => rw [operands, boundValues, List.filterMap_append, ihl, ihr]
  | like kind name s => rfl
  | inSet name vs =>
    rw [operands, List.filterMap_cons, List.filterMap_map]
    exact List.filterMap_some
  | boolEquals name b => cases b <;> rfl

theorem filterMap_column?_operands (d : Dialect) (p : Predicate) :
    (p.operands d).filterMap Operand.column? = p.members := by
  induction p with
  | member name => rfl
  | literal v => by_cases h : v.isNull <;> simp [operands, members, h, Operand.column?]
  | not p ih => exact ih
  | and l r ihl ihr | or l r ihl ihr | flatAnd l r ihl ihr | flatOr l r ihl ihr
  | compare op l r ihl ihr => rw [operands, members, List.filterMap_append, ihl, ihr]
  | like kind name s => rfl
  | inSet name vs =>
    have hnone : Operand.column? ∘ Operand.constant = fun _ ↦ none := rfl
    rw [operands, List.filterMap_cons, List.filterMap_map, hnone, List.filterMap_none]
    rfl
  | boolEquals name b => cases b <;> rfl

end Predicate

/-- The arguments of a table-valued function. -/
def Source.arguments : Source → List Value
  | table _ => []
  | function _ args => args

/-- The conditions of a query: those of its filters in the order of the calls, then that of the
terminal. -/
def Query.conditions (q : Query) : List Predicate :=
  q.operators.filterMap Operator.filter? ++ (q.terminal?.bind Terminal.predicate?).toList

namespace Request

/-- The conditions of a request in the order in which they are written. -/
def conditions : Request → List Predicate
  | select q => q.conditions
  | update _ _ p | delete _ p => p.toList

/-- The values that are bound in front of the conditions. -/
def leadingValues : Request → List Value
  | select q => q.source.arguments
  | update _ fields _ => fields.map Prod.snd
  | delete .. => []

/-- The values that a request binds, from left to right. -/
def boundValues (d : Dialect) (r : Request) : List Value :=
  r.leadingValues ++ r.conditions.flatMap (Predicate.boundValues d)

end Request

/-! ## Operands of conditions -/

namespace Token

/-- The operand that a token is. -/
def operand? (d : Dialect) : Token → Option Operand
  | member name => some (.column name)
  | constant c => some (.constant (c.bound d))
  | _ => none

/-- The operands among the tokens, from left to right. -/
def operands (d : Dialect) (ts : List Token) : List Operand := ts.filterMap (operand? d)

theorem operands_append (d : Dialect) (ts us : List Token) :
    operands d (ts ++ us) = operands d ts ++ operands d us :=
  List.filterMap_append

/-- Parentheses are no operands. -/
theorem operands_enclose (d : Dialect) (parens : Bool) (ts : List Token) :
    operands d (enclose parens ts) = operands d ts := by
  cases parens with
  | false => rfl
  | true =>
    have hopen : operands d [.leftParen] = [] := rfl
    have hclose : operands d [.rightParen] = [] := rfl
    rw [enclose, if_pos rfl, ← List.singleton_append, operands_append, operands_append, hopen,
      hclose, List.append_nil, List.nil_append]

/-- The constants of a condition are those of its operands that are no members. -/
theorem map_bound_constants (d : Dialect) (ts : List Token) :
    (constants ts).map (Constant.bound d) = (operands d ts).filterMap Operand.constant? := by
  rw [constants, operands, List.map_filterMap, List.filterMap_filterMap]
  refine List.filterMap_congr fun t _ ↦ ?_
  cases t <;> rfl

end Token

namespace Predicate

variable {d : Dialect} {ts : List Token}

theorem operands_notIf (d : Dialect) (negated : Bool) :
    Token.operands d (notIf negated) = [] := by
  cases negated <;> rfl

theorem operands_nullTest (d : Dialect) (name : String) (negated : Bool) :
    Token.operands d (nullTest name negated) = [.column name] := by
  cases negated <;> rfl

theorem operands_emitComparison {op : CompareOp} {name : String} {v : Value} {memberFirst : Bool}
    (h : emitComparison op name v memberFirst = .write ts) :
    Token.operands d ts = if memberFirst then [.column name] ++ (literal v).operands d
      else (literal v).operands d ++ [.column name] := by
  rcases emitComparison_eq_write h with ⟨hnull, ⟨rfl, rfl⟩ | ⟨rfl, rfl⟩⟩ | ⟨hnull, rfl⟩
  · rw [operands_nullTest, operands, if_pos hnull]
    cases memberFirst <;> rfl
  · rw [operands_nullTest, operands, if_pos hnull]
    cases memberFirst <;> rfl
  · rw [operands, if_neg hnull]
    cases memberFirst <;> rfl

theorem operands_emitCompare {op : CompareOp} {l r : Predicate}
    (h : emitCompare op l r = .write ts) :
    Token.operands d ts = l.operands d ++ r.operands d := by
  obtain ⟨name, v, memberFirst, hwritten, rfl, rfl⟩ := emitCompare_eq_write h
  cases memberFirst with
  | true => exact operands_emitComparison hwritten
  | false => exact operands_emitComparison hwritten

theorem operands_listed (d : Dialect) (vs : List Value) :
    Token.operands d (listed vs) = vs.map .constant := by
  induction vs with
  | nil => rfl
  | cons v vs ih =>
    cases vs with
    | nil => rfl
    | cons w vs =>
      have hlisted :
          listed (v :: w :: vs) = ([.constant (.value v), .comma] : List Token) ++ listed (w :: vs) :=
        rfl
      rw [hlisted, Token.operands_append, ih]
      rfl

theorem operands_emitIn {name : String} {vs : List Value} {negated : Bool}
    (h : emitIn name vs negated = .write ts) :
    Token.operands d ts = (inSet name vs).operands d := by
  obtain ⟨-, rfl⟩ := emitIn_eq_write h
  have hclose : Token.operands d [.rightParen] = [] := rfl
  simp only [Token.operands_append, operands_listed, operands_notIf, hclose, List.append_nil]
  rfl

theorem operands_emitLike {kind : StringMatch} {name s : String} {negated : Bool}
    (h : emitLike kind name s negated = .write ts) :
    Token.operands d ts = (like kind name s).operands d := by
  obtain rfl := Emission.write_inj.mp (emitNamed_eq_write h)
  rw [Token.operands_append, Token.operands_append, operands_notIf]
  rfl

/-- A flag is bound in the same way in a test and in its negation. -/
theorem operands_emitBool {name : String} {b : Option Bool} {negated : Bool}
    (h : emitBool name b negated = .write ts) :
    Token.operands d ts = (boolEquals name b).operands d := by
  have hwritten := emitNamed_eq_write h
  cases b with
  | none =>
    obtain rfl := Emission.write_inj.mp hwritten
    exact operands_nullTest d name negated
  | some b =>
    obtain rfl := Emission.write_inj.mp hwritten
    rfl

theorem operands_joined (d : Dialect) (negated parens lparens rparens : Bool) {j : Token}
    (hj : Token.operands d [j] = []) (us vs : List Token) :
    Token.operands d (notIf negated ++ Token.enclose parens
      (Token.enclose lparens us ++ j :: Token.enclose rparens vs)) =
    Token.operands d us ++ Token.operands d vs := by
  rw [Token.operands_append, operands_notIf, Token.operands_enclose, ← List.singleton_append,
    Token.operands_append, Token.operands_append, hj, Token.operands_enclose,
    Token.operands_enclose]
  rfl

/-- **A condition has the operands of its predicate, from left to right**, whether or not it is
negated. -/
theorem operands_of_emit {p : Predicate} {negated : Bool} (h : p.emit negated = .write ts) :
    Token.operands d ts = p.operands d := by
  -- a negation changes keywords and signs only, so the flag is general in the induction
  induction p generalizing negated ts with
  | member name => cases h
  | literal v => cases h
  | not p ih => exact ih h
  | and l r ihl ihr | or l r ihl ihr =>
    obtain ⟨us, vs, hl, hr, rfl⟩ := joined_eq_write l.isFlat r.isFlat h
    rw [operands_joined d _ _ _ _ rfl, ihl hl, ihr hr, operands]
  | flatAnd l r ihl ihr | flatOr l r ihl ihr =>
    obtain ⟨us, vs, hl, hr, rfl⟩ := joined_eq_write false false h
    rw [operands_joined d _ _ _ _ rfl, ihl hl, ihr hr, operands]
  | compare op l r => exact operands_emitCompare h
  | like kind name s => exact operands_emitLike h
  | inSet name vs => exact operands_emitIn h
  | boolEquals name b => exact operands_emitBool h

theorem operands_foldl_and (d : Dialect) (p : Predicate) (ps : List Predicate) :
    (ps.foldl and p).operands d = (p :: ps).flatMap (operands d) := by
  induction ps generalizing p with
  | nil =>
    rw [List.flatMap_singleton]
    rfl
  | cons q ps ih =>
    rw [List.foldl_cons, ih, List.flatMap_cons, operands, List.append_assoc, List.flatMap_cons,
      List.flatMap_cons]

theorem operands_of_emitAll {ps : List Predicate} (h : emitAll ps = .write ts) :
    Token.operands d ts = ps.flatMap (operands d) := by
  cases ps with
  | nil =>
    obtain rfl := Emission.write_inj.mp h
    rfl
  | cons p ps => rw [operands_of_emit (p := ps.foldl and p) h, operands_foldl_and]

end Predicate

/-! ## Values of templates -/

namespace Template

theorem values_append (d : Dialect) (s t : Template) :
    values d (s ++ t) = values d s ++ values d t := by
  rw [values, constants_append, List.map_append]
  rfl

theorem values_holes (d : Dialect) (vs : List Value) : values d (holes vs) = vs := by
  induction vs with
  | nil => rfl
  | cons v vs ih =>
    cases vs with
    | nil => rfl
    | cons w vs =>
      have hholes :
          holes (v :: w :: vs) = ([.hole (.value v), .text ", "] : Template) ++ holes (w :: vs) := rfl
      rw [hholes, values_append, ih]
      rfl

end Template

theorem Source.values_template (d : Dialect) (s : Source) :
    s.template.values d = s.arguments := by
  cases s with
  | table name => rfl
  | function name args =>
    have htemplate : (function name args).template =
        ([.text (name ++ "(")] : Template) ++ (Template.holes args ++ [.text ")"]) := rfl
    rw [htemplate, Template.values_append, Template.values_append, Template.values_holes]
    exact List.append_nil args

theorem Statement.values_assignments (d : Dialect) (fields : List (String × Value)) :
    (assignments fields).values d = fields.map Prod.snd := by
  induction fields with
  | nil => rfl
  | cons e fields ih =>
    obtain ⟨field, v⟩ := e
    cases fields with
    | nil => rfl
    | cons f fields =>
      have hassignments : assignments ((field, v) :: f :: fields) =
          ([.text (field ++ " = "), .hole (.value v), .text ", "] : Template) ++
            assignments (f :: fields) := rfl
      rw [hassignments, Template.values_append, ih]
      rfl

/-- A condition binds its constants. -/
theorem values_whereClause (d : Dialect) (ts : List Token) :
    (whereClause ts).values d = (Token.operands d ts).filterMap Operand.constant? := by
  rw [← Token.map_bound_constants, whereClause]
  by_cases hnil : ts = []
  · rw [if_pos hnil, hnil]
    rfl
  · rw [if_neg hnil, Template.values, Template.constants, Token.constants_spell]

/-- The clauses in front of the condition. -/
def Select.head (s : Select) : Template :=
  .text ("SELECT " ++ s.list.text ++ " FROM ") :: s.source.template

/-- The clauses behind the condition. -/
def Select.tail (s : Select) : Template :=
  s.order.template ++ offsetClause s.offset ++ fetchClause s.fetch

theorem Select.template_eq (s : Select) :
    s.template = s.head ++ (whereClause s.condition ++ s.tail) := by
  simp only [template, head, tail, List.append_assoc, List.cons_append, List.nil_append]

/-- What follows the condition binds nothing. -/
theorem Select.values_tail (d : Dialect) (s : Select) : s.tail.values d = [] := by
  obtain ⟨list, source, condition, order, offset, fetch⟩ := s
  cases order <;> cases offset <;> cases fetch <;> rfl

end QueryChain
