import QueryChain.Predicate.Build
import QueryChain.Statement.Template

/-!
# Conditions in SQL

A predicate is written as a list of tokens. A negation is pushed into the tests of single members,
where it turns the operator around, and stands as `NOT` in front of a group.

Writing stops at the first part of a predicate that has no meaning as a condition. An `Emission` is
what was written up to there, together with the error if there was one; two emissions are joined by
forgetting the second after an error in the first. So the constants that were bound before the error
are known, and the law that the first error wins is the law of joining.
-/

namespace QueryChain

/-- A token of a condition. A member name is one token, whatever characters it has. -/
inductive Token
  | leftParen
  | rightParen
  | comma
  | not
  | and
  | or
  | like
  | inList
  | is
  | null
  | sign (op : CompareOp)
  | member (name : String)
  | constant (c : Constant)
deriving DecidableEq

namespace Token

def piece : Token → Piece
  | leftParen => .text "("
  | rightParen => .text ")"
  | comma => .text ","
  | not => .text "NOT"
  | and => .text "AND"
  | or => .text "OR"
  | like => .text "LIKE"
  | inList => .text "IN"
  | is => .text "IS"
  | null => .text "NULL"
  | sign op => .text op.sql
  | member name => .text name
  | constant c => .hole c

/-- A blank stands between the two tokens. None follows an opening parenthesis, and none precedes a
closing one or a comma. -/
def spaced (t u : Token) : Bool := t != leftParen && u != rightParen && u != comma

/-- The template of a list of tokens. -/
def spell : List Token → Template
  | [] => []
  | [t] => [t.piece]
  | t :: u :: rest =>
    if spaced t u then t.piece :: .text " " :: spell (u :: rest) else t.piece :: spell (u :: rest)

/-- The constants among the tokens, from left to right. -/
def constants (ts : List Token) : List Constant :=
  ts.filterMap fun t ↦ match t with
    | constant c => some c
    | _ => none

@[simp] theorem constants_append (ts us : List Token) :
    constants (ts ++ us) = constants ts ++ constants us := by
  simp [constants]

/-- Spelling keeps every constant, in order. -/
theorem constants_spell (ts : List Token) : Template.constants (spell ts) = constants ts := by
  fun_induction spell ts with
  | case1 => rfl
  | case2 t => cases t <;> rfl
  | case3 t u rest h ih => cases t <;> simp_all [Template.constants, constants, piece]
  | case4 t u rest h ih => cases t <;> simp_all [Template.constants, constants, piece]

end Token

/-- What was written, and the error that ended the writing. -/
structure Emission where
  tokens : List Token
  failure : Option Error := none
deriving DecidableEq

namespace Emission

/-- Joins two emissions; nothing is written after an error. -/
def join (e f : Emission) : Emission :=
  match e.failure with
  | some _ => e
  | none => ⟨e.tokens ++ f.tokens, f.failure⟩

instance : Append Emission := ⟨join⟩

/-- Nothing but an error. -/
def fail (err : Error) : Emission := ⟨[], some err⟩

/-- Tokens without an error. -/
def write (ts : List Token) : Emission := ⟨ts, none⟩

theorem append_def (e f : Emission) : e ++ f = join e f := rfl

@[simp] theorem write_append_write (ts us : List Token) :
    write ts ++ write us = write (ts ++ us) := rfl

@[simp] theorem fail_append (err : Error) (e : Emission) : fail err ++ e = fail err := rfl

theorem append_assoc (e f g : Emission) : e ++ f ++ g = e ++ (f ++ g) := by
  rcases e with ⟨ts, _ | err⟩ <;> rcases f with ⟨us, _ | err'⟩ <;>
    simp [append_def, join]

/-- The tokens of a complete emission. -/
def toExcept (e : Emission) : Except Error (List Token) :=
  match e.failure with
  | some err => .error err
  | none => .ok e.tokens

end Emission

namespace Predicate

/-! ## Tests of one member -/

/-- What follows a member name, unless the name is blank. -/
def emitNamed (name : String) (e : Emission) : Emission :=
  match checkName "member" name with
  | .error err => .fail err
  | .ok () => e

/-- The keyword `NOT` where it applies. -/
def notIf (negated : Bool) : List Token := if negated then [.not] else []

/-- `name IS NULL`, or `name IS NOT NULL`. -/
def nullTest (name : String) (negated : Bool) : List Token :=
  [.member name, .is] ++ notIf negated ++ [.null]

/-- A comparison of a member with a constant. Null is not compared but tested for. -/
def emitComparison (op : CompareOp) (name : String) (v : Value) (memberFirst : Bool) : Emission :=
  emitNamed name <|
    if v.isNull then
      match op with
      | .eq => .write (nullTest name false)
      | .ne => .write (nullTest name true)
      | op => .fail (.nullWithOrder op.sql)
    else if memberFirst then .write [.member name, .sign op, .constant (.value v)]
    else .write [.constant (.value v), .sign op, .member name]

/-- A comparison, which must have a member on one side and a constant on the other. -/
def emitCompare (op : CompareOp) : Predicate → Predicate → Emission
  | member name, literal v => emitComparison op name v true
  | literal v, member name => emitComparison op name v false
  | member a, member b => .fail (.memberWithMember a b)
  | _, _ => .fail .comparisonSides

/-- Constants with commas between them. -/
def listed : List Value → List Token
  | [] => []
  | [v] => [.constant (.value v)]
  | v :: vs => .constant (.value v) :: .comma :: listed vs

def emitIn (name : String) (values : List Value) (negated : Bool) : Emission :=
  emitNamed name <|
    if values.isEmpty then .fail (.emptyInList name)
    else .write ([.member name] ++ notIf negated ++ [.inList, .leftParen] ++ listed values ++
      [.rightParen])

def emitLike (kind : StringMatch) (name literal : String) (negated : Bool) : Emission :=
  emitNamed name <| .write ([.member name] ++ notIf negated ++
    [.like, .constant (.value (.string (kind.pattern literal)))])

def emitBool (name : String) (b : Option Bool) (negated : Bool) : Emission :=
  emitNamed name <| .write <|
    match b with
    | none => nullTest name negated
    | some b => [.member name, .sign (if negated then .ne else .eq), .constant (.flag b)]

/-! ## Whole predicates -/

/-- A flat conjunction or disjunction. -/
def isFlat : Predicate → Bool
  | flatAnd .. | flatOr .. => true
  | _ => false

/-- Puts parentheses around an emission where they are needed. -/
def enclose (parens : Bool) (e : Emission) : Emission :=
  if parens then .write [.leftParen] ++ e ++ .write [.rightParen] else e

/-- The tokens of a predicate, or of its negation.

A group stands between parentheses, and an operand of it that is flat gets parentheses of its own.
A flat predicate has parentheses only where it is negated. -/
def emit (negated : Bool) : Predicate → Emission
  | member name => .fail (.memberNotCondition name)
  | literal v => .fail (.constantNotCondition v.text)
  | not p => p.emit !negated
  | and l r => .write (notIf negated) ++ enclose true
      (enclose l.isFlat (l.emit false) ++ .write [.and] ++ enclose r.isFlat (r.emit false))
  | or l r => .write (notIf negated) ++ enclose true
      (enclose l.isFlat (l.emit false) ++ .write [.or] ++ enclose r.isFlat (r.emit false))
  | flatAnd l r => .write (notIf negated) ++ enclose negated
      (l.emit false ++ .write [.and] ++ r.emit false)
  | flatOr l r => .write (notIf negated) ++ enclose negated
      (l.emit false ++ .write [.or] ++ r.emit false)
  | compare op l r => emitCompare (if negated then op.negate else op) l r
  | like kind name s => emitLike kind name s negated
  | inSet name values => emitIn name values negated
  | boolEquals name b => emitBool name b negated

/-- The grouped conjunction of a list, from left to right. -/
def conjunction? : List Predicate → Option Predicate
  | [] => none
  | p :: ps => some (ps.foldl .and p)

/-- The tokens of the conjunction of a list; an empty list needs none. -/
def emitAll (ps : List Predicate) : Emission :=
  match conjunction? ps with
  | some p => p.emit false
  | none => .write []

/-- The condition that all predicates hold, in a dialect and behind parameters that are bound
already: its text, or the error, and all values bound at the end. -/
def toCondition (d : Dialect) (bound : List Value) (ps : List Predicate) :
    Except Error String × List Value :=
  let e := emitAll ps
  (e.toExcept.map fun ts ↦ Template.render d bound.length (Token.spell ts),
    bound ++ (Token.constants e.tokens).map (Constant.bound d))

end Predicate

end QueryChain
