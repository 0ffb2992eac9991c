import QueryChain.Dialect

/-!
# Statements and their templates

A statement is a text with parameters. It is first laid out as a template: pieces of fixed text, and
one hole for each constant. Filling the holes from left to right numbers the parameters, so the
order of the parameters is the order of the holes by construction, and no constant reaches the text.
A `Draft` is the same statement written in one go, with a store that is handed on from clause to
clause.
-/

namespace QueryChain

/-- A named value sent along with a statement. -/
structure Parameter where
  name : String
  value : Value
deriving DecidableEq

/-- The name of the parameter at an index. -/
def Parameter.nameAt (index : Nat) : String := "@param" ++ toString index

/-- The values as parameters, numbered from `start`. -/
def Parameter.numberFrom (start : Nat) : List Value → List Parameter
  | [] => []
  | v :: vs => ⟨nameAt start, v⟩ :: numberFrom (start + 1) vs

/-- A text with its parameters in the order in which they are bound. -/
structure Statement where
  sql : String
  parameters : List Parameter
deriving DecidableEq

/-- A constant of a statement. A boolean test is kept apart from other constants, because each
dialect has a value of its own for it. -/
inductive Constant
  | value (v : Value)
  | flag (b : Bool)
deriving DecidableEq

/-- The value that is bound for a constant. -/
def Constant.bound (d : Dialect) : Constant → Value
  | value v => v
  | flag b => d.boolValue b

/-- A part of a template. -/
inductive Piece
  | text (s : String)
  | hole (c : Constant)
deriving DecidableEq

/-- Fixed text with holes for constants. -/
abbrev Template := List Piece

namespace Template

/-- The constants in the holes, from left to right. -/
def constants : Template → List Constant
  | [] => []
  | .text _ :: t => constants t
  | .hole c :: t => c :: constants t

@[simp] theorem constants_append (s t : Template) :
    constants (s ++ t) = constants s ++ constants t := by
  induction s with
  | nil => rfl
  | cons p s ih => cases p <;> simp [constants, ih]

/-- The parts of the text in a dialect when the first hole is the parameter at index `start`. -/
def parts (d : Dialect) (start : Nat) : Template → List String
  | [] => []
  | .text s :: t => s :: parts d start t
  | .hole _ :: t => d.placeholder (Parameter.nameAt start) (start + 1) :: parts d (start + 1) t

theorem parts_append (d : Dialect) (start : Nat) (s t : Template) :
    parts d start (s ++ t) = parts d start s ++ parts d (start + s.constants.length) t := by
  induction s generalizing start with
  | nil => rfl
  | cons p s ih =>
    cases p with
    | text x => simp [parts, constants, ih]
    | hole c => simp [parts, constants, ih, Nat.add_assoc, Nat.add_comm 1]

/-- The text in a dialect when the first hole is the parameter at index `start`. -/
def render (d : Dialect) (start : Nat) (t : Template) : String := String.join (t.parts d start)

@[simp] theorem render_nil (d : Dialect) (start : Nat) : render d start [] = "" := rfl

@[simp] theorem render_text_cons (d : Dialect) (start : Nat) (s : String) (t : Template) :
    render d start (.text s :: t) = s ++ render d start t :=
  String.join_cons

@[simp] theorem render_hole_cons (d : Dialect) (start : Nat) (c : Constant) (t : Template) :
    render d start (.hole c :: t) =
      d.placeholder (Parameter.nameAt start) (start + 1) ++ render d (start + 1) t :=
  String.join_cons

theorem render_append (d : Dialect) (start : Nat) (s t : Template) :
    render d start (s ++ t) = render d start s ++ render d (start + s.constants.length) t := by
  rw [render, parts_append, String.join_append]
  rfl

/-- The values bound for the holes. -/
def values (d : Dialect) (t : Template) : List Value := t.constants.map (Constant.bound d)

/-- The statement that a template stands for. -/
def toStatement (d : Dialect) (t : Template) : Statement :=
  ⟨t.render d 0, Parameter.numberFrom 0 (t.values d)⟩

/-- Holes for values, with commas between them. -/
def holes : List Value → Template
  | [] => []
  | [v] => [.hole (.value v)]
  | v :: vs => .hole (.value v) :: .text ", " :: holes vs

end Template

end QueryChain
