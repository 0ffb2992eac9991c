import QueryChain.Filter.Basic

/-!
# Refused predicates

A builder that refuses its arguments blames the caller, whatever is wrong with them. So do filters,
which are built by the same builders: `Filter.toPredicate_blames` says that the error of a filter
that was read and then refused is a usage error, which no error of reading is.
-/

namespace QueryChain

/-- If this is an error, then it is a usage error. -/
def Except.Blames {α : Type} (x : Except Error α) : Prop := ∀ e, x = .error e → e.isUsage = true

namespace Except.Blames

variable {α β : Type}

theorem ok (a : α) : Blames (.ok a) := fun _ h ↦ nomatch h

theorem error {e : Error} (h : e.isUsage = true) : Blames (.error e : Except Error α) := by
  rintro _ ⟨⟩
  exact h

theorem bind {x : Except Error α} {f : α → Except Error β} (hx : Blames x)
    (hf : ∀ a, Blames (f a)) : Blames (x >>= f) := by
  cases x with
  | error e => exact error (hx e rfl)
  | ok a => exact hf a

theorem ite {c : Prop} [Decidable c] {x y : Except Error α} (hx : Blames x) (hy : Blames y) :
    Blames (if c then x else y) := by
  split
  · exact hx
  · exact hy

end Except.Blames

open QueryChain.Except (Blames)

theorem checkName_blames (param name : String) : Blames (checkName param name) :=
  .ite (.error rfl) (.ok ())

namespace Predicate

theorem compareMember_blames (op : CompareOp) (name : String) (v : Value) :
    Blames (compareMember op name v) :=
  (checkName_blames _ _).bind fun _ ↦ .ok _

theorem compareOrdered_blames (op : CompareOp) (words name : String) (v : Value) :
    Blames (compareOrdered op words name v) :=
  (checkName_blames _ _).bind fun _ ↦ .ite (.error rfl) <| .ite (.error rfl) <|
    compareMember_blames op name v

theorem isBool_blames (name : String) (b : Option Bool) : Blames (isBool name b) :=
  (checkName_blames _ _).bind fun _ ↦ .ok _

theorem equals_blames (name : String) (v : Value) : Blames (equals name v) := by
  cases v with
  | bool b => exact isBool_blames name (some b)
  | _ => exact compareMember_blames .eq name _

theorem notEquals_blames (name : String) (v : Value) : Blames (notEquals name v) := by
  cases v with
  | bool b => exact (isBool_blames name (some b)).bind fun _ ↦ .ok _
  | _ => exact compareMember_blames .ne name _

theorem matching_blames (kind : StringMatch) (name literal : String) :
    Blames (matching kind name literal) :=
  (checkName_blames _ _).bind fun _ ↦ .ok _

theorem isIn_blames (name : String) (values : List Value) : Blames (isIn name values) :=
  (checkName_blames _ _).bind fun _ ↦ .ite (.error rfl) (.ok _)

theorem isNotIn_blames (name : String) (values : List Value) : Blames (isNotIn name values) :=
  (isIn_blames name values).bind fun _ ↦ .ok _

theorem combineFrom_blames (f : Predicate → Predicate → Predicate) (acc : Option Predicate)
    (index : Nat) (ps : List (Option Predicate)) : Blames (combineFrom f acc index ps) := by
  induction ps generalizing acc index with
  | nil =>
    cases acc with
    | none => exact .error rfl
    | some p => exact .ok p
  | cons item ps ih =>
    cases item with
    | none => exact .error rfl
    | some p => exact ih _ _

end Predicate

namespace Filter

open Predicate

theorem Test.toPredicate_blames (member : String) (t : Test) : Blames (t.toPredicate member) := by
  cases t with
  | compare op v =>
    cases op with
    | eq => exact equals_blames member v
    | ne => exact notEquals_blames member v
    | gt | ge | lt | le => exact compareOrdered_blames _ _ member v
  | isNull => exact equals_blames member .null
  | isNotNull => exact notEquals_blames member .null
  | isIn values => exact isIn_blames member values
  | isNotIn values => exact isNotIn_blames member values
  | matching kind literal => exact matching_blames kind member literal

/-- A filter that was read is refused only with a usage error. -/
theorem toPredicate_blames (f : Filter) : Blames f.toPredicate := by
  induction f with
  | test member t => exact t.toPredicate_blames member
  | not f ih => exact ih.bind fun _ ↦ .ok _
  | and l r ihl ihr | or l r ihl ihr =>
    exact ihl.bind fun _ ↦ ihr.bind fun _ ↦ combineFrom_blames _ _ _ _

end Filter

end QueryChain
