import QueryChain.Predicate.Basic

/-!
# Truth in SQL

A comparison with a null value is neither true nor false, so conditions have three truth values and
the connectives are those of three-valued logic. How values that are not null compare is a matter of
the database; a `Collation` stands for it, and everything proved here holds for every collation.
-/

namespace QueryChain

/-- What a condition says about one row. Only rows for which it holds are selected. -/
inductive Truth
  | holds
  | fails
  | unknown
deriving DecidableEq, Repr

namespace Truth

def ofBool (b : Bool) : Truth := if b then holds else fails

def not : Truth → Truth
  | holds => fails
  | fails => holds
  | unknown => unknown

def and : Truth → Truth → Truth
  | holds, t => t
  | fails, _ => fails
  | unknown, fails => fails
  | unknown, _ => unknown

def or : Truth → Truth → Truth
  | fails, t => t
  | holds, _ => holds
  | unknown, holds => holds
  | unknown, _ => unknown

@[simp] theorem not_not (t : Truth) : t.not.not = t := by cases t <;> rfl

@[simp] theorem not_ofBool (b : Bool) : (ofBool b).not = ofBool !b := by cases b <;> rfl

@[simp] theorem holds_and (t : Truth) : holds.and t = t := rfl

@[simp] theorem and_holds (t : Truth) : t.and holds = t := by cases t <;> rfl

@[simp] theorem fails_and (t : Truth) : fails.and t = fails := rfl

@[simp] theorem and_fails (t : Truth) : t.and fails = fails := by cases t <;> rfl

@[simp] theorem fails_or (t : Truth) : fails.or t = t := rfl

@[simp] theorem or_fails (t : Truth) : t.or fails = t := by cases t <;> rfl

theorem and_assoc (t u v : Truth) : (t.and u).and v = t.and (u.and v) := by
  cases t <;> cases u <;> cases v <;> rfl

theorem or_assoc (t u v : Truth) : (t.or u).or v = t.or (u.or v) := by
  cases t <;> cases u <;> cases v <;> rfl

theorem or_eq_fails {t u : Truth} : t.or u = fails ↔ t = fails ∧ u = fails := by
  cases t <;> cases u <;> decide

/-- The negation of a truth value where it applies. -/
def notIf (negated : Bool) (t : Truth) : Truth := if negated then t.not else t

@[simp] theorem notIf_false (t : Truth) : t.notIf false = t := rfl

@[simp] theorem notIf_true (t : Truth) : t.notIf true = t.not := rfl

theorem not_notIf (negated : Bool) (t : Truth) : t.not.notIf negated = t.notIf !negated := by
  cases negated
  · rfl
  · exact not_not t

/-- The conjunction of a list. -/
def all (ts : List Truth) : Truth := ts.foldr and holds

/-- The disjunction of a list. -/
def any (ts : List Truth) : Truth := ts.foldr or fails

@[simp] theorem all_nil : all [] = holds := rfl

@[simp] theorem all_cons (t : Truth) (ts : List Truth) : all (t :: ts) = t.and (all ts) := rfl

@[simp] theorem any_nil : any [] = fails := rfl

@[simp] theorem any_cons (t : Truth) (ts : List Truth) : any (t :: ts) = t.or (any ts) := rfl

theorem any_append (ts us : List Truth) : any (ts ++ us) = (any ts).or (any us) := by
  induction ts with
  | nil => rfl
  | cons t ts ih => rw [List.cons_append, any_cons, any_cons, ih, or_assoc]

/-! ## Open disjunctions

A text with `OR` on its surface is an open disjunction: a neighbour can reach into it. It stands for
the list of its disjuncts, from left to right. -/

/-- The disjuncts of two texts with an `AND` between them. The `AND` joins its two neighbours, and
the other disjuncts stay apart. -/
def link : List Truth → List Truth → List Truth
  | [], us => us
  | [t], u :: us => t.and u :: us
  | t :: ts, us => t :: link ts us

theorem link_cons_cons (s t : Truth) (ts us : List Truth) :
    link (s :: t :: ts) us = s :: link (t :: ts) us := by
  cases us <;> rfl

@[simp] theorem link_singleton (t u : Truth) : link [t] [u] = [t.and u] := rfl

theorem length_link {ts us : List Truth} (ht : ts ≠ []) (hu : us ≠ []) :
    (link ts us).length + 1 = ts.length + us.length := by
  induction ts with
  | nil => exact absurd rfl ht
  | cons t ts ih =>
    cases ts with
    | nil =>
      cases us with
      | nil => exact absurd rfl hu
      | cons u us =>
        simp only [link, List.length_cons, List.length_nil]
        omega
    | cons s ts =>
      rw [link_cons_cons, List.length_cons, ih (List.cons_ne_nil _ _)]
      simp only [List.length_cons]
      omega

theorem link_append_singleton (ts : List Truth) (t u : Truth) (us : List Truth) :
    link (ts ++ [t]) (u :: us) = ts ++ t.and u :: us := by
  induction ts with
  | nil => rfl
  | cons s ts ih =>
    cases ts with
    | nil => rfl
    | cons r ts =>
      rw [List.cons_append, List.cons_append, link_cons_cons, ← List.cons_append, ih]
      rfl

/-- If everything in front of an `AND` fails, the disjunct behind it is lost. -/
theorem any_link_of_left_fails {ts : List Truth} (hne : ts ≠ []) (h : any ts = fails) (u : Truth)
    (us : List Truth) : any (link ts (u :: us)) = any us := by
  obtain ⟨ss, t, rfl⟩ : ∃ ss t, ts = ss ++ [t] :=
    ⟨_, _, (List.dropLast_concat_getLast hne).symm⟩
  rw [any_append, or_eq_fails, any_cons, any_nil, or_fails] at h
  obtain ⟨hs, rfl⟩ := h
  rw [link_append_singleton, any_append, any_cons, hs, fails_and, fails_or, fails_or]

/-- If everything behind an `AND` fails, the disjunct in front of it is lost. -/
theorem any_link_of_right_fails {us : List Truth} (hne : us ≠ []) (h : any us = fails)
    (ts : List Truth) (t : Truth) : any (link (ts ++ [t]) us) = any ts := by
  obtain ⟨u, us, rfl⟩ := List.exists_cons_of_ne_nil hne
  rw [any_cons, or_eq_fails] at h
  obtain ⟨rfl, hs⟩ := h
  rw [link_append_singleton, any_append, any_cons, hs, and_fails, or_fails, or_fails]

/-- An `AND` between two texts is their conjunction if each has one disjunct only or fails. -/
theorem any_link {ts us : List Truth} (hts : ts ≠ []) (hus : us ≠ [])
    (ht : 1 < ts.length → any ts = fails) (hu : 1 < us.length → any us = fails) :
    any (link ts us) = (any ts).and (any us) := by
  by_cases hfails : any ts = fails
  · obtain ⟨u, us, rfl⟩ := List.exists_cons_of_ne_nil hus
    rw [any_link_of_left_fails hts hfails, hfails, fails_and]
    cases us with
    | nil => rfl
    | cons v us =>
      have hboth := hu (by simp)
      rw [any_cons, or_eq_fails] at hboth
      exact hboth.2
  · have hone : ts.length = 1 := by
      have hpos := List.length_pos_iff.mpr hts
      have hnot : ¬1 < ts.length := fun h ↦ hfails (ht h)
      omega
    obtain ⟨t, rfl⟩ := List.length_eq_one_iff.mp hone
    by_cases hright : any us = fails
    · rw [hright, and_fails]
      exact any_link_of_right_fails hus hright [] t
    · have hone : us.length = 1 := by
        have hpos := List.length_pos_iff.mpr hus
        have hnot : ¬1 < us.length := fun h ↦ hright (hu h)
        omega
      obtain ⟨u, rfl⟩ := List.length_eq_one_iff.mp hone
      simp

/-- Between parentheses, disjuncts become one. -/
def enclose (parens : Bool) (ts : List Truth) : List Truth := if parens then [any ts] else ts

@[simp] theorem any_enclose (parens : Bool) (ts : List Truth) :
    any (enclose parens ts) = any ts := by
  cases parens with
  | false => rfl
  | true => exact or_fails _

end Truth

/-- The order of two values says whether a comparison of them holds. -/
def CompareOp.accepts : CompareOp → Ordering → Bool
  | eq, o => o == .eq
  | ne, o => o != .eq
  | gt, o => o == .gt
  | ge, o => o != .lt
  | lt, o => o == .lt
  | le, o => o != .gt

@[simp] theorem CompareOp.accepts_negate (op : CompareOp) (o : Ordering) :
    op.negate.accepts o = !op.accepts o := by
  cases op <;> cases o <;> rfl

/-- How a database compares values that are not null. -/
structure Collation where
  /-- The place of the first value relative to the second. -/
  compare : Value → Value → Ordering
  /-- The first value matches the second as a pattern. -/
  matchesPattern : Value → Value → Bool

namespace Collation

variable (κ : Collation)

/-- A comparison, which is unknown as soon as one side is null. -/
def relate (op : CompareOp) (v w : Value) : Truth :=
  if v.isNull || w.isNull then .unknown else .ofBool (op.accepts (κ.compare v w))

/-- A search for a pattern. -/
def like (v pattern : Value) : Truth :=
  if v.isNull || pattern.isNull then .unknown else .ofBool (κ.matchesPattern v pattern)

/-- Membership in a list: the disjunction of the equalities with its elements. -/
def among (v : Value) (ws : List Value) : Truth := .any (ws.map (κ.relate .eq v))

theorem relate_negate (op : CompareOp) (v w : Value) :
    κ.relate op.negate v w = (κ.relate op v w).not := by
  unfold relate
  split
  · rfl
  · rw [CompareOp.accepts_negate, Truth.not_ofBool]

end Collation

end QueryChain
