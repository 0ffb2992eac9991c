import QueryChain.Proofs.Condition.Meaning

/-!
# Conditions that narrow each other

A query with several filters wants the rows that all of them want. The filters are joined by `AND`,
and a flat predicate that is an operand gets parentheses of its own. It gets them only if it is the
operand itself: behind an even number of negations, which are not written, a flat disjunction stands
open next to the `AND`. Such a predicate is *loose*. A loose predicate does not narrow with other
filters unless it says no anyway, and this is the only way in which narrowing fails.
-/

namespace QueryChain.Predicate

/-! ## Predicates on their own -/

/-- The predicate can be written as a condition. -/
def Translates (p : Predicate) : Prop := (emitAll [p]).failure = none

instance (p : Predicate) : Decidable p.Translates := inferInstanceAs (Decidable (_ = none))

theorem translates_iff {p : Predicate} : p.Translates ↔ ∃ ts, p.emit false = .write ts := by
  have hall : emitAll [p] = p.emit false := rfl
  rw [Translates, hall]
  constructor
  · intro h
    refine ⟨(p.emit false).tokens, ?_⟩
    rw [Emission.write, ← h]
  · rintro ⟨ts, h⟩
    rw [h]
    rfl

/-- How many disjuncts the text of a predicate, or of its negation, has. -/
def disjunctCount (negated : Bool) : Predicate → Nat
  | not p => p.disjunctCount !negated
  | flatAnd l r => if negated then 1 else l.disjunctCount false + r.disjunctCount false - 1
  | flatOr l r => if negated then 1 else l.disjunctCount false + r.disjunctCount false
  | _ => 1

/-- The text of the predicate is an open disjunction, and as an operand it gets no parentheses. -/
def isLoose (p : Predicate) : Bool := !p.isFlat && decide (1 < p.disjunctCount false)

/-- What the text of a predicate alone says about a row. -/
def evalText (κ : Collation) (d : Dialect) (row : String → Value) (p : Predicate) : Truth :=
  .any (p.disjuncts κ d row false)

variable {κ : Collation} {d : Dialect} {row : String → Value} {bound : List Value}
  {p l r : Predicate} {ps : List Predicate}

theorem length_disjuncts (κ : Collation) (d : Dialect) (row : String → Value) (p : Predicate)
    (negated : Bool) : (p.disjuncts κ d row negated).length = p.disjunctCount negated ∧
      p.disjuncts κ d row negated ≠ [] := by
  induction p generalizing negated with
  | not p ih => exact ih _
  | and l r | or l r => exact ⟨rfl, List.cons_ne_nil _ _⟩
  | flatAnd l r ihl ihr =>
    cases negated with
    | true => exact ⟨rfl, List.cons_ne_nil _ _⟩
    | false =>
      obtain ⟨hl, hlne⟩ := ihl false
      obtain ⟨hr, hrne⟩ := ihr false
      have hlength := Truth.length_link hlne hrne
      have hpos := List.length_pos_iff.mpr hlne
      have hpos' := List.length_pos_iff.mpr hrne
      have hlink : (flatAnd l r).disjuncts κ d row false =
          Truth.link (l.disjuncts κ d row false) (r.disjuncts κ d row false) := List.map_id _
      have hcount : (flatAnd l r).disjunctCount false =
          l.disjunctCount false + r.disjunctCount false - 1 := rfl
      rw [hlink, hcount, ← hl, ← hr, ← List.length_pos_iff]
      omega
  | flatOr l r ihl ihr =>
    cases negated with
    | true => exact ⟨rfl, List.cons_ne_nil _ _⟩
    | false =>
      obtain ⟨hl, hlne⟩ := ihl false
      obtain ⟨hr, hrne⟩ := ihr false
      have happend : (flatOr l r).disjuncts κ d row false =
          l.disjuncts κ d row false ++ r.disjuncts κ d row false := List.map_id _
      have hcount : (flatOr l r).disjunctCount false =
          l.disjunctCount false + r.disjunctCount false := rfl
      rw [happend, hcount, List.length_append, hl, hr]
      exact ⟨rfl, List.append_ne_nil_of_left_ne_nil hlne _⟩
  | _ => exact ⟨rfl, List.cons_ne_nil _ _⟩

theorem meaning?_singleton (h : p.Translates) :
    meaning? κ d row bound [p] = some (p.evalText κ d row) := by
  obtain ⟨ts, hts⟩ := translates_iff.mp h
  exact meaning?_eq κ row bound rfl hts

/-! ## Conjunctions -/

theorem translates_and (hl : l.Translates) (hr : r.Translates) : (and l r).Translates := by
  rw [translates_iff] at hl hr ⊢
  obtain ⟨us, hus⟩ := hl
  obtain ⟨vs, hvs⟩ := hr
  rw [emit, hus, hvs]
  cases l.isFlat <;> cases r.isFlat <;> exact ⟨_, rfl⟩

theorem translates_foldl_and (hp : p.Translates) (hps : ∀ q ∈ ps, q.Translates) :
    (ps.foldl and p).Translates := by
  induction ps generalizing p with
  | nil => exact hp
  | cons q ps ih =>
    rw [List.forall_mem_cons] at hps
    exact ih (translates_and hp hps.1) hps.2

/-- The disjuncts of a predicate as an operand of a grouped connective. -/
def operandDisjuncts (κ : Collation) (d : Dialect) (row : String → Value) (p : Predicate) :
    List Truth :=
  Truth.enclose p.isFlat (p.disjuncts κ d row false)

theorem any_operandDisjuncts : Truth.any (p.operandDisjuncts κ d row) = p.evalText κ d row :=
  Truth.any_enclose _ _

theorem operandDisjuncts_ne_nil : p.operandDisjuncts κ d row ≠ [] := by
  rw [operandDisjuncts, Truth.enclose]
  split
  · exact List.cons_ne_nil _ _
  · exact (length_disjuncts κ d row p false).2

/-- Only a loose predicate is more than one disjunct as an operand. -/
theorem isLoose_iff (κ : Collation) (d : Dialect) (row : String → Value) :
    p.isLoose ↔ 1 < (p.operandDisjuncts κ d row).length := by
  rw [isLoose, operandDisjuncts, Truth.enclose, ← (length_disjuncts κ d row p false).1]
  cases p.isFlat <;> simp

theorem evalText_and_eq : (and l r).evalText κ d row =
    .any (Truth.link (l.operandDisjuncts κ d row) (r.operandDisjuncts κ d row)) := by
  rw [evalText, disjuncts]
  exact Truth.or_fails _

theorem evalText_and (hl : l.isLoose → l.evalText κ d row = .fails)
    (hr : r.isLoose → r.evalText κ d row = .fails) :
    (and l r).evalText κ d row = (l.evalText κ d row).and (r.evalText κ d row) := by
  rw [isLoose_iff κ d row, ← any_operandDisjuncts] at hl hr
  rw [evalText_and_eq, Truth.any_link operandDisjuncts_ne_nil operandDisjuncts_ne_nil hl hr,
    any_operandDisjuncts, any_operandDisjuncts]

theorem evalText_foldl_and (hp : p.isLoose → p.evalText κ d row = .fails)
    (hps : ∀ q ∈ ps, q.isLoose → q.evalText κ d row = .fails) :
    (ps.foldl and p).evalText κ d row =
      .all ((p :: ps).map (evalText κ d row)) := by
  induction ps generalizing p with
  | nil => exact (Truth.and_holds _).symm
  | cons q ps ih =>
    rw [List.forall_mem_cons] at hps
    -- the conjunction so far is a group, and a group is never loose
    have hnode : (and p q).isLoose → (and p q).evalText κ d row = .fails := fun h ↦ by cases h
    rw [List.foldl_cons, ih hnode hps.2, List.map_cons, evalText_and hp hps.1]
    simp only [List.map_cons, Truth.all_cons, Truth.and_assoc]

/-! ## Narrowing -/

/-- The condition that all predicates hold says about a row that each of them holds. -/
def Narrows (κ : Collation) (d : Dialect) (row : String → Value) (bound : List Value)
    (ps : List Predicate) : Prop :=
  ∃ ts, List.Forall₂ (fun p t ↦ meaning? κ d row bound [p] = some t) ps ts ∧
    meaning? κ d row bound ps = some (.all ts)

/-- The predicate is not loose, or it says no anyway. -/
def Tame (κ : Collation) (d : Dialect) (row : String → Value) (bound : List Value)
    (p : Predicate) : Prop :=
  p.isLoose → meaning? κ d row bound [p] = some .fails

theorem narrows_iff (h : ∀ q ∈ p :: ps, q.Translates) : Narrows κ d row bound (p :: ps) ↔
    (ps.foldl and p).evalText κ d row = .all ((p :: ps).map (evalText κ d row)) := by
  have hall := List.forall_mem_cons.mp h
  obtain ⟨ts, hts⟩ := translates_iff.mp (translates_foldl_and hall.1 hall.2)
  have hmeaning : meaning? κ d row bound (p :: ps) = some ((ps.foldl and p).evalText κ d row) :=
    meaning?_eq κ row bound rfl hts
  have hsingle : List.Forall₂ (fun p t ↦ meaning? κ d row bound [p] = some t) (p :: ps)
      ((p :: ps).map (evalText κ d row)) := by
    rw [List.forall₂_map_right_iff, List.forall₂_same]
    exact fun q hq ↦ meaning?_singleton (h q hq)
  constructor
  · rintro ⟨us, hus, heq⟩
    have hunique : Relator.RightUnique
        fun (p : Predicate) t ↦ meaning? κ d row bound [p] = some t :=
      fun p t u ht hu ↦ Option.some.inj (ht.symm.trans hu)
    obtain rfl := List.right_unique_forall₂' hunique hus hsingle
    exact Option.some.inj (hmeaning.symm.trans heq)
  · intro heq
    exact ⟨_, hsingle, by rw [hmeaning, heq]⟩

/-- Predicates that are not loose, or say no anyway, narrow each other. -/
theorem narrows_of_tame (hps : ∀ p ∈ ps, p.Translates)
    (h : ps.length ≤ 1 ∨ ∀ p ∈ ps, Tame κ d row bound p) : Narrows κ d row bound ps := by
  cases ps with
  | nil => exact ⟨[], .nil, rfl⟩
  | cons p ps =>
    rw [narrows_iff hps]
    rcases h with hlength | htame
    · obtain rfl : ps = [] := by
        rw [List.length_cons] at hlength
        rw [← List.length_eq_zero_iff]
        omega
      exact (Truth.and_holds _).symm
    · have hfails : ∀ q ∈ p :: ps, q.isLoose → q.evalText κ d row = .fails := by
        intro q hq hloose
        have hmeaning := htame q hq hloose
        rw [meaning?_singleton (hps q hq)] at hmeaning
        exact Option.some.inj hmeaning
      rw [List.forall_mem_cons] at hfails
      exact evalText_foldl_and hfails.1 hfails.2

/-- For every row there is a test of a column for null that the row fails. -/
theorem exists_disjuncts_fails (κ : Collation) (d : Dialect) (row : String → Value) :
    ∃ q : Predicate, q.Translates ∧ ¬q.isLoose ∧ q.operandDisjuncts κ d row = [.fails] := by
  cases h : (row "A").isNull with
  | true =>
    refine ⟨.compare .ne (.member "A") (.literal .null), by decide, by decide, ?_⟩
    change [(Truth.ofBool (row "A").isNull).not] = [Truth.fails]
    rw [h]
    rfl
  | false =>
    refine ⟨.compare .eq (.member "A") (.literal .null), by decide, by decide, ?_⟩
    change [Truth.ofBool (row "A").isNull] = [Truth.fails]
    rw [h]
    rfl

/-- A predicate that narrows with every filter that is not loose, in front of it and behind it, is
not loose itself, or it says no anyway. -/
theorem tame_of_narrows (hp : p.Translates)
    (h : ∀ q : Predicate, q.Translates → ¬q.isLoose →
      Narrows κ d row bound [p, q] ∧ Narrows κ d row bound [q, p]) : Tame κ d row bound p := by
  intro hloose
  obtain ⟨q, hq, hclosed, hfails⟩ := exists_disjuncts_fails κ d row
  obtain ⟨hpq, hqp⟩ := h q hq hclosed
  have hqfails : q.evalText κ d row = .fails := by
    rw [← any_operandDisjuncts, hfails]
    rfl
  rw [narrows_iff (by simp [hp, hq])] at hpq hqp
  simp only [List.foldl_cons, List.foldl_nil, List.map_cons, List.map_nil, Truth.all_cons,
    Truth.all_nil, Truth.and_holds, hqfails, Truth.and_fails, Truth.fails_and, evalText_and_eq,
    hfails] at hpq hqp
  rw [meaning?_singleton hp, ← any_operandDisjuncts]
  -- behind the failing test the first disjunct is lost, and in front of it the last one
  have hlength := (isLoose_iff κ d row).mp hloose
  generalize p.operandDisjuncts κ d row = ts at hpq hqp hlength
  obtain ⟨t, us, rfl⟩ := List.exists_cons_of_length_pos (Nat.lt_of_succ_lt hlength)
  have hne : us ≠ [] := by
    rintro rfl
    simp at hlength
  obtain ⟨ss, u, rfl⟩ : ∃ ss u, us = ss ++ [u] := ⟨_, _, (List.dropLast_concat_getLast hne).symm⟩
  rw [Truth.any_link_of_left_fails (List.cons_ne_nil _ _) rfl] at hqp
  rw [← List.cons_append, Truth.any_link_of_right_fails (List.cons_ne_nil _ _) rfl, Truth.any_cons,
    Truth.or_eq_fails] at hpq
  rw [Truth.any_cons, hpq.1, hqp]
  rfl

/-- **Filters narrow each other exactly as far as none is loose.** Filters of which every loose one
says no to the row narrow each other; and a predicate that narrows with every filter that is not
loose is not loose itself, or it says no to the row. -/
theorem narrows_iff_tame (κ : Collation) (d : Dialect) (row : String → Value) (bound : List Value) :
    (∀ ps : List Predicate, (∀ p ∈ ps, p.Translates) →
      (ps.length ≤ 1 ∨ ∀ p ∈ ps, Tame κ d row bound p) → Narrows κ d row bound ps) ∧
    ∀ p : Predicate, p.Translates →
      ((∀ q : Predicate, q.Translates → ¬q.isLoose →
        Narrows κ d row bound [p, q] ∧ Narrows κ d row bound [q, p]) ↔ Tame κ d row bound p) := by
  refine ⟨fun ps ↦ narrows_of_tame, fun p hp ↦ ⟨tame_of_narrows hp, fun htame q hq hclosed ↦ ?_⟩⟩
  have hqtame : Tame κ d row bound q := fun hloose ↦ absurd hloose hclosed
  constructor
  · exact narrows_of_tame (by simp [hp, hq]) (.inr (by simp [htame, hqtame]))
  · exact narrows_of_tame (by simp [hp, hq]) (.inr (by simp [htame, hqtame]))

/-- A flat disjunction that is an operand itself gets parentheses, so it narrows. -/
theorem narrows_flatOr : Narrows ⟨fun _ _ ↦ .eq, fun _ _ ↦ false⟩ .postgres (fun _ ↦ .int32 1) []
    [.flatOr (.compare .eq (.member "A") (.literal (.int32 1))) (.boolEquals "B" none),
      .not (.compare .eq (.member "C") (.literal (.int32 3)))] :=
  (narrows_iff_tame ⟨fun _ _ ↦ .eq, fun _ _ ↦ false⟩ .postgres (fun _ ↦ .int32 1) []).1 _
    (by decide) (.inr (by
      rw [List.forall_mem_cons, List.forall_mem_singleton]
      exact ⟨fun h ↦ absurd h (by decide), fun h ↦ absurd h (by decide)⟩))

/-- A flat disjunction behind two negations, and another filter. -/
def looseFilters : List Predicate :=
  [.not (.not (.flatOr (.compare .eq (.member "A") (.literal (.int32 1)))
      (.compare .eq (.member "B") (.literal (.int32 2))))),
    .compare .eq (.member "C") (.literal (.int32 3))]

/-- Behind two negations a flat disjunction stands open: the condition holds for a row that the next
filter rejects. Values are compared by the number they hold. -/
theorem not_narrows_looseFilters :
    (∀ p ∈ looseFilters, p.Translates) ∧
    (toCondition .sqlServer [] looseFilters).1 =
      .ok "(A = @param0 OR B = @param1 AND C = @param2)" ∧
    ¬Narrows ⟨fun v w ↦ Ord.compare (v.asInt64?.getD 0).toInt (w.asInt64?.getD 0).toInt,
      fun _ _ ↦ false⟩ .sqlServer (fun name ↦ if name = "A" then .int32 1 else .int32 0) []
      looseFilters := by
  refine ⟨by decide, by decide +kernel, ?_⟩
  rw [looseFilters, narrows_iff (by decide)]
  decide +kernel

end QueryChain.Predicate
