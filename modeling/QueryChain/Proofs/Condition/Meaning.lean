import QueryChain.Proofs.Condition.Reader
import QueryChain.Proofs.Condition.Surface

/-!
# The meaning of condition texts

What the database makes of a condition: the text is taken apart into tokens, in which the parameters
have the values bound for them, and the tokens are read. For predicates without flat connectives,
the condition that is read says about every row what the predicate says.
-/

namespace QueryChain

namespace SearchCondition

/-- The condition that a text stands for, with the values bound for its parameters. -/
def parse? (d : Dialect) (store : List Value) (gs : List Glyph) : Option SearchCondition :=
  (Glyph.tokens? (d.refer 1 (Parameter.numberFrom 0 store)) gs).bind read?

/-- A text behind parameters that are bound already is read with the values of its own constants. -/
theorem parse?_inscription (d : Dialect) (bound : List Value) {ts : List Token}
    {c : SearchCondition} (h : Reads .disjunction (ts.map (Token.settle d)) c) :
    parse? d (bound ++ (Token.constants ts).map (Constant.bound d))
      (Token.inscription d bound.length ts) = some c := by
  have hresolved : Token.Resolved (d.refer 1 (Parameter.numberFrom 0
      (bound ++ (Token.constants ts).map (Constant.bound d)))) d bound.length ts := by
    intro k v hv
    have hrefer := d.refer_placeholder 0 (bound.length + k)
      (bound ++ (Token.constants ts).map (Constant.bound d))
    rw [Nat.zero_add, Nat.zero_add] at hrefer
    rw [hrefer, List.getElem?_append_right (Nat.le_add_right _ _), Nat.add_sub_cancel_left]
    exact hv
  rw [parse?, Token.tokens?_inscription hresolved, Option.bind_some, read?_of_reads h]

end SearchCondition

namespace Predicate

/-- The condition that all predicates hold, as `toCondition` writes it, with member names as single
signs. -/
def inscribe (d : Dialect) (bound : List Value) (ps : List Predicate) :
    Except Error (List Glyph) × List Value :=
  let e := emitAll ps
  (e.toExcept.map (Token.inscription d bound.length),
    bound ++ (Token.constants e.tokens).map (Constant.bound d))

theorem toCondition_eq_inscribe (d : Dialect) (bound : List Value) (ps : List Predicate) :
    toCondition d bound ps =
      ((inscribe d bound ps).1.map Glyph.text, (inscribe d bound ps).2) := by
  rw [toCondition, inscribe]
  cases (emitAll ps).toExcept with
  | error err => rfl
  | ok ts =>
    simp only [Except.map]
    rw [Token.text_inscription]

/-- What the condition that all predicates hold says about a row, as the database reads it. Without
a text there is no condition, and every row is wanted. -/
def meaning? (κ : Collation) (d : Dialect) (row : String → Value) (bound : List Value)
    (ps : List Predicate) : Option Truth :=
  match inscribe d bound ps with
  | (.error _, _) => none
  | (.ok [], _) => some .holds
  | (.ok gs, store) => (SearchCondition.parse? d store gs).map fun c ↦ c.eval κ row

variable {d : Dialect} {p : Predicate} {ps : List Predicate} {ts : List Token}

theorem inscribe_of_emit (bound : List Value) (hp : conjunction? ps = some p)
    (h : p.emit false = .write ts) :
    inscribe d bound ps = (.ok (Token.inscription d bound.length ts),
      bound ++ (Token.constants ts).map (Constant.bound d)) := by
  have hall : emitAll ps = .write ts := by
    rw [emitAll, hp]
    exact h
  rw [inscribe, hall]
  rfl

/-- The text of a predicate is read as the disjunction of its disjuncts. -/
theorem exists_parse (d : Dialect) (bound : List Value) (h : p.emit false = .write ts) :
    ∃ c, SearchCondition.parse? d (bound ++ (Token.constants ts).map (Constant.bound d))
        (Token.inscription d bound.length ts) = some c ∧
      ∀ κ row, c.eval κ row = .any (p.disjuncts κ d row false) := by
  obtain ⟨cs, hcs, heval⟩ := surfaces_of_emit d h
  obtain ⟨c, hc, hany⟩ := hcs.exists_reads
  refine ⟨c, SearchCondition.parse?_inscription d bound hc, fun κ row ↦ ?_⟩
  rw [hany, heval]

theorem meaning?_eq (κ : Collation) (row : String → Value) (bound : List Value)
    (hp : conjunction? ps = some p) (h : p.emit false = .write ts) :
    meaning? κ d row bound ps = some (.any (p.disjuncts κ d row false)) := by
  obtain ⟨c, hparse, heval⟩ := exists_parse d bound h
  rw [meaning?, inscribe_of_emit bound hp h]
  cases hgs : Token.inscription d bound.length ts with
  | nil =>
    rw [hgs] at hparse
    cases hparse
  | cons g gs =>
    rw [hgs] at hparse
    simp only [hparse, Option.map_some, heval]

/-! ## Grouped predicates -/

/-- No connective of the predicate is flat. -/
def isGrouped : Predicate → Bool
  | not p => p.isGrouped
  | and l r | or l r => l.isGrouped && r.isGrouped
  | flatAnd .. | flatOr .. => false
  | _ => true

theorem not_isFlat_of_isGrouped (h : p.isGrouped) : p.isFlat = false := by
  cases p <;> first | rfl | cases h

/-- The text of a grouped predicate is closed, and it says what the predicate says. -/
theorem disjuncts_of_isGrouped (κ : Collation) (d : Dialect) (row : String → Value)
    (h : p.isGrouped) (negated : Bool) :
    p.disjuncts κ d row negated = [(p.eval κ d row).notIf negated] := by
  -- both operands of a group are written without negation, whatever the flag is
  induction p generalizing negated with
  | not p ih => rw [disjuncts, ih h, eval, Truth.not_notIf]
  | and l r ihl ihr =>
    obtain ⟨hl, hr⟩ := Bool.and_eq_true_iff.mp h
    rw [disjuncts, ihl hl, ihr hr, not_isFlat_of_isGrouped hl, not_isFlat_of_isGrouped hr]
    simp [Truth.enclose, eval]
  | or l r ihl ihr =>
    obtain ⟨hl, hr⟩ := Bool.and_eq_true_iff.mp h
    rw [disjuncts, ihl hl, ihr hr, not_isFlat_of_isGrouped hl, not_isFlat_of_isGrouped hr]
    simp [Truth.enclose, eval]
  | flatAnd l r | flatOr l r => cases h
  | _ => rfl

/-- **Writing a condition preserves its meaning.** Whatever is bound before, the text of a grouped
predicate is read as a condition that says about every row what the predicate says. -/
theorem eval_parse_toCondition (d : Dialect) {bound store : List Value} {text : String}
    (hp : p.isGrouped) (h : toCondition d bound [p] = (.ok text, store)) :
    ∃ gs c, inscribe d bound [p] = (.ok gs, store) ∧ Glyph.text gs = text ∧
      SearchCondition.parse? d store gs = some c ∧ ∀ κ row, c.eval κ row = p.eval κ d row := by
  obtain ⟨hstore, ts, hts⟩ : (inscribe d bound [p]).2 = store ∧ ∃ ts, p.emit false = .write ts := by
    refine ⟨congrArg Prod.snd h, ?_⟩
    cases hemit : (p.emit false).toExcept with
    | ok ts => exact ⟨ts, Emission.toExcept_eq_ok.mp hemit⟩
    | error err =>
      have herror : (toCondition d bound [p]).1 = .error err := congrArg (Except.map _) hemit
      rw [h] at herror
      cases herror
  have hinscribe : inscribe d bound [p] = _ := inscribe_of_emit bound rfl hts
  have htext := toCondition_eq_inscribe d bound [p]
  rw [hinscribe, h] at htext
  rw [hinscribe] at hstore
  subst hstore
  obtain ⟨c, hparse, heval⟩ := exists_parse d bound hts
  refine ⟨_, c, hinscribe, ?_, hparse, fun κ row ↦ ?_⟩
  · have hfst := congrArg Prod.fst htext
    exact (Except.ok.inj hfst).symm
  · rw [heval, disjuncts_of_isGrouped κ d row hp]
    exact Truth.or_fails _

/-- A negated disjunction behind a bound parameter, with a null constant on the left of a test. -/
theorem eval_parse_toCondition_not_or : ∃ gs c,
    inscribe .postgres [.int32 7] [.not (.or (.compare .gt (.member "A") (.literal (.int32 1)))
      (.not (.compare .eq (.literal .null) (.member "B"))))] = (.ok gs, [.int32 7, .int32 1]) ∧
    Glyph.text gs = "NOT (A > $2 OR B IS NOT NULL)" ∧
    SearchCondition.parse? .postgres [.int32 7, .int32 1] gs = some c ∧
    ∀ κ row, c.eval κ row = (Predicate.not (.or
      (.compare .gt (.member "A") (.literal (.int32 1)))
      (.not (.compare .eq (.literal .null) (.member "B"))))).eval κ .postgres row :=
  eval_parse_toCondition .postgres (by decide) (by decide +kernel)

end Predicate

end QueryChain
