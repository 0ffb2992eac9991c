import QueryChain.Proofs.Statement.Layout

/-!
# Conditions reach the statement

The clause `WHERE` is left out where there is nothing to filter on. A change that lost its condition
in this way would touch every row, so it matters that nothing else leaves the clause out: no
predicate has an empty text, and one that has no text at all is an error of the whole statement.

A request is compared with the same request without its conditions. The two statements differ in the
clause only, and the clause is there exactly if the request has a condition.
-/

namespace QueryChain

/-! ## Conditions have a text -/

namespace Template

/-- A template with an empty text has no part that could be seen. -/
theorem eq_text_of_render_eq_empty {d : Dialect} {start : Nat} {t : Template}
    (h : render d start t = "") : ∀ p ∈ t, p = .text "" := by
  induction t generalizing start with
  | nil => exact fun p hp ↦ absurd hp List.not_mem_nil
  | cons p t ih =>
    cases p with
    | text s =>
      rw [render, parts, String.join_cons, String.append_eq_empty_iff] at h
      exact List.forall_mem_cons.mpr ⟨congrArg Piece.text h.1, ih h.2⟩
    | hole c =>
      rw [render, parts, String.join_cons, String.append_eq_empty_iff] at h
      cases d with
      | sqlServer => exact absurd (String.append_eq_empty_iff.mp h.1).1 (by decide)
      | postgres => exact absurd (String.append_eq_empty_iff.mp h.1).1 (by decide)

/-- What binds nothing has the same text behind any number of parameters. -/
theorem render_of_values_eq_nil {d : Dialect} {t : Template} (h : t.values d = []) (start : Nat) :
    render d start t = render d 0 t := by
  have hparts : ∀ t : Template, t.constants = [] → parts d start t = parts d 0 t := by
    intro t ht
    induction t with
    | nil => rfl
    | cons p t ih =>
      cases p with
      | text s => exact congrArg (s :: ·) (ih ht)
      | hole c => cases ht
  rw [values, List.map_eq_nil_iff] at h
  rw [render, hparts t h, render]

end Template

theorem Token.piece_mem_spell {t : Token} {ts : List Token} (h : t ∈ ts) : t.piece ∈ spell ts := by
  fun_induction spell ts with
  | case1 => cases h
  | case2 u => exact List.mem_singleton.mpr (congrArg piece (List.mem_singleton.mp h))
  | case3 u v rest hspaced ih =>
    rcases List.mem_cons.mp h with rfl | h
    · exact List.mem_cons_self
    · exact List.mem_cons_of_mem _ (List.mem_cons_of_mem _ (ih h))
  | case4 u v rest hspaced ih =>
    rcases List.mem_cons.mp h with rfl | h
    · exact List.mem_cons_self
    · exact List.mem_cons_of_mem _ (ih h)

namespace Predicate

variable {d : Dialect} {p : Predicate} {ps : List Predicate} {ts : List Token}

/-- A test holds a sign or a keyword next to its member. -/
theorem exists_piece_of_emitCompare {op : CompareOp} {l r : Predicate}
    (h : emitCompare op l r = .write ts) : ∃ t ∈ ts, t.piece ≠ .text "" := by
  obtain ⟨name, v, memberFirst, hwritten, -, -⟩ := emitCompare_eq_write h
  rcases emitComparison_eq_write hwritten with ⟨-, ⟨-, rfl⟩ | ⟨-, rfl⟩⟩ | ⟨-, rfl⟩
  · exact ⟨.is, by simp [nullTest], by decide⟩
  · exact ⟨.is, by simp [nullTest], by decide⟩
  · cases memberFirst with
    | true => exact ⟨.sign op, by simp, by cases op <;> decide⟩
    | false => exact ⟨.sign op, by simp, by cases op <;> decide⟩

/-- Whatever its members are called, the text of a predicate is not empty. -/
theorem exists_piece_of_emit {negated : Bool} (h : p.emit negated = .write ts) :
    ∃ t ∈ ts, t.piece ≠ .text "" := by
  induction p generalizing negated ts with
  | member name => cases h
  | literal v => cases h
  | not p ih => exact ih h
  | and l r ihl ihr =>
    obtain ⟨us, vs, -, -, rfl⟩ := joined_eq_write l.isFlat r.isFlat h
    exact ⟨.leftParen, by simp [Token.enclose], by decide⟩
  | or l r ihl ihr =>
    obtain ⟨us, vs, -, -, rfl⟩ := joined_eq_write l.isFlat r.isFlat h
    exact ⟨.leftParen, by simp [Token.enclose], by decide⟩
  | flatAnd l r ihl ihr =>
    obtain ⟨us, vs, -, -, rfl⟩ := joined_eq_write false false h
    exact ⟨.and, by cases negated <;> simp [Token.enclose], by decide⟩
  | flatOr l r ihl ihr =>
    obtain ⟨us, vs, -, -, rfl⟩ := joined_eq_write false false h
    exact ⟨.or, by cases negated <;> simp [Token.enclose], by decide⟩
  | compare op l r => exact exists_piece_of_emitCompare h
  | like kind name s =>
    obtain rfl := Emission.write_inj.mp (emitNamed_eq_write h)
    exact ⟨.like, by simp, by decide⟩
  | inSet name vs =>
    obtain ⟨-, rfl⟩ := emitIn_eq_write h
    exact ⟨.inList, by simp, by decide⟩
  | boolEquals name b =>
    have hwritten := emitNamed_eq_write h
    cases b with
    | none =>
      obtain rfl := Emission.write_inj.mp hwritten
      exact ⟨.is, by simp [nullTest], by decide⟩
    | some b =>
      obtain rfl := Emission.write_inj.mp hwritten
      exact ⟨.sign (if negated then .ne else .eq), by simp, by cases negated <;> decide⟩

theorem render_spell_ne_empty (start : Nat) (h : emitAll (p :: ps) = .write ts) :
    Template.render d start (Token.spell ts) ≠ "" := by
  obtain ⟨t, ht, hpiece⟩ := exists_piece_of_emit (p := ps.foldl and p) h
  exact fun hempty ↦ hpiece
    (Template.eq_text_of_render_eq_empty hempty _ (Token.piece_mem_spell ht))

/-- A condition is written, or it is an error. -/
theorem toCondition_of_emitAll (bound : List Value) (h : emitAll ps = .write ts) :
    toCondition d bound ps = (.ok (Template.render d bound.length (Token.spell ts)),
      bound ++ (Template.values d (Token.spell ts))) := by
  rw [toCondition, h, Template.values, Token.constants_spell]
  rfl

/-- A condition with a text was written. -/
theorem exists_emitAll_of_toCondition {bound store : List Value} {text : String}
    (h : toCondition d bound ps = (.ok text, store)) : ∃ ts, emitAll ps = .write ts := by
  cases hts : (emitAll ps).toExcept with
  | ok ts => exact ⟨ts, Emission.toExcept_eq_ok.mp hts⟩
  | error err =>
    rw [toCondition, hts] at h
    cases h

end Predicate

/-! ## Statements with a condition and without -/

variable {d : Dialect} {ps : List Predicate} {ts : List Token}

/-- The clause of a condition. -/
theorem render_whereClause (h : Predicate.emitAll ps = .write ts) (start : Nat) :
    (whereClause ts).render d start =
      if ps = [] then "" else " WHERE " ++ Template.render d start (Token.spell ts) := by
  cases ps with
  | nil =>
    obtain rfl := Emission.write_inj.mp h
    rfl
  | cons p ps =>
    obtain ⟨t, ht, -⟩ := Predicate.exists_piece_of_emit (p := ps.foldl .and p) h
    rw [whereClause, if_neg (List.ne_nil_of_mem ht), if_neg (List.cons_ne_nil p ps)]
    exact String.join_cons

/-- A statement in which a condition stands between two parts, the second of which binds nothing. -/
theorem toStatement_whereClause {head tail : Template} {text : String} {store : List Value}
    (h : Predicate.emitAll ps = .write ts) (htail : tail.values d = [])
    (hcondition : Predicate.toCondition d (head.values d) ps = (.ok text, store)) :
    (head ++ (whereClause ts ++ tail)).toStatement d =
      ⟨head.render d 0 ++ ((if ps = [] then "" else " WHERE " ++ text) ++ tail.render d 0),
        Parameter.numberFrom 0 store⟩ := by
  rw [Predicate.toCondition_of_emitAll _ h, Prod.mk.injEq] at hcondition
  obtain ⟨htext, rfl⟩ := hcondition
  obtain rfl := Except.ok.inj htext
  have hlength : (head.values d).length = head.constants.length := List.length_map _
  have hvalues : (whereClause ts).values d = Template.values d (Token.spell ts) := by
    rw [whereClause]
    split
    · next hnil => rw [hnil]; rfl
    · rfl
  rw [Template.toStatement, Template.render_append, Template.render_append, Nat.zero_add,
    render_whereClause h, Template.render_of_values_eq_nil htail, hlength, Template.values_append,
    Template.values_append, hvalues, htail, List.append_nil]

/-- A statement without a condition. -/
theorem toStatement_append {head tail : Template} (htail : tail.values d = []) :
    (head ++ tail).toStatement d =
      ⟨head.render d 0 ++ tail.render d 0, Parameter.numberFrom 0 (head.values d)⟩ := by
  rw [Template.toStatement, Template.render_append, Template.render_of_values_eq_nil htail,
    Template.values_append, htail, List.append_nil]

/-! ## Changes -/

namespace Statement

/-- The statement `s` is the change `bare`, narrowed to the rows that satisfy a condition. The
constants of the condition are bound behind the given ones. -/
def Narrows (d : Dialect) (bound : List Value) (p : Predicate) (bare s : Statement) : Prop :=
  ∃ text store, Predicate.toCondition d bound [p] = (.ok text, store) ∧ text ≠ "" ∧
    s = ⟨bare.sql ++ " WHERE " ++ text, Parameter.numberFrom 0 store⟩

variable {p : Option Predicate} {s : Statement}

theorem toStatement_narrows {head : Template} {q : Predicate}
    (h : Predicate.emitAll [q] = .write ts) :
    Narrows d (head.values d) q (head.toStatement d) ((head ++ whereClause ts).toStatement d) := by
  have hcondition := Predicate.toCondition_of_emitAll (d := d) (head.values d) h
  refine ⟨_, _, hcondition, Predicate.render_spell_ne_empty _ h, ?_⟩
  have hnil : Template.values d [] = [] := rfl
  have hstatement := toStatement_whereClause h hnil hcondition
  rw [List.append_nil, if_neg (List.cons_ne_nil q [])] at hstatement
  have hend : Template.render d 0 [] = "" := rfl
  rw [hstatement, hend, String.append_empty, String.append_assoc]
  rfl

theorem narrows_iff {head : Template} {q : Predicate} :
    Narrows d (head.values d) q (head.toStatement d) s ↔
      ∃ ts, Predicate.emitAll [q] = .write ts ∧ s = (head ++ whereClause ts).toStatement d := by
  constructor
  · rintro ⟨text, store, hcondition, hne, rfl⟩
    obtain ⟨ts, hts⟩ := Predicate.exists_emitAll_of_toCondition hcondition
    -- the condition has one text, so both statements have it
    obtain ⟨text', store', hcondition', -, heq⟩ :
        Narrows d (head.values d) q (head.toStatement d) _ := toStatement_narrows hts
    rw [hcondition, Prod.mk.injEq] at hcondition'
    obtain ⟨htext, rfl⟩ := hcondition'
    obtain rfl := Except.ok.inj htext
    exact ⟨ts, hts, heq.symm⟩
  · rintro ⟨ts, hts, rfl⟩
    exact toStatement_narrows hts

/-- The part of a deletion in front of its condition. -/
def deleteHead (source : String) : Template := [.text ("DELETE FROM " ++ source)]

/-- The part of an update in front of its condition. -/
def updateHead (target : String) (fields : List (String × Value)) : Template :=
  .text ("UPDATE " ++ target ++ " SET ") :: assignments fields

theorem conditionTokens_eq_ok : conditionTokens p = .ok ts ↔
    Predicate.emitAll p.toList = .write ts :=
  Emission.toExcept_eq_ok

theorem delete_eq_ok {source : String} : delete source p d = .ok s ↔
    checkName "source" source = .ok () ∧
      ∃ ts, Predicate.emitAll p.toList = .write ts ∧
        s = (deleteHead source ++ whereClause ts).toStatement d := by
  rw [delete, deleteTemplate]
  simp only [Except.bind_eq_ok, conditionTokens_eq_ok, pure, Except.pure, Except.ok.injEq]
  constructor
  · rintro ⟨_, ⟨_, hname, ts, hts, rfl⟩, rfl⟩
    exact ⟨hname, ts, hts, rfl⟩
  · rintro ⟨hname, ts, hts, rfl⟩
    exact ⟨_, ⟨_, hname, ts, hts, rfl⟩, rfl⟩

theorem update_eq_ok {target : String} {fields : List (String × Value)} :
    update target fields p d = .ok s ↔
      checkName "update_target" target = .ok () ∧ fields ≠ [] ∧ checkFields fields = .ok () ∧
        ∃ ts, Predicate.emitAll p.toList = .write ts ∧
          s = (updateHead target fields ++ whereClause ts).toStatement d := by
  rw [update, updateTemplate]
  by_cases hnone : fields.isEmpty
  · rw [if_pos hnone]
    constructor
    · intro h
      obtain ⟨_, ht, -⟩ := Except.bind_eq_ok.mp h
      obtain ⟨_, -, ht⟩ := Except.bind_eq_ok.mp ht
      cases ht
    · rintro ⟨-, hne, -⟩
      exact absurd (List.isEmpty_iff.mp hnone) hne
  · have hne : fields ≠ [] := fun hnil ↦ hnone (List.isEmpty_iff.mpr hnil)
    rw [if_neg hnone]
    simp only [Except.bind_eq_ok, conditionTokens_eq_ok, pure, Except.pure, Except.ok.injEq]
    constructor
    · rintro ⟨_, ⟨_, hname, _, hfields, ts, hts, rfl⟩, rfl⟩
      exact ⟨hname, hne, hfields, ts, hts, rfl⟩
    · rintro ⟨hname, -, hfields, ts, hts, rfl⟩
      exact ⟨_, ⟨_, hname, _, hfields, ts, hts, rfl⟩, rfl⟩

end Statement

/-! ## Queries -/

/-- The terminal without its condition. -/
def Terminal.unfiltered : Terminal → Terminal
  | toList => toList
  | count _ => count none
  | first _ => first none
  | firstOrDefault _ => firstOrDefault none

namespace Terminal

variable (t : Terminal)

theorem predicate?_unfiltered : t.unfiltered.predicate? = none := by cases t <;> rfl

theorem isCount_unfiltered : t.unfiltered.isCount = t.isCount := by cases t <;> rfl

theorem isFirst_unfiltered : t.unfiltered.isFirst = t.isFirst := by cases t <;> rfl

end Terminal

/-- The operator without its condition, unless it is a filter. -/
def Operator.unfiltered? : Operator → Option Operator
  | filter _ => none
  | terminal t => some (terminal t.unfiltered)
  | op => some op

section Unfiltered

variable (ops : List Operator)

theorem filterMap_filter?_unfiltered :
    (ops.filterMap Operator.unfiltered?).filterMap Operator.filter? = [] := by
  rw [List.filterMap_filterMap, List.filterMap_eq_nil_iff]
  intro op _
  cases op <;> rfl

theorem Page.ofOperators_unfiltered :
    ofOperators (ops.filterMap Operator.unfiltered?) = ofOperators ops := by
  have hfold : ∀ page : Page,
      (ops.filterMap Operator.unfiltered?).foldl apply page = ops.foldl apply page := by
    induction ops with
    | nil => exact fun page ↦ rfl
    | cons op ops ih =>
      intro page
      cases op <;> exact ih _
  exact hfold {}

theorem selectedFields_unfiltered :
    selectedFields (ops.filterMap Operator.unfiltered?) = selectedFields ops := by
  rw [selectedFields, selectedFields, List.filterMap_filterMap]
  congr 2
  funext op
  cases op <;> rfl

theorem orderKeys_unfiltered :
    orderKeys (ops.filterMap Operator.unfiltered?) = orderKeys ops := by
  have hfrom : ∀ keys, orderKeysFrom keys (ops.filterMap Operator.unfiltered?) =
      orderKeysFrom keys ops := by
    induction ops with
    | nil => exact fun keys ↦ rfl
    | cons op ops ih =>
      intro keys
      cases op with
      | orderBy key direction => exact congrArg (keyName key >>= ·) (funext fun name ↦ ih _)
      | thenBy key direction => exact congrArg (keyName key >>= ·) (funext fun name ↦ ih _)
      | _ => exact ih keys
  exact hfrom []

end Unfiltered

/-- Without its conditions a chain asks for the same clauses, apart from the condition. -/
theorem Select.ofChain_unfiltered {source : Source} {body : List Operator} {t : Terminal}
    {s : Select} (h : ofChain d source body t = .ok s) :
    ofChain d source (body.filterMap Operator.unfiltered?) t.unfiltered =
      .ok { s with condition := [] } := by
  obtain ⟨ts, -, h⟩ := Except.bind_eq_ok.mp h
  rw [ofChain, filterMap_filter?_unfiltered, t.predicate?_unfiltered, t.isCount_unfiltered,
    t.isFirst_unfiltered, Page.ofOperators_unfiltered, selectedFields_unfiltered,
    orderKeys_unfiltered]
  refine Except.bind_eq_ok.mpr ⟨[], rfl, ?_⟩
  by_cases hc : t.isCount
  · rw [if_pos hc] at h ⊢
    cases h
    rfl
  · rw [if_neg hc] at h ⊢
    obtain ⟨ks, hks, h⟩ := Except.bind_eq_ok.mp h
    cases h
    exact Except.bind_eq_ok.mpr ⟨ks, hks, rfl⟩

namespace Query

/-- The query without its conditions. -/
def unfiltered (q : Query) : Query :=
  { q with operators := q.operators.filterMap Operator.unfiltered? }

/-- The query has a filter, or its terminal comes with a condition. -/
def isFiltered (q : Query) : Bool :=
  q.operators.any (fun op ↦ op.filter?.isSome) || (q.terminal?.bind Terminal.predicate?).isSome

theorem isFiltered_iff (q : Query) : q.isFiltered ↔ q.conditions ≠ [] := by
  rw [isFiltered, conditions, Bool.or_eq_true, List.any_eq_true, Ne, List.append_eq_nil_iff,
    not_and_or]
  refine or_congr ?_ ?_
  · rw [List.filterMap_eq_nil_iff]
    simp [Option.isSome_iff_ne_none]
  · rw [Option.toList_eq_nil_iff, Option.isSome_iff_ne_none]

/-- A chain has one terminal at its end, or none. -/
theorem split_eq_ok {q : Query} {body : List Operator} {t : Terminal} :
    q.split = .ok (body, t) ↔ (∀ op ∈ body, ¬op.isTerminal) ∧
      (q.operators = body ++ [.terminal t] ∨ q.operators = body ∧ t = .toList) := by
  have hfind : ∀ ops : List Operator, ops.find? Operator.isTerminal = none ↔
      ∀ op ∈ ops, ¬op.isTerminal := fun ops ↦ List.find?_eq_none
  constructor
  · intro h
    rw [split] at h
    cases hterminal : q.terminal? with
    | none =>
      simp only [hterminal] at h
      split at h
      · cases h
      · next hnone =>
        cases h
        exact ⟨(hfind _).mp hnone, .inr ⟨rfl, rfl⟩⟩
    | some u =>
      simp only [hterminal] at h
      split at h
      · cases h
      · next hnone =>
        cases h
        exact ⟨(hfind _).mp hnone, .inl (operators_of_terminal? hterminal)⟩
  · rintro ⟨hbody, hops | ⟨rfl, rfl⟩⟩
    · have hterminal : q.terminal? = some t := by simp [terminal?, hops]
      rw [split, hterminal, hops]
      simp only [List.dropLast_concat, (hfind body).mpr hbody]
    · have hterminal : q.terminal? = none := by
        rw [terminal?]
        split
        · next u hlast => exact absurd rfl (hbody _ (List.mem_of_getLast? hlast))
        · rfl
      rw [split, hterminal]
      simp only [(hfind _).mpr hbody]

theorem select_unfiltered {q : Query} {s : Select} (h : q.select d = .ok s) :
    q.unfiltered.select d = .ok { s with condition := [] } := by
  obtain ⟨⟨body, t⟩, hsplit, hchain⟩ := Except.bind_eq_ok.mp h
  obtain ⟨hbody, hops⟩ := split_eq_ok.mp hsplit
  have hsplit' : q.unfiltered.split =
      .ok (body.filterMap Operator.unfiltered?, t.unfiltered) := by
    rw [split_eq_ok]
    constructor
    · intro op hop
      obtain ⟨op', hop', hsome⟩ := List.mem_filterMap.mp hop
      have hnone := hbody op' hop'
      cases op' <;> cases hsome <;> exact hnone
    · rw [unfiltered]
      rcases hops with hops | ⟨hops, rfl⟩
      · exact .inl (by rw [hops, List.filterMap_append]; rfl)
      · exact .inr ⟨by rw [hops], rfl⟩
  exact Except.bind_eq_ok.mpr ⟨_, hsplit', Select.ofChain_unfiltered hchain⟩

end Query

/-! ## No condition is lost -/

theorem Statement.delete_some_eq_ok {source : String} {p : Predicate} {s : Statement} :
    delete source (some p) d = .ok s ↔
      ∃ bare, delete source none d = .ok bare ∧ Narrows d [] p bare s := by
  have hvalues : (deleteHead source).values d = [] := rfl
  rw [delete_eq_ok, ← hvalues]
  constructor
  · rintro ⟨hname, hs⟩
    exact ⟨_, delete_eq_ok.mpr ⟨hname, [], rfl, rfl⟩, narrows_iff.mpr hs⟩
  · rintro ⟨bare, hbare, hs⟩
    obtain ⟨hname, ts, hts, rfl⟩ := delete_eq_ok.mp hbare
    obtain rfl := Emission.write_inj.mp hts
    exact ⟨hname, narrows_iff.mp hs⟩

theorem Statement.update_some_eq_ok {target : String} {fields : List (String × Value)}
    {p : Predicate} {s : Statement} : update target fields (some p) d = .ok s ↔
      ∃ bare, update target fields none d = .ok bare ∧
        Narrows d (fields.map Prod.snd) p bare s := by
  have hvalues : (updateHead target fields).values d = fields.map Prod.snd :=
    values_assignments d fields
  have hbare : updateHead target fields ++ whereClause [] = updateHead target fields :=
    List.append_nil _
  rw [update_eq_ok, ← hvalues]
  constructor
  · rintro ⟨hname, hne, hfields, hs⟩
    refine ⟨_, update_eq_ok.mpr ⟨hname, hne, hfields, [], rfl, rfl⟩, ?_⟩
    rw [hbare]
    exact narrows_iff.mpr hs
  · rintro ⟨bare, hupdate, hs⟩
    obtain ⟨hname, hne, hfields, ts, hts, rfl⟩ := update_eq_ok.mp hupdate
    obtain rfl := Emission.write_inj.mp hts
    rw [hbare] at hs
    exact ⟨hname, hne, hfields, narrows_iff.mp hs⟩

/-- The statement for a query, next to the one for the same query without conditions. -/
theorem Query.toStatement_unfiltered {q : Query} {s : Statement} (h : q.toStatement d = .ok s) :
    ∃ sel text store, q.unfiltered.select d = .ok sel ∧
      q.unfiltered.toStatement d = .ok
        ⟨sel.head.render d 0 ++ sel.tail.render d 0, Parameter.numberFrom 0 q.source.arguments⟩ ∧
      Predicate.toCondition d q.source.arguments q.conditions = (.ok text, store) ∧
      (q.isFiltered → text ≠ "") ∧
      s = ⟨sel.head.render d 0 ++ ((if q.isFiltered then " WHERE " ++ text else "") ++
        sel.tail.render d 0), Parameter.numberFrom 0 store⟩ := by
  obtain ⟨sel, hsel, h⟩ := Except.bind_eq_ok.mp h
  cases h
  obtain ⟨⟨body, t⟩, hsplit, hchain⟩ := Except.bind_eq_ok.mp hsel
  obtain ⟨hemit, hsource, -⟩ := Select.of_ofChain hchain
  rw [(of_split hsplit).1] at hemit
  -- in front of the condition only the arguments of the source are bound
  have hvalues : sel.head.values d = q.source.arguments := by
    rw [Select.head, hsource]
    exact q.source.values_template d
  have hcondition := Predicate.toCondition_of_emitAll (d := d) q.source.arguments hemit
  have hbare := select_unfiltered hsel
  refine ⟨{ sel with condition := [] }, _, _, hbare, ?_, hcondition, fun hfiltered ↦ ?_, ?_⟩
  · refine Except.bind_eq_ok.mpr ⟨_, hbare, ?_⟩
    rw [Select.template_eq, ← hvalues]
    exact congrArg Except.ok (toStatement_append (sel.values_tail d))
  · obtain ⟨p, ps, hps⟩ := List.exists_cons_of_ne_nil (q.isFiltered_iff.mp hfiltered)
    rw [hps] at hemit
    exact Predicate.render_spell_ne_empty _ hemit
  · rw [← hvalues] at hcondition
    rw [Select.template_eq, toStatement_whereClause hemit (sel.values_tail d) hcondition, ← hvalues]
    by_cases hfiltered : q.isFiltered
    · rw [if_pos hfiltered, if_neg (q.isFiltered_iff.mp hfiltered)]
      rfl
    · rw [if_neg hfiltered, if_pos (not_not.mp (mt q.isFiltered_iff.mpr hfiltered))]
      rfl

/-- **No condition is lost.** A deletion or an update with a condition is the one without, followed
by `WHERE` and a text that is not empty, and it fails where the condition cannot be written. A query
has the clause exactly if it has a filter or its terminal comes with a condition. -/
theorem where_of_condition (d : Dialect) :
    (∀ source p s, Statement.delete source (some p) d = .ok s ↔
      ∃ bare, Statement.delete source none d = .ok bare ∧ Statement.Narrows d [] p bare s) ∧
    (∀ target fields p s, Statement.update target fields (some p) d = .ok s ↔
      ∃ bare, Statement.update target fields none d = .ok bare ∧
        Statement.Narrows d (fields.map Prod.snd) p bare s) ∧
    ∀ (q : Query) s, q.toStatement d = .ok s → ∃ sel bare text store,
      q.unfiltered.select d = .ok sel ∧ q.unfiltered.toStatement d = .ok bare ∧
      bare.sql = sel.head.render d 0 ++ sel.tail.render d 0 ∧
      Predicate.toCondition d q.source.arguments q.conditions = (.ok text, store) ∧
      s.parameters = Parameter.numberFrom 0 store ∧
      if q.isFiltered then
        text ≠ "" ∧ s.sql = sel.head.render d 0 ++ (" WHERE " ++ text ++ sel.tail.render d 0)
      else s.sql = bare.sql := by
  refine ⟨fun source p s ↦ Statement.delete_some_eq_ok,
    fun target fields p s ↦ Statement.update_some_eq_ok, fun q s h ↦ ?_⟩
  obtain ⟨sel, text, store, hsel, hbare, hcondition, hne, rfl⟩ := Query.toStatement_unfiltered h
  refine ⟨sel, _, text, store, hsel, hbare, rfl, hcondition, rfl, ?_⟩
  by_cases hfiltered : q.isFiltered
  · rw [if_pos hfiltered, if_pos hfiltered]
    exact ⟨hne hfiltered, rfl⟩
  · rw [if_neg hfiltered, if_neg hfiltered, String.empty_append]

/-- A flat disjunction behind two negations, given with the terminal of a page. -/
theorem where_of_condition_first :
    let q : Query := ⟨.function "F" [.int32 1], [.orderBy (.member "A") .desc, .skip 2,
      .terminal (.first (some (.not (.not (.flatOr (.compare .eq (.member "A") (.literal .null))
        (.inSet "B" [.int32 2, .int32 3]))))))]⟩
    let s : Statement := ⟨"SELECT * FROM F($1) WHERE A IS NULL OR B IN ($2, $3) ORDER BY A DESC " ++
        "OFFSET 2 ROWS FETCH NEXT 1 ROW ONLY",
      [⟨"@param0", .int32 1⟩, ⟨"@param1", .int32 2⟩, ⟨"@param2", .int32 3⟩]⟩
    q.toStatement .postgres = .ok s ∧ ∃ sel bare text store,
      q.unfiltered.select .postgres = .ok sel ∧ q.unfiltered.toStatement .postgres = .ok bare ∧
      bare.sql = sel.head.render .postgres 0 ++ sel.tail.render .postgres 0 ∧
      Predicate.toCondition .postgres q.source.arguments q.conditions = (.ok text, store) ∧
      s.parameters = Parameter.numberFrom 0 store ∧
      if q.isFiltered then
        text ≠ "" ∧ s.sql = sel.head.render .postgres 0 ++ (" WHERE " ++ text ++
          sel.tail.render .postgres 0)
      else s.sql = bare.sql :=
  have h : Query.toStatement _ _ = _ := by decide +kernel
  ⟨h, (where_of_condition .postgres).2.2 _ _ h⟩

end QueryChain
