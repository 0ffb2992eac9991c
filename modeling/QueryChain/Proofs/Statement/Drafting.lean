import QueryChain.Proofs.Condition.Drafting

/-!
# Statements written in one go

The statement of a draft is that of the template of the request: the same text with the same
parameters, or the same error. A draft binds the source and the assignments, then the condition, and
no other clause binds anything, so the store is filled from left to right as the holes are; and each
clause adds its own text.
-/

namespace QueryChain

open Drafting

variable {d : Dialect}

theorem Drafting.finish_of_ok {x : Drafting Unit} {w : Draft} (h : x {} = (.ok (), w)) :
    finish x = .ok ⟨w.sql, w.store.parameters⟩ := by
  rw [finish, h]
  rfl

theorem Drafting.finish_of_error {x : Drafting Unit} {w : Draft} {e : Error}
    (h : x {} = (.error e, w)) : finish x = .error e := by
  rw [finish, h]
  rfl

/-- Nothing is added to a text by an empty one. -/
theorem apply_unchanged (w : Draft) :
    (pure () : Drafting Unit) w = (.ok (), { w with sql := w.sql ++ "" }) := by
  rw [String.append_empty]
  rfl

/-! ## Lists of references -/

theorem Template.render_holes (start : Nat) (vs : List Value) :
    render d start (holes vs) =
      ", ".intercalate (vs.mapIdx fun i _ ↦ d.reference (start + i)) := by
  refine render_eq_intercalate (t := holes) (f := fun _ r ↦ r) rfl (fun v start ↦ ?_)
    (fun v w vs start ↦ ?_) start vs
  · simp [holes]
  · simp [holes, String.append_assoc]

theorem Statement.render_assignments (start : Nat) (fields : List (String × Value)) :
    Template.render d start (assignments fields) =
      ", ".intercalate (fields.mapIdx fun i e ↦ e.1 ++ " = " ++ d.reference (start + i)) := by
  refine Template.render_eq_intercalate (t := assignments) (f := fun e r ↦ e.1 ++ " = " ++ r) rfl
    (fun e start ↦ ?_) (fun e f fields start ↦ ?_) start fields
  · simp [assignments]
  · simp [assignments, String.append_assoc]

/-! ## Clauses -/

theorem Source.draft_apply (s : Source) (bound : List Value) (sql : String) :
    s.draft d ⟨.ofValues bound, sql⟩ =
      (.ok (s.template.render d bound.length),
        ⟨.ofValues (bound ++ s.template.values d), sql⟩) := by
  cases s with
  | table name =>
    have hvalues : (table name).template.values d = [] := rfl
    have htext : (table name).template.render d bound.length = name := by
      rw [template, Template.render_text_cons, Template.render_nil, String.append_empty]
    rw [hvalues, List.append_nil, htext]
    rfl
  | function name args =>
    have htext : (function name args).template.render d bound.length =
        name ++ "(" ++ ", ".intercalate (args.mapIdx fun i _ ↦ d.reference (bound.length + i)) ++
          ")" := by
      rw [template, List.cons_append, Template.render_text_cons, Template.render_append,
        Template.render_holes]
      simp [String.append_assoc]
    rw [draft, bind_of_ok (mapM_apply (fun _ r ↦ r) id (fun v _ ↦ bindValue_apply v) bound sql),
      List.map_id, values_template, htext]
    rfl

variable {bound store : List Value} {ps : List Predicate} {condition : String}

/-- The text of a condition is empty only where there is no condition. -/
theorem draftWhere_apply (h : Predicate.toCondition d bound ps = (.ok condition, store))
    (w : Draft) :
    draftWhere condition w =
      (.ok (), { w with sql := w.sql ++ if ps = [] then "" else " WHERE " ++ condition }) := by
  obtain ⟨ts, hts⟩ := Predicate.exists_emitAll_of_toCondition h
  rw [Predicate.toCondition_of_emitAll bound hts, Prod.mk.injEq] at h
  obtain rfl := Except.ok.inj h.1
  cases ps with
  | nil =>
    obtain rfl := Emission.write_inj.mp hts
    exact apply_unchanged w
  | cons p ps =>
    rw [draftWhere, if_pos (Predicate.render_spell_ne_empty bound.length hts),
      if_neg (List.cons_ne_nil p ps), ← String.append_assoc]
    rfl

theorem draftOrder_apply (ks : List (String × Direction)) (hasOffset : Bool) (start : Nat)
    (w : Draft) :
    draftOrder ks hasOffset w =
      (.ok (), { w with
        sql := w.sql ++ (OrderClause.ofKeys ks hasOffset).template.render d start }) := by
  by_cases hks : ks = []
  · subst hks
    cases hasOffset with
    | false => exact apply_unchanged w
    | true => rfl
  · rw [draftOrder, if_pos hks, OrderClause.ofKeys, if_neg hks, OrderClause.template,
      Template.render_text_cons, Template.render_nil, String.append_empty, ← String.append_assoc]
    rfl

theorem draftLimits_apply (offset fetch : Option UInt64) (start : Nat) (w : Draft) :
    draftLimits offset fetch w =
      (.ok (), { w with
        sql := w.sql ++
          (Select.offsetClause offset ++ Select.fetchClause fetch).render d start }) := by
  rw [Template.render_append]
  cases offset with
  | none =>
    cases fetch with
    | none => exact apply_unchanged w
    | some n =>
      simp only [Select.offsetClause, Select.fetchClause, Template.render_nil,
        Template.render_text_cons, String.empty_append, String.append_empty]
      rfl
  | some m =>
    cases fetch with
    | none =>
      simp only [Select.offsetClause, Select.fetchClause, Template.render_nil,
        Template.render_text_cons, String.append_empty]
      rfl
    | some n =>
      refine (bind_of_ok (write_apply _ w) _).trans ?_
      simp only [write_apply, Select.offsetClause, Select.fetchClause, Template.render_nil,
        Template.render_text_cons, String.append_empty, String.append_assoc]

/-- What stands behind the condition. -/
theorem draftTail_apply (ks : List (String × Direction)) (offset fetch : Option UInt64)
    (w : Draft) :
    (do draftOrder ks offset.isSome; draftLimits offset fetch : Drafting Unit) w =
      (.ok (), { w with
        sql := w.sql ++ Template.render d 0 ((OrderClause.ofKeys ks offset.isSome).template ++
          Select.offsetClause offset ++ Select.fetchClause fetch) }) := by
  rw [List.append_assoc, Template.render_append, ← String.append_assoc,
    bind_of_ok (draftOrder_apply (d := d) ks offset.isSome 0 w)]
  exact draftLimits_apply offset fetch _ _

/-! ## Selecting rows -/

/-- The text of a statement up to its condition, which is there unless there is nothing to filter
on. -/
theorem draftColumns_apply (h : Predicate.toCondition d bound ps = (.ok condition, store))
    (top : Bool) (fields : Option (List String)) (source : String) (w : Draft) :
    draftColumns top fields source condition w =
      (.ok (), { w with
        sql := w.sql ++ ("SELECT " ++ (SelectList.columns top fields).text ++ " FROM " ++ source) ++
          if ps = [] then "" else " WHERE " ++ condition }) := by
  have hend (sql : String) : (do
      write (projectionText fields)
      write " FROM "
      write source
      draftWhere condition : Drafting Unit) ⟨w.store, sql⟩ =
        (.ok (), ⟨w.store, sql ++ projectionText fields ++ " FROM " ++ source ++
          if ps = [] then "" else " WHERE " ++ condition⟩) := by
    rw [bind_of_ok (write_apply _ _), bind_of_ok (write_apply _ _), bind_of_ok (write_apply _ _),
      draftWhere_apply h]
  rw [draftColumns, bind_of_ok (write_apply _ _)]
  cases top with
  | false =>
    refine (hend _).trans ?_
    simp only [SelectList.text, Bool.false_eq_true, if_false, String.empty_append,
      String.append_assoc]
  | true =>
    refine (hend _).trans ?_
    simp only [SelectList.text, if_true, String.append_assoc]

theorem draftCount_apply (h : Predicate.toCondition d bound ps = (.ok condition, store))
    (source : String) (w : Draft) :
    draftCount source condition w =
      (.ok (), { w with
        sql := w.sql ++ ("SELECT " ++ SelectList.count.text ++ " FROM " ++ source) ++
          if ps = [] then "" else " WHERE " ++ condition }) := by
  have hhead : "SELECT COUNT(*) FROM " = "SELECT " ++ SelectList.count.text ++ " FROM " := rfl
  rw [draftCount, bind_of_ok (write_apply _ _), bind_of_ok (write_apply _ _), draftWhere_apply h,
    hhead]
  simp only [String.append_assoc]

section Chains

/-- The text in front of the condition. -/
theorem Select.render_head (s : Select) :
    s.head.render d 0 = "SELECT " ++ s.list.text ++ " FROM " ++ s.source.template.render d 0 :=
  Template.render_text_cons d 0 _ _

variable {source : Source} {body : List Operator} {t : Terminal}

/-- The clauses other than the source and the condition are text alone. -/
theorem draftClauses_apply {s : Select} (hs : Select.ofChain d source body t = .ok s)
    (h : Predicate.toCondition d bound ps = (.ok condition, store)) (sourceText : String)
    (w : Draft) :
    (if t.isCount then draftCount sourceText condition
      else draftRows d body t sourceText condition) w =
      (.ok (), { w with
        sql := w.sql ++ ("SELECT " ++ s.list.text ++ " FROM " ++ sourceText) ++
          (if ps = [] then "" else " WHERE " ++ condition) ++ s.tail.render d 0 }) := by
  obtain ⟨ts, -, hs⟩ := Except.bind_eq_ok.mp hs
  by_cases hcount : t.isCount
  · rw [if_pos hcount] at hs ⊢
    cases hs
    -- nothing stands behind the condition of a count
    rw [draftCount_apply h]
    exact apply_unchanged ⟨w.store, _⟩
  · rw [if_neg hcount] at hs ⊢
    rw [draftRows]
    dsimp only at hs ⊢
    generalize Select.limits t.isFirst _ (Page.ofOperators body) = limits at hs ⊢
    obtain ⟨offset, fetch⟩ := limits
    obtain ⟨ks, hkeys, hs⟩ := Except.bind_eq_ok.mp hs
    cases hs
    rw [bind_of_ok (draftColumns_apply h _ _ sourceText w), hkeys, lift_ok_bind]
    exact draftTail_apply ks offset fetch _

/-- The values of the source are bound in front of those of the condition. -/
theorem draftChain_apply (source : Source) (body : List Operator) (t : Terminal)
    (h : Predicate.toCondition d (source.template.values d)
      (body.filterMap Operator.filter? ++ t.predicate?.toList) = (.ok condition, store)) :
    draftChain d source body t {} =
      (if t.isCount then draftCount (source.template.render d 0) condition
        else draftRows d body t (source.template.render d 0) condition)
        ⟨.ofValues store, ""⟩ := by
  have hcondition := Predicate.draftCondition_apply (d := d)
    (body.filterMap Operator.filter? ++ t.predicate?.toList) (source.template.values d) ""
  rw [h] at hcondition
  exact (bind_of_ok (source.draft_apply [] "") _).trans (bind_of_ok hcondition _)

theorem finish_draftChain_of_ok {s : Select} (hs : Select.ofChain d source body t = .ok s) :
    finish (draftChain d source body t) = .ok (s.template.toStatement d) := by
  obtain ⟨hemit, rfl, -⟩ := Select.of_ofChain hs
  have hcondition := Predicate.toCondition_of_emitAll (d := d) (s.head.values d) hemit
  have hrun := (draftChain_apply s.source body t hcondition).trans
    (draftClauses_apply hs hcondition _ _)
  rw [finish_of_ok hrun, Select.template_eq,
    toStatement_whereClause hemit (s.values_tail d) hcondition, s.render_head, String.empty_append,
    ← String.append_assoc]
  rfl

theorem finish_draftChain_of_error {err : Error}
    (hs : Select.ofChain d source body t = .error err) :
    finish (draftChain d source body t) = .error err := by
  rcases Select.of_ofChain_error hs with herror | ⟨ts, hemit, hcount, hkeys⟩
  · obtain ⟨w, hw⟩ := Predicate.exists_draftCondition_eq_error herror (source.template.values d) ""
    exact finish_of_error ((bind_of_ok (source.draft_apply [] "") _).trans (bind_of_error hw _))
  · have hcondition := Predicate.toCondition_of_emitAll (d := d) (source.template.values d) hemit
    have hrun := draftChain_apply source body t hcondition
    rw [if_neg hcount, draftRows, bind_of_ok (draftColumns_apply hcondition _ _ _ _), hkeys] at hrun
    exact finish_of_error (hrun.trans (lift_error_bind err _ _))

end Chains

/-- A query is written in one go. -/
theorem Query.draft_eq (q : Query) (d : Dialect) : q.draft d = q.toStatement d := by
  rw [draft, toStatement, select]
  rcases q.split with err | ⟨body, t⟩
  · rfl
  · change finish (draftChain d q.source body t) = do
      pure ((← Select.ofChain d q.source body t).template.toStatement d)
    cases hs : Select.ofChain d q.source body t with
    | error err => exact finish_draftChain_of_error hs
    | ok s => exact finish_draftChain_of_ok hs

/-! ## Changing rows -/

namespace Statement

/-- The condition is bound behind the values that are bound already, and written last. -/
theorem finish_draftWhere {x : Drafting Unit} (head : Template) (p : Option Predicate)
    (hx : x {} = (.ok (), ⟨.ofValues (head.values d), head.render d 0⟩)) :
    finish (do x; draftWhere (← Predicate.draftCondition d p.toList)) =
      (conditionTokens p).map fun ts ↦ (head ++ whereClause ts).toStatement d := by
  cases hts : conditionTokens p with
  | error err =>
    obtain ⟨w, hw⟩ := Predicate.exists_draftCondition_eq_error hts (head.values d) (head.render d 0)
    exact finish_of_error ((bind_of_ok hx _).trans (bind_of_error hw _))
  | ok ts =>
    have hemit := Emission.toExcept_eq_ok.mp hts
    have hcondition := Predicate.toCondition_of_emitAll (d := d) (head.values d) hemit
    have hbound := Predicate.draftCondition_apply (d := d) p.toList (head.values d)
      (head.render d 0)
    rw [hcondition] at hbound
    have hrun := (bind_of_ok hx fun () ↦ Predicate.draftCondition d p.toList >>= draftWhere).trans
      ((bind_of_ok hbound draftWhere).trans (draftWhere_apply hcondition _))
    have hnil : Template.values d [] = [] := rfl
    have hstatement := toStatement_whereClause hemit hnil hcondition
    rw [List.append_nil, Template.render_nil, String.append_empty] at hstatement
    exact (finish_of_ok hrun).trans (congrArg Except.ok hstatement.symm)

theorem finish_draftDelete (source : String) (p : Option Predicate) (d : Dialect) :
    finish (draftDelete source p d) = delete source p d := by
  rw [draftDelete, delete, deleteTemplate]
  rcases checkName "source" source with err | ⟨⟩
  · rfl
  · rw [lift_ok_bind]
    refine (finish_draftWhere [.text ("DELETE FROM " ++ source)] p ?_).trans ?_
    · rw [write_apply, Template.render_text_cons, Template.render_nil, String.append_empty,
        String.empty_append]
      rfl
    · cases conditionTokens p <;> rfl

theorem draftAssignment_apply {assignment : String × Value}
    (h : checkName "update_fields" assignment.1 = .ok ()) (bound : List Value) (sql : String) :
    draftAssignment d assignment ⟨.ofValues bound, sql⟩ =
      (.ok (assignment.1 ++ " = " ++ d.reference bound.length),
        ⟨.ofValues (bound ++ [assignment.2]), sql⟩) := by
  rw [draftAssignment, h, lift_ok_bind]
  exact bind_of_ok (bindValue_apply assignment.2 bound sql) _

variable {fields : List (String × Value)}

theorem checkName_of_checkFields (h : checkFields fields = .ok ()) :
    ∀ e ∈ fields, checkName "update_fields" e.1 = .ok () := by
  induction fields with
  | nil => exact fun e he ↦ absurd he List.not_mem_nil
  | cons e fields ih =>
    obtain ⟨⟨⟩, hname, hrest⟩ := Except.bind_eq_ok.mp h
    exact List.forall_mem_cons.mpr ⟨hname, ih hrest⟩

/-- A field without a name ends the writing, with the fields before it bound. -/
theorem exists_mapM_draftAssignment_eq_error {err : Error} (h : checkFields fields = .error err)
    (bound : List Value) (sql : String) :
    ∃ w, fields.mapM (draftAssignment d) ⟨.ofValues bound, sql⟩ = (.error err, w) := by
  induction fields generalizing bound with
  | nil => cases h
  | cons e fields ih =>
    rw [List.mapM_cons]
    rw [checkFields] at h
    cases hname : checkName "update_fields" e.1 with
    | error err' =>
      rw [hname] at h
      cases h
      exact ⟨_, bind_of_error (by rw [draftAssignment, hname]; rfl) _⟩
    | ok u =>
      rw [hname] at h
      -- the value is bound before the next field is looked at
      obtain ⟨w, hw⟩ := ih h (bound ++ [e.2])
      exact ⟨w, (bind_of_ok (draftAssignment_apply hname bound sql) _).trans (bind_of_error hw _)⟩

theorem finish_draftUpdate (target : String) (fields : List (String × Value))
    (p : Option Predicate) (d : Dialect) :
    finish (draftUpdate target fields p d) = update target fields p d := by
  rw [draftUpdate, update, updateTemplate]
  rcases checkName "update_target" target with err | ⟨⟩
  · rfl
  · rw [lift_ok_bind]
    by_cases hempty : fields.isEmpty
    · rw [if_pos hempty, if_pos hempty]
      rfl
    · rw [if_neg hempty, if_neg hempty]
      cases hfields : checkFields fields with
      | error err =>
        obtain ⟨w, hw⟩ := exists_mapM_draftAssignment_eq_error hfields [] ""
        exact finish_of_error (bind_of_error hw _)
      | ok u =>
        have hassignments := mapM_apply (fun e r ↦ e.1 ++ " = " ++ r) Prod.snd
          (fun e he ↦ draftAssignment_apply (d := d) (checkName_of_checkFields hfields e he)) [] ""
        rw [← bind_assoc]
        refine (finish_draftWhere
          (.text ("UPDATE " ++ target ++ " SET ") :: assignments fields) p ?_).trans ?_
        · have hvalues : Template.values d (.text ("UPDATE " ++ target ++ " SET ") ::
              assignments fields) = fields.map Prod.snd := values_assignments d fields
          refine (bind_of_ok hassignments _).trans ?_
          rw [write_apply, hvalues, Template.render_text_cons, render_assignments,
            String.empty_append]
          rfl
        · cases conditionTokens p <;> rfl

end Statement

/-! ## Requests -/

/-- The statement for a request, written in one go. -/
def Request.draft (d : Dialect) : Request → Except Error Statement
  | select q => q.draft d
  | update target fields p => finish (Statement.draftUpdate target fields p d)
  | delete source p => finish (Statement.draftDelete source p d)

/-- **A statement written in one go is the one that was laid out.** Every request gives the same
text with the same parameters in both ways, or the same error. -/
theorem Request.draft_eq (d : Dialect) (r : Request) : r.draft d = r.translate d := by
  cases r with
  | select q => exact q.draft_eq d
  | update target fields p => exact Statement.finish_draftUpdate target fields p d
  | delete source p => exact Statement.finish_draftDelete source p d

end QueryChain
