import QueryChain.Execution.Backend
import QueryChain.Proofs.Statement.Alike
import QueryChain.Proofs.Statement.Procedure

/-!
# Names that are bound once

A database refuses a command that binds one name twice, and compares names without regard to case.
The check goes through the names from left to right and stops at the first that occurred before, so
it is told exactly what it finds: `checkUnique_eq_ok` and `checkUnique_eq_error`.

No statement that is made here is ever refused. The parameters of a request are numbered, numbers
are written differently, and no letter of a numbered name changes when it is folded. The parameters
of a procedure call have the names that the caller chose, and these were compared when the batch was
made. So what the database compares again was compared, in the same way, before.
-/

namespace QueryChain

/-! ## The check -/

variable {names seen : List String} {parameters : List Parameter}

theorem repeatedName?_cons_of_mem {name : String} (h : Text.fold name ∈ seen) :
    repeatedName? seen (name :: names) = some name := by
  rw [repeatedName?, if_pos h]

theorem repeatedName?_cons_of_notMem {name : String} (h : Text.fold name ∉ seen) :
    repeatedName? seen (name :: names) = repeatedName? (Text.fold name :: seen) names := by
  rw [repeatedName?, if_neg h]

/-- No name is found if none was seen before and none stands in front of its equal. -/
theorem repeatedName?_eq_none :
    repeatedName? seen names = none ↔
      (∀ x ∈ names, Text.fold x ∉ seen) ∧ names.Pairwise fun x y ↦ ¬Text.sameFolded x y := by
  induction names generalizing seen with
  | nil => exact iff_of_true rfl ⟨List.forall_mem_nil _, .nil⟩
  | cons name names ih =>
    rw [List.forall_mem_cons, List.pairwise_cons]
    by_cases h : Text.fold name ∈ seen
    · rw [repeatedName?_cons_of_mem h]
      exact iff_of_false (Option.some_ne_none name) fun hfresh ↦ hfresh.1.1 h
    · rw [repeatedName?_cons_of_notMem h, ih]
      simp only [Text.sameFolded_iff, List.mem_cons, not_or]
      constructor
      · rintro ⟨hfresh, hpairs⟩
        exact ⟨⟨h, fun x hx ↦ (hfresh x hx).2⟩, fun x hx heq ↦ (hfresh x hx).1 heq.symm, hpairs⟩
      · rintro ⟨⟨-, hfresh⟩, hname, hpairs⟩
        exact ⟨fun x hx ↦ ⟨fun heq ↦ hname x hx heq.symm, hfresh x hx⟩, hpairs⟩

/-- The name that is found was seen, or it stands behind its equal; and none in front of it would
have been found. -/
theorem repeatedName?_eq_some {name : String} :
    repeatedName? seen names = some name ↔
      ∃ before after, names = before ++ name :: after ∧ repeatedName? seen before = none ∧
        (Text.fold name ∈ seen ∨ ∃ x ∈ before, Text.sameFolded x name) := by
  induction names generalizing seen with
  | nil =>
    refine iff_of_false (fun h ↦ nomatch h) ?_
    rintro ⟨before, after, hnames, -⟩
    exact List.append_ne_nil_of_right_ne_nil _ (List.cons_ne_nil _ _) hnames.symm
  | cons n names ih =>
    by_cases h : Text.fold n ∈ seen
    · rw [repeatedName?_cons_of_mem h]
      constructor
      · rintro ⟨⟩
        exact ⟨[], names, rfl, rfl, .inl h⟩
      · rintro ⟨_ | ⟨x, before⟩, after, hnames, hnone, -⟩
        · exact congrArg some (List.cons.inj hnames).1
        · obtain rfl := (List.cons.inj hnames).1
          rw [repeatedName?_cons_of_mem h] at hnone
          cases hnone
    · rw [repeatedName?_cons_of_notMem h, ih]
      constructor
      · rintro ⟨before, after, rfl, hnone, hold⟩
        refine ⟨n :: before, after, rfl, (repeatedName?_cons_of_notMem h).trans hnone, ?_⟩
        rcases hold with hold | ⟨x, hx, hsame⟩
        · rcases List.mem_cons.mp hold with heq | hold
          · exact .inr ⟨n, List.mem_cons_self, Text.sameFolded_iff.mpr heq.symm⟩
          · exact .inl hold
        · exact .inr ⟨x, List.mem_cons_of_mem _ hx, hsame⟩
      · rintro ⟨_ | ⟨x, before⟩, after, hnames, hnone, hold⟩
        · -- nothing stands in front of the first name, and it was not seen
          obtain rfl := (List.cons.inj hnames).1
          rcases hold with hold | ⟨x, hx, -⟩
          · exact absurd hold h
          · cases hx
        · obtain ⟨rfl, rfl⟩ := List.cons.inj hnames
          refine ⟨before, after, rfl, (repeatedName?_cons_of_notMem h).symm.trans hnone, ?_⟩
          rcases hold with hold | ⟨y, hy, hsame⟩
          · exact .inl (List.mem_cons_of_mem _ hold)
          · rcases List.mem_cons.mp hy with rfl | hy
            · exact .inl (List.mem_cons.mpr (.inl (Text.sameFolded_iff.mp hsame).symm))
            · exact .inr ⟨y, hy, hsame⟩

/-- No two parameters have the same name, in whatever case. -/
def Parameter.AllDistinct (parameters : List Parameter) : Prop :=
  parameters.Pairwise fun p q ↦ ¬Text.sameFolded p.name q.name

theorem repeatedName?_names_eq_none :
    repeatedName? [] (parameters.map Parameter.name) = none ↔
      Parameter.AllDistinct parameters := by
  rw [repeatedName?_eq_none, List.pairwise_map]
  exact and_iff_right fun _ _ ↦ List.not_mem_nil

theorem checkUnique_eq_ok :
    checkUnique parameters = .ok () ↔ Parameter.AllDistinct parameters := by
  rw [← repeatedName?_names_eq_none, checkUnique]
  rcases repeatedName? [] (parameters.map Parameter.name) with _ | name
  · exact iff_of_true rfl rfl
  · exact iff_of_false (fun h ↦ nomatch h) (Option.some_ne_none name)

/-- The parameter that is named is the first whose name occurred before. -/
theorem checkUnique_eq_error {m : String} :
    checkUnique parameters = .error m ↔
      ∃ before p after, parameters = before ++ p :: after ∧ Parameter.AllDistinct before ∧
        (∃ q ∈ before, Text.sameFolded q.name p.name) ∧
        m = "The variable name '" ++ p.name ++ "' has already been declared." := by
  have hfound : checkUnique parameters = .error m ↔
      ∃ name, repeatedName? [] (parameters.map Parameter.name) = some name ∧
        m = "The variable name '" ++ name ++ "' has already been declared." := by
    rw [checkUnique]
    rcases repeatedName? [] (parameters.map Parameter.name) with _ | name
    · simp
    · simp [eq_comm]
  rw [hfound]
  constructor
  · rintro ⟨name, hname, rfl⟩
    obtain ⟨before, after, hnames, hnone, hold⟩ := repeatedName?_eq_some.mp hname
    obtain ⟨before, rest, rfl, rfl, hrest⟩ := List.map_eq_append_iff.mp hnames
    obtain ⟨p, after, rfl, rfl, rfl⟩ := List.map_eq_cons_iff.mp hrest
    refine ⟨before, p, after, rfl, repeatedName?_names_eq_none.mp hnone, ?_, rfl⟩
    rcases hold with hold | ⟨x, hx, hsame⟩
    · cases hold
    · obtain ⟨q, hq, rfl⟩ := List.mem_map.mp hx
      exact ⟨q, hq, hsame⟩
  · rintro ⟨before, p, after, rfl, hbefore, ⟨q, hq, hsame⟩, rfl⟩
    refine ⟨p.name, repeatedName?_eq_some.mpr ?_, rfl⟩
    refine ⟨before.map Parameter.name, after.map Parameter.name, ?_,
      repeatedName?_names_eq_none.mpr hbefore, .inr ⟨q.name, List.mem_map_of_mem hq, hsame⟩⟩
    rw [List.map_append, List.map_cons]

/-! ## Numbered names -/

theorem Text.fold_eq_self {s : String} (h : ∀ c ∈ s.toList, c.toLower = c) : fold s = s := by
  rw [← String.toList_inj, toList_fold]
  exact (List.map_congr_left h).trans (List.map_id _)

/-- Digits stand in front of all letters. -/
theorem Text.toLower_of_isDigit {c : Char} (h : c.isDigit) : c.toLower = c := by
  simp only [Char.isDigit, Bool.and_eq_true, decide_eq_true_eq] at h
  have hlt : c.toNat < 'A'.toNat := lt_of_le_of_lt (b := '9'.toNat) h.2 (by decide)
  exact dif_neg fun hupper ↦ absurd hupper.1 (not_le_of_gt hlt)

namespace Parameter

theorem fold_nameAt (index : Nat) : Text.fold (nameAt index) = nameAt index := by
  apply Text.fold_eq_self
  intro c hc
  rw [nameAt, String.toList_append, List.mem_append] at hc
  rcases hc with hc | hc
  · have hletters : "@param".toList.all (fun c ↦ c.toLower == c) := by decide
    exact beq_iff_eq.mp (List.all_eq_true.mp hletters c hc)
  · exact Text.toLower_of_isDigit
      (Nat.isDigit_of_mem_toDigits (by decide) (by decide) (Nat.toList_repr ▸ hc))

theorem nameAt_injective : Function.Injective nameAt := by
  intro i j h
  exact Dialect.placeholder_nameAt_inj (d := .sqlServer) h

theorem sameFolded_nameAt {i j : Nat} : Text.sameFolded (nameAt i) (nameAt j) ↔ i = j := by
  rw [Text.sameFolded_iff, fold_nameAt, fold_nameAt, nameAt_injective.eq_iff]

/-- Numbered parameters have different names, however many there are. -/
theorem allDistinct_numberFrom (start : Nat) (vs : List Value) :
    AllDistinct (numberFrom start vs) := by
  have hnames : ((numberFrom start vs).map name).Pairwise fun x y ↦ ¬Text.sameFolded x y := by
    rw [names_numberFrom, List.pairwise_map]
    refine List.Pairwise.imp ?_ List.pairwise_lt_range'
    intro i j hlt hsame
    exact absurd (sameFolded_nameAt.mp hsame) (Nat.ne_of_lt hlt)
  rwa [List.pairwise_map] at hnames

end Parameter

/-! ## Statements -/

theorem allDistinct_translate {r : Request} {d : Dialect} {s : Statement}
    (h : r.translate d = .ok s) : Parameter.AllDistinct s.parameters := by
  rw [Request.translate_eq] at h
  rcases hlayout : r.layOut d with e | t <;> rw [hlayout] at h <;> cases h
  exact Parameter.allDistinct_numberFrom 0 (t.values d)

/-- The database compares the names of the parameters just as they were compared for the batch. -/
theorem Statement.allDistinct_procedure {name : String} {arguments : List (String × Value)}
    {d : Dialect} {s : Statement} (h : procedure name arguments d = .ok s) :
    Parameter.AllDistinct s.parameters := by
  obtain ⟨-, -, -, hpairs, hparameters, -⟩ := procedure_eq_ok.mp h
  rw [hparameters, Parameter.AllDistinct, List.pairwise_map]
  exact hpairs

/-- **A database refuses exactly the commands that bind a name twice, and no statement is one.** It
reports the first parameter whose name occurred before. -/
theorem checkUnique_exact :
    (∀ parameters, checkUnique parameters = .ok () ↔ Parameter.AllDistinct parameters) ∧
    (∀ parameters m, checkUnique parameters = .error m ↔
      ∃ before p after, parameters = before ++ p :: after ∧ Parameter.AllDistinct before ∧
        (∃ q ∈ before, Text.sameFolded q.name p.name) ∧
        m = "The variable name '" ++ p.name ++ "' has already been declared.") ∧
    (∀ (r : Request) d s, r.translate d = .ok s → checkUnique s.parameters = .ok ()) ∧
    ∀ name arguments d s, Statement.procedure name arguments d = .ok s →
      checkUnique s.parameters = .ok () := by
  refine ⟨fun _ ↦ checkUnique_eq_ok, fun _ _ ↦ checkUnique_eq_error, ?_, ?_⟩
  · intro r d s h
    exact checkUnique_eq_ok.mpr (allDistinct_translate h)
  · intro name arguments d s h
    exact checkUnique_eq_ok.mpr (Statement.allDistinct_procedure h)

/-- Twelve numbered names, some of which begin like others, and two names of a caller of which one
is written in two ways. -/
theorem checkUnique_exact_twelve :
    let r : Request := .delete "Users" (some (.inSet "Id" (List.replicate 12 (.int32 7))))
    let arguments : List (String × Value) := [("@@From", .int32 1), ("to", .null)]
    let doubled : List Parameter := [⟨"@From", .int32 1⟩, ⟨"@to", .null⟩, ⟨"@FROM", .null⟩]
    (∃ s, r.translate .postgres = .ok s ∧ s.parameters.length = 12 ∧
      checkUnique s.parameters = .ok ()) ∧
    (∃ s, Statement.procedure "dbo.P" arguments .sqlServer = .ok s ∧
      s.parameters.map Parameter.name = ["@From", "@to"] ∧ checkUnique s.parameters = .ok ()) ∧
    checkUnique doubled = .error "The variable name '@FROM' has already been declared." := by
  intro r arguments doubled
  obtain ⟨-, herror, hrequest, hprocedure⟩ := checkUnique_exact
  refine ⟨?_, ?_, ?_⟩
  · refine ⟨⟨"DELETE FROM Users WHERE Id IN ($1, $2, $3, $4, $5, $6, $7, $8, $9, $10, $11, $12)",
      Parameter.numberFrom 0 (List.replicate 12 (.int32 7))⟩, ?_, by decide,
      hrequest r .postgres _ ?_⟩
    all_goals decide +kernel
  · refine ⟨⟨"DECLARE @return_value int; EXEC @return_value = dbo.P @From, @to; SELECT " ++
      "'Return Value' = @return_value", [⟨"@From", .int32 1⟩, ⟨"@to", .null⟩]⟩, ?_, by decide,
      hprocedure "dbo.P" arguments .sqlServer _ ?_⟩
    all_goals decide +kernel
  · exact (herror doubled _).mpr ⟨[⟨"@From", .int32 1⟩, ⟨"@to", .null⟩], ⟨"@FROM", .null⟩, [], rfl,
      by simp only [Parameter.AllDistinct]; decide, ⟨_, List.mem_cons_self, by decide⟩, by decide⟩

end QueryChain
