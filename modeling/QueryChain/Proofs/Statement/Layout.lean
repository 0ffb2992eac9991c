import QueryChain.Proofs.Statement.References

/-!
# Parameters and their references

The template of a request has three parts: what stands in front of the condition, the condition, and
what stands behind it. Put together, they bind the values of the request from left to right, and
they are plain if the names of the request are. So each parameter is referred to once, in its turn.
-/

namespace QueryChain

/-! ## The names of a request -/

/-- The names that an operator brings into the text. -/
def Operator.identifiers : Operator → List String
  | filter p => p.members
  | orderBy key _ | thenBy key _ => key.members
  | selectOnly fields => fields
  | skip _ | take _ => []
  | terminal t => t.predicate?.toList.flatMap Predicate.members

/-- The names that a request brings into the text. -/
def Request.identifiers : Request → List String
  | select q => q.source.name :: q.operators.flatMap Operator.identifiers
  | update target fields p =>
    target :: (fields.map Prod.fst ++ p.toList.flatMap Predicate.members)
  | delete source p => source :: p.toList.flatMap Predicate.members

theorem name_mem_members {key : Predicate} {name : String} (h : keyName key = .ok name) :
    name ∈ key.members := by
  rw [keyName] at h
  cases key with
  | member n =>
    cases h
    exact List.mem_singleton_self _
  | _ => cases h

theorem mem_of_orderKeysFrom {keys ks : List (String × Direction)} {ops : List Operator}
    (h : orderKeysFrom keys ops = .ok ks) :
    ∀ k ∈ ks, k ∈ keys ∨ k.1 ∈ ops.flatMap Operator.identifiers := by
  induction ops generalizing keys with
  | nil =>
    cases h
    exact fun k hk ↦ .inl hk
  | cons op ops ih =>
    intro k hk
    rw [List.flatMap_cons, List.mem_append]
    cases op with
    | orderBy key dir =>
      -- the keys so far are forgotten
      obtain ⟨name, hname, h⟩ := Except.bind_eq_ok.mp h
      rcases ih h k hk with hmem | hmem
      · rw [List.mem_singleton] at hmem
        subst hmem
        exact .inr (.inl (name_mem_members hname))
      · exact .inr (.inr hmem)
    | thenBy key dir =>
      obtain ⟨name, hname, h⟩ := Except.bind_eq_ok.mp h
      rcases ih h k hk with hmem | hmem
      · rcases List.mem_append.mp hmem with hmem | hmem
        · exact .inl hmem
        · rw [List.mem_singleton] at hmem
          subst hmem
          exact .inr (.inl (name_mem_members hname))
      · exact .inr (.inr hmem)
    | _ => exact (ih h k hk).imp id .inr

theorem mem_of_selectedFields {fields : List String} {ops : List Operator}
    (h : selectedFields ops = some fields) :
    ∀ x ∈ fields, x ∈ ops.flatMap Operator.identifiers := by
  intro x hx
  obtain ⟨op, hop, hfields⟩ := List.mem_filterMap.mp (List.mem_of_getLast? h)
  rw [List.mem_flatMap]
  refine ⟨op, hop, ?_⟩
  cases op with
  | selectOnly fs =>
    cases hfields
    exact hx
  | _ => cases hfields

theorem Select.of_ofChain {d : Dialect} {source : Source} {body : List Operator} {t : Terminal}
    {s : Select} (h : ofChain d source body t = .ok s) :
    Predicate.emitAll (body.filterMap Operator.filter? ++ t.predicate?.toList) =
        .write s.condition ∧
      s.source = source ∧ ∀ x ∈ s.outerNames, x ∈ body.flatMap Operator.identifiers := by
  obtain ⟨ts, hts, h⟩ := Except.bind_eq_ok.mp h
  rw [Emission.toExcept_eq_ok] at hts
  by_cases hcount : t.isCount
  · rw [if_pos hcount] at h
    cases h
    exact ⟨hts, rfl, fun x hx ↦ by cases hx⟩
  · rw [if_neg hcount] at h
    obtain ⟨ks, hks, h⟩ := Except.bind_eq_ok.mp h
    cases h
    refine ⟨hts, rfl, fun x hx ↦ ?_⟩
    rcases List.mem_append.mp hx with hx | hx
    · cases hfields : selectedFields body with
      | none =>
        rw [hfields] at hx
        cases hx
      | some fields =>
        rw [hfields] at hx
        exact mem_of_selectedFields hfields x hx
    · rw [OrderClause.names_ofKeys] at hx
      obtain ⟨k, hk, rfl⟩ := List.mem_map.mp hx
      rcases mem_of_orderKeysFrom hks k hk with hmem | hmem
      · cases hmem
      · exact hmem

/-- A chain has no clauses if its condition cannot be written, or else for a key of its ordering. -/
theorem Select.of_ofChain_error {d : Dialect} {source : Source} {body : List Operator}
    {t : Terminal} {err : Error} (h : ofChain d source body t = .error err) :
    let conditions := body.filterMap Operator.filter? ++ t.predicate?.toList
    (Predicate.emitAll conditions).toExcept = .error err ∨
      ∃ ts, Predicate.emitAll conditions = .write ts ∧ ¬t.isCount ∧
        orderKeys body = .error err := by
  rcases Except.bind_eq_error.mp h with h | ⟨ts, hts, h⟩
  · exact .inl h
  · by_cases hcount : t.isCount
    · rw [if_pos hcount] at h
      cases h
    · rw [if_neg hcount] at h
      rcases Except.bind_eq_error.mp h with hkeys | ⟨ks, -, h⟩
      · exact .inr ⟨ts, Emission.toExcept_eq_ok.mp hts, hcount, hkeys⟩
      · cases h

/-- The operator at the end of a query that has ended. -/
theorem Query.operators_of_terminal? {q : Query} {t : Terminal} (h : q.terminal? = some t) :
    q.operators = q.operators.dropLast ++ [.terminal t] := by
  rw [terminal?] at h
  split at h
  · next u hlast =>
    cases h
    obtain ⟨ops, hops⟩ := List.getLast?_eq_some_iff.mp hlast
    rw [hops, List.dropLast_concat]
  · cases h

theorem Query.of_split {q : Query} {body : List Operator} {t : Terminal}
    (h : q.split = .ok (body, t)) :
    body.filterMap Operator.filter? ++ t.predicate?.toList = q.conditions ∧
      ∀ op ∈ body, op ∈ q.operators := by
  rw [split] at h
  rw [conditions]
  cases hterminal : q.terminal? with
  | none =>
    simp only [hterminal] at h
    split at h
    · cases h
    · cases h
      exact ⟨rfl, fun op hop ↦ hop⟩
  | some t' =>
    simp only [hterminal] at h
    split at h
    · cases h
    · cases h
      -- the terminal is no filter, so the filters are those in front of it
      have hops := operators_of_terminal? hterminal
      refine ⟨?_, fun op hop ↦ (List.dropLast_sublist _).subset hop⟩
      conv_rhs => rw [hops, List.filterMap_append]
      rw [List.append_assoc]
      rfl

namespace Request

variable {d : Dialect} {r : Request} {t : Template}

/-- The members of the conditions are among the names of the request. -/
theorem mem_identifiers_of_conditions {x : String}
    (hx : x ∈ r.conditions.flatMap Predicate.members) : x ∈ r.identifiers := by
  cases r with
  | select q =>
    rw [conditions, Query.conditions, List.flatMap_append, List.mem_append] at hx
    refine List.mem_cons_of_mem _ (List.mem_flatMap.mpr ?_)
    rcases hx with hx | hx
    · obtain ⟨p, hp, hx⟩ := List.mem_flatMap.mp hx
      obtain ⟨op, hop, hfilter⟩ := List.mem_filterMap.mp hp
      refine ⟨op, hop, ?_⟩
      cases op with
      | filter p' =>
        cases hfilter
        exact hx
      | _ => cases hfilter
    · cases hterminal : q.terminal? with
      | none =>
        rw [hterminal] at hx
        cases hx
      | some t =>
        rw [hterminal] at hx
        refine ⟨.terminal t, ?_, hx⟩
        rw [Query.operators_of_terminal? hterminal]
        exact List.mem_append_right _ (List.mem_singleton_self _)
  | update target fields p => exact List.mem_cons_of_mem _ (List.mem_append_right _ hx)
  | delete source p => exact List.mem_cons_of_mem _ hx

/-- The template has the three parts of the request. The front binds the leading values and the end
binds nothing, and both are plain if the names of the request are. -/
def HasParts (d : Dialect) (r : Request) (t : Template) : Prop :=
  ∃ head ts tail, Predicate.emitAll r.conditions = .write ts ∧
    t = head ++ (whereClause ts ++ tail) ∧
    head.values d = r.leadingValues ∧ tail.values d = [] ∧
    ((∀ x ∈ r.identifiers, d.Unmarked x) → head.Plain d ∧ tail.Plain d ∧ tail.OpensApart)

theorem hasParts_select {q : Query} (h : (select q).layOut d = .ok t) :
    HasParts d (select q) t := by
  obtain ⟨s, hs, h⟩ := Except.bind_eq_ok.mp h
  cases h
  obtain ⟨⟨body, terminal⟩, hsplit, hchain⟩ := Except.bind_eq_ok.mp hs
  obtain ⟨hconditions, hbody⟩ := Query.of_split hsplit
  obtain ⟨hemit, hsource, hnames⟩ := Select.of_ofChain hchain
  rw [hconditions] at hemit
  refine ⟨s.head, s.condition, s.tail, hemit, s.template_eq, ?_, s.values_tail d, fun hplain ↦ ?_⟩
  · rw [Select.head, hsource]
    exact q.source.values_template d
  · have hsourceName : d.Unmarked q.source.name := hplain _ List.mem_cons_self
    have houter : ∀ x ∈ s.outerNames, d.Unmarked x := by
      intro x hx
      obtain ⟨op, hop, hxop⟩ := List.mem_flatMap.mp (hnames x hx)
      exact hplain x (List.mem_cons_of_mem _ (List.mem_flatMap.mpr ⟨op, hbody op hop, hxop⟩))
    have hselect : d.Unmarked "SELECT " := by cases d <;> decide
    have hfrom : d.Unmarked " FROM " := by cases d <;> decide
    refine ⟨⟨?_, ?_⟩, Select.plain_tail houter⟩
    · rw [Dialect.unmarked_append, Dialect.unmarked_append]
      exact ⟨⟨hselect, Select.unmarked_list houter⟩, hfrom⟩
    · rw [hsource]
      exact Source.plain_template hsourceName

theorem hasParts_update {target : String} {fields : List (String × Value)} {p : Option Predicate}
    (h : (update target fields p).layOut d = .ok t) : HasParts d (update target fields p) t := by
  obtain ⟨_, _, h⟩ := Except.bind_eq_ok.mp h
  by_cases hnone : fields.isEmpty
  · rw [if_pos hnone] at h
    cases h
  · rw [if_neg hnone] at h
    obtain ⟨_, _, h⟩ := Except.bind_eq_ok.mp h
    obtain ⟨ts, hts, h⟩ := Except.bind_eq_ok.mp h
    cases h
    refine ⟨.text ("UPDATE " ++ target ++ " SET ") :: Statement.assignments fields, ts, [],
      Emission.toExcept_eq_ok.mp hts, ?_, Statement.values_assignments d fields, rfl,
      fun hplain ↦ ?_⟩
    · rw [List.append_nil]
    · have htarget : d.Unmarked target := hplain _ List.mem_cons_self
      have hupdate : d.Unmarked "UPDATE " := by cases d <;> decide
      have hset : d.Unmarked " SET " := by cases d <;> decide
      refine ⟨⟨?_, Statement.plain_assignments fun e he ↦ ?_⟩, trivial, trivial⟩
      · rw [Dialect.unmarked_append, Dialect.unmarked_append]
        exact ⟨⟨hupdate, htarget⟩, hset⟩
      · exact hplain _ (List.mem_cons_of_mem _ (List.mem_append_left _ (List.mem_map_of_mem he)))

theorem hasParts_delete {source : String} {p : Option Predicate}
    (h : (delete source p).layOut d = .ok t) : HasParts d (delete source p) t := by
  obtain ⟨_, _, h⟩ := Except.bind_eq_ok.mp h
  obtain ⟨ts, hts, h⟩ := Except.bind_eq_ok.mp h
  cases h
  refine ⟨[.text ("DELETE FROM " ++ source)], ts, [], Emission.toExcept_eq_ok.mp hts, ?_, rfl, rfl,
    fun hplain ↦ ?_⟩
  · rw [List.append_nil]
    rfl
  · have hsource : d.Unmarked source := hplain _ List.mem_cons_self
    have hdelete : d.Unmarked "DELETE FROM " := by cases d <;> decide
    exact ⟨⟨Dialect.unmarked_append.mpr ⟨hdelete, hsource⟩, trivial⟩, trivial, trivial⟩

theorem hasParts_of_layOut (h : r.layOut d = .ok t) : HasParts d r t := by
  cases r with
  | select q => exact hasParts_select h
  | update target fields p => exact hasParts_update h
  | delete source p => exact hasParts_delete h

/-- The template of a request binds the values of the request in order. -/
theorem values_of_layOut (h : r.layOut d = .ok t) : t.values d = r.boundValues d := by
  obtain ⟨head, ts, tail, hemit, rfl, hhead, htail, -⟩ := hasParts_of_layOut h
  rw [Template.values_append, Template.values_append, hhead, htail, List.append_nil,
    values_whereClause, Predicate.operands_of_emitAll hemit, List.filterMap_flatMap]
  simp only [Predicate.filterMap_constant?_operands]
  rfl

/-- The template of a request is plain if its names are. -/
theorem plain_of_layOut (h : r.layOut d = .ok t) (hnames : ∀ x ∈ r.identifiers, d.Unmarked x) :
    t.Plain d := by
  obtain ⟨head, ts, tail, hemit, rfl, -, -, hplain⟩ := hasParts_of_layOut h
  obtain ⟨hhead, htail, hopen⟩ := hplain hnames
  have hmembers : ∀ name ∈ (Token.operands d ts).filterMap Operand.column?, d.Unmarked name := by
    rw [Predicate.operands_of_emitAll hemit, List.filterMap_flatMap]
    simp only [Predicate.filterMap_column?_operands]
    exact fun name hname ↦ hnames name (mem_identifiers_of_conditions hname)
  exact hhead.append ((plain_whereClause hmembers).append htail hopen)
    ((opensApart_whereClause ts).append hopen)

end Request

theorem Parameter.numberFrom_eq_mapIdx (start : Nat) (vs : List Value) :
    numberFrom start vs = vs.mapIdx fun i v ↦ ⟨"@param" ++ toString (start + i), v⟩ := by
  induction vs generalizing start with
  | nil => rfl
  | cons v vs ih =>
    rw [numberFrom, ih, List.mapIdx_cons]
    simp only [Nat.add_assoc, Nat.add_comm 1]
    rfl

/-- **Parameters match their references.** The parameters of a statement are the values of the
request in order, named by their places. The text has one hole for each of them, filled with the
references in order; and if no name of the request holds the sign of a reference, these are all
references in the text. -/
theorem references_translate {r : Request} {d : Dialect} {s : Statement}
    (h : r.translate d = .ok s) :
    s.parameters = (r.boundValues d).mapIdx (fun i v ↦ ⟨"@param" ++ toString i, v⟩) ∧
    (∃ t : Template, t.values d = r.boundValues d ∧
      s.sql = t.fill ((List.range s.parameters.length).map d.reference)) ∧
    ((∀ x ∈ r.identifiers, d.Unmarked x) →
      d.references s.sql.toList = (List.range s.parameters.length).map d.reference) := by
  rw [Request.translate_eq] at h
  cases hlayout : r.layOut d with
  | error err =>
    rw [hlayout] at h
    cases h
  | ok t =>
    rw [hlayout] at h
    cases h
    have hvalues := Request.values_of_layOut hlayout
    have hparameters : (t.toStatement d).parameters =
        (r.boundValues d).mapIdx fun i v ↦ ⟨"@param" ++ toString i, v⟩ := by
      rw [Template.toStatement, hvalues, Parameter.numberFrom_eq_mapIdx]
      simp only [Nat.zero_add]
    have hlength : (t.toStatement d).parameters.length = t.constants.length := by
      rw [hparameters, List.length_mapIdx, ← hvalues, Template.values, List.length_map]
    rw [hlength, List.range_eq_range']
    refine ⟨hparameters, ⟨t, hvalues, Template.render_eq_fill d 0 t⟩, fun hnames ↦ ?_⟩
    exact (Request.plain_of_layOut hlayout hnames).references_render 0

/-- A query whose constants stand in its source, in two filters and in its terminal. -/
theorem references_translate_select :
    let r : Request := .select ⟨.function "F" [.int32 1], [
      .filter (.not (.or (.like .contains "Name" "a") (.boolEquals "Active" (some true)))),
      .filter (.compare .eq (.literal .null) (.member "Id")),
      .terminal (.count (some (.inSet "Age" [.int32 2, .int32 3])))]⟩
    let s : Statement := ⟨"SELECT COUNT(*) FROM F($1) WHERE ((NOT (Name LIKE $2 OR Active = $3) " ++
        "AND Id IS NULL) AND Age IN ($4, $5))",
      [⟨"@param0", .int32 1⟩, ⟨"@param1", .string "%a%"⟩, ⟨"@param2", .bool true⟩,
        ⟨"@param3", .int32 2⟩, ⟨"@param4", .int32 3⟩]⟩
    r.translate .postgres = .ok s ∧ (∀ x ∈ r.identifiers, Dialect.Unmarked .postgres x) ∧
    s.parameters = (r.boundValues .postgres).mapIdx (fun i v ↦ ⟨"@param" ++ toString i, v⟩) ∧
    (∃ t : Template, t.values .postgres = r.boundValues .postgres ∧
      s.sql = t.fill ((List.range s.parameters.length).map (Dialect.reference .postgres))) ∧
    Dialect.references .postgres s.sql.toList = ["$1", "$2", "$3", "$4", "$5"] := by
  intro r s
  have htranslate : r.translate .postgres = .ok s := by decide +kernel
  have hnames : ∀ x ∈ r.identifiers, Dialect.Unmarked .postgres x := by decide +kernel
  obtain ⟨hparameters, hfill, hreferences⟩ := references_translate htranslate
  exact ⟨htranslate, hnames, hparameters, hfill, (hreferences hnames).trans rfl⟩

end QueryChain
