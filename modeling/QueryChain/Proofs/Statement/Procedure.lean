import QueryChain.Proofs.Predicate.Built
import QueryChain.Statement.Procedure

/-!
# The variables of a batch

The batch that calls a procedure declares a variable for the return code, and the parameters are
variables as well, since they are sent along under the caller's names. A database refuses a batch
that has two variables of one name. Names are compared without regard to case, and the batch is
made only if those of the parameters differ. The variable that the batch declares for itself is not
among the names that are compared, so a parameter may take its name.
-/

namespace QueryChain

theorem Text.fold_append (s t : String) : fold (s ++ t) = fold s ++ fold t := by
  rw [← String.toList_inj, toList_fold, String.toList_append, String.toList_append, List.map_append,
    toList_fold, toList_fold]

theorem Text.sameFolded_iff {s t : String} : sameFolded s t ↔ fold s = fold t := beq_iff_eq

namespace Statement

/-! ## Batches -/

/-- A batch that catches the return code of a procedure in a variable of its own. -/
structure Batch where
  result : String
  procedureName : String
  arguments : List String

namespace Batch

def text (b : Batch) : String :=
  "DECLARE " ++ b.result ++ " int; EXEC " ++ b.result ++ " = " ++ b.procedureName ++
    (if b.arguments = [] then "" else " " ++ ", ".intercalate b.arguments) ++
    "; SELECT 'Return Value' = " ++ b.result

/-- The variables that the batch declares or is sent. -/
def scope (b : Batch) : List String := b.result :: b.arguments

/-- No two variables have the same name, in whatever case. -/
def DeclaresOnce (b : Batch) : Prop := b.scope.Pairwise fun x y ↦ ¬Text.sameFolded x y

end Batch

/-! ## The names of parameters -/

/-- The parameter for a key of the caller. -/
def parameterOf (argument : String × Value) : Parameter := ⟨"@" ++ bareName argument.1, argument.2⟩

/-- A bare name lacks every `@` that stood in front, and nothing else. -/
theorem toList_bareName (key : String) :
    (∃ n, key.toList = List.replicate n '@' ++ (bareName key).toList) ∧
      (bareName key).toList.head? ≠ some '@' := by
  have hdrop : (bareName key).toList = key.toList.dropWhile (· == '@') := String.toList_ofList
  rw [hdrop]
  constructor
  · have htaken : ∀ c ∈ key.toList.takeWhile (· == '@'), c = '@' := by
      intro c hc
      exact beq_iff_eq.mp (List.all_eq_true.mp List.all_takeWhile c hc)
    refine ⟨(key.toList.takeWhile (· == '@')).length, ?_⟩
    rw [← List.eq_replicate_of_mem htaken, List.takeWhile_append_dropWhile]
  · intro hhead
    have hnot := List.head?_dropWhile_not (· == '@') key.toList
    rw [hhead] at hnot
    exact absurd hnot (by simp)

variable {name : String} {d : Dialect} {arguments : List (String × Value)} {seen : List String}
  {parameters : List Parameter} {s : Statement}

theorem procedureParameters_cons_eq_ok {a : String × Value} :
    procedureParameters seen (a :: arguments) = .ok parameters ↔
      Text.allBlank (bareName a.1) = false ∧ Text.fold (parameterOf a).name ∉ seen ∧
      ∃ rest, procedureParameters (Text.fold (parameterOf a).name :: seen) arguments = .ok rest ∧
        parameters = parameterOf a :: rest := by
  obtain ⟨key, v⟩ := a
  rw [procedureParameters]
  constructor
  · intro h
    obtain ⟨_, hname, h⟩ := Except.bind_eq_ok.mp h
    dsimp only at h
    by_cases hseen : Text.fold ("@" ++ bareName key) ∈ seen
    · rw [if_pos hseen] at h
      cases h
    · rw [if_neg hseen] at h
      obtain ⟨rest, hrest, h⟩ := Except.bind_eq_ok.mp h
      cases h
      exact ⟨checkName_eq_ok.mp hname, hseen, rest, hrest, rfl⟩
  · rintro ⟨hname, hseen, rest, hrest, rfl⟩
    refine Except.bind_eq_ok.mpr ⟨(), checkName_eq_ok.mpr hname, ?_⟩
    dsimp only
    rw [if_neg (by exact hseen)]
    exact Except.bind_eq_ok.mpr ⟨rest, hrest, rfl⟩

/-- The names are compared with those in front of them and with those that were seen before. -/
theorem procedureParameters_eq_ok :
    procedureParameters seen arguments = .ok parameters ↔
      (∀ a ∈ arguments, Text.allBlank (bareName a.1) = false) ∧
      (∀ a ∈ arguments, Text.fold (parameterOf a).name ∉ seen) ∧
      (arguments.Pairwise fun a b ↦ ¬Text.sameFolded (parameterOf a).name (parameterOf b).name) ∧
      parameters = arguments.map parameterOf := by
  induction arguments generalizing seen parameters with
  | nil =>
    rw [procedureParameters, Except.ok.injEq, List.map_nil]
    constructor
    · rintro rfl
      exact ⟨List.forall_mem_nil _, List.forall_mem_nil _, .nil, rfl⟩
    · rintro ⟨-, -, -, rfl⟩
      rfl
  | cons a arguments ih =>
    rw [procedureParameters_cons_eq_ok, List.forall_mem_cons, List.forall_mem_cons,
      List.pairwise_cons, List.map_cons]
    simp only [ih, Text.sameFolded_iff, List.mem_cons, not_or]
    constructor
    · rintro ⟨hname, hseen, _, ⟨hnames, hfresh, hpairs, rfl⟩, rfl⟩
      refine ⟨⟨hname, hnames⟩, ⟨hseen, fun b hb ↦ (hfresh b hb).2⟩, ⟨?_, hpairs⟩, rfl⟩
      intro b hb heq
      exact (hfresh b hb).1 heq.symm
    · rintro ⟨⟨hname, hnames⟩, ⟨hseen, hfresh⟩, ⟨hother, hpairs⟩, rfl⟩
      refine ⟨hname, hseen, _, ⟨hnames, ?_, hpairs, rfl⟩, rfl⟩
      intro b hb
      exact ⟨fun heq ↦ hother b hb heq.symm, hfresh b hb⟩

theorem batch_text (name : String) (parameters : List Parameter) :
    (Batch.mk "@return_value" name (parameters.map Parameter.name)).text =
      "DECLARE @return_value int; EXEC @return_value = " ++ name ++ argumentText parameters ++
        "; SELECT 'Return Value' = @return_value" := by
  have hhead : "DECLARE " ++ "@return_value" ++ " int; EXEC " ++ "@return_value" ++ " = " =
      "DECLARE @return_value int; EXEC @return_value = " := by decide
  have htail : "; SELECT 'Return Value' = " ++ "@return_value" =
      "; SELECT 'Return Value' = @return_value" := by decide
  have harguments : (if parameters.map Parameter.name = [] then ""
      else " " ++ ", ".intercalate (parameters.map Parameter.name)) = argumentText parameters := by
    rw [argumentText]
    rcases parameters with _ | ⟨p, parameters⟩ <;> rfl
  rw [← hhead, ← htail, ← harguments, ← String.append_assoc]
  rfl

/-- A call is accepted if its procedure and its keys have names that are not blank, and no two keys
have the same name once folded. -/
theorem procedure_eq_ok : procedure name arguments d = .ok s ↔
    Text.allBlank name = false ∧ d.supportsProcedures ∧
    (∀ a ∈ arguments, Text.allBlank (bareName a.1) = false) ∧
    (arguments.Pairwise fun a b ↦ ¬Text.sameFolded (parameterOf a).name (parameterOf b).name) ∧
    s.parameters = arguments.map parameterOf ∧
    s.sql = (Batch.mk "@return_value" name (s.parameters.map Parameter.name)).text := by
  rw [procedure, batch_text]
  constructor
  · intro h
    obtain ⟨_, hname, h⟩ := Except.bind_eq_ok.mp h
    by_cases hd : !d.supportsProcedures
    · rw [if_pos hd] at h
      cases h
    · rw [if_neg hd] at h
      obtain ⟨parameters, hparameters, h⟩ := Except.bind_eq_ok.mp h
      obtain ⟨hnames, -, hpairs, rfl⟩ := procedureParameters_eq_ok.mp hparameters
      cases h
      exact ⟨checkName_eq_ok.mp hname, by simpa using hd, hnames, hpairs, rfl, rfl⟩
  · rintro ⟨hname, hd, hnames, hpairs, hparameters, hsql⟩
    refine Except.bind_eq_ok.mpr ⟨(), checkName_eq_ok.mpr hname, ?_⟩
    rw [if_neg (by simpa using hd)]
    refine Except.bind_eq_ok.mpr ⟨s.parameters, ?_, ?_⟩
    · exact procedureParameters_eq_ok.mpr
        ⟨hnames, fun _ _ ↦ List.not_mem_nil, hpairs, hparameters⟩
    · rw [← hsql]
      rfl

/-! ## The scope of the batch -/

theorem sameFolded_parameterOf {a : String × Value} :
    Text.sameFolded "@return_value" (parameterOf a).name ↔
      Text.fold (bareName a.1) = "return_value" := by
  have hresult : Text.fold "@return_value" = Text.fold "@" ++ "return_value" := by decide
  rw [Text.sameFolded_iff, parameterOf, Text.fold_append "@", hresult, String.append_right_inj,
    eq_comm]

/-- **A batch declares its variables once, unless a parameter is called like its result.** The text
is that of the batch whose arguments are the parameters, in the order of the caller's keys. Each is
named by an `@` and the key without those in front, which is not blank, and no two of them have the
same name, in whatever case. So the variables of the batch differ exactly if no key has the bare
name of the variable for the return code. -/
theorem procedure_declaresOnce_iff (h : procedure name arguments d = .ok s) :
    let b : Batch := ⟨"@return_value", name, s.parameters.map Parameter.name⟩
    s.sql = b.text ∧
    s.parameters = arguments.map (fun a ↦ ⟨"@" ++ bareName a.1, a.2⟩) ∧
    (∀ a ∈ arguments, Text.allBlank (bareName a.1) = false ∧
      (∃ n, a.1.toList = List.replicate n '@' ++ (bareName a.1).toList) ∧
      (bareName a.1).toList.head? ≠ some '@') ∧
    (b.arguments.Pairwise fun x y ↦ ¬Text.sameFolded x y) ∧
    (b.DeclaresOnce ↔ ∀ a ∈ arguments, Text.fold (bareName a.1) ≠ "return_value") := by
  intro b
  obtain ⟨-, -, hnames, hpairs, hparameters, hsql⟩ := procedure_eq_ok.mp h
  have harguments : b.arguments = arguments.map fun a ↦ (parameterOf a).name := by
    change s.parameters.map Parameter.name = _
    rw [hparameters, List.map_map]
    rfl
  have hdistinct : b.arguments.Pairwise fun x y ↦ ¬Text.sameFolded x y := by
    rw [harguments, List.pairwise_map]
    exact hpairs
  refine ⟨hsql, hparameters, ?_, hdistinct, ?_⟩
  · intro a ha
    exact ⟨hnames a ha, toList_bareName a.1⟩
  · rw [Batch.DeclaresOnce, Batch.scope, List.pairwise_cons, and_iff_left hdistinct, harguments,
      List.forall_mem_map]
    exact forall₂_congr fun a _ ↦ not_congr sameFolded_parameterOf

/-- Two keys that differ in more than case, one of them written with an `@` too many. -/
theorem procedure_declaresOnce_iff_count :
    let arguments : List (String × Value) := [("@@From", .int32 1), ("Return_Values", .null)]
    let s : Statement := ⟨"DECLARE @return_value int; EXEC @return_value = dbo.Count @From, " ++
        "@Return_Values; SELECT 'Return Value' = @return_value",
      [⟨"@From", .int32 1⟩, ⟨"@Return_Values", .null⟩]⟩
    procedure "dbo.Count" arguments .sqlServer = .ok s ∧
      Batch.DeclaresOnce ⟨"@return_value", "dbo.Count", s.parameters.map Parameter.name⟩ := by
  intro arguments s
  have hs : procedure "dbo.Count" arguments .sqlServer = .ok s := by decide +kernel
  have hkeys : ∀ a ∈ arguments, Text.fold (bareName a.1) ≠ "return_value" := by decide +kernel
  obtain ⟨-, -, -, -, hscope⟩ := procedure_declaresOnce_iff hs
  exact ⟨hs, hscope.mpr hkeys⟩

/-- The key for the variable that the batch declares itself is accepted, and the batch has two
variables of that name. -/
theorem not_declaresOnce_return_value :
    let s : Statement := ⟨"DECLARE @return_value int; EXEC @return_value = dbo.P @return_value; " ++
      "SELECT 'Return Value' = @return_value", [⟨"@return_value", .int32 1⟩]⟩
    procedure "dbo.P" [("return_value", .int32 1)] .sqlServer = .ok s ∧
      ¬Batch.DeclaresOnce ⟨"@return_value", "dbo.P", s.parameters.map Parameter.name⟩ := by
  intro s
  refine ⟨by decide +kernel, ?_⟩
  intro h
  exact (List.pairwise_cons.mp h).1 "@return_value" List.mem_cons_self (by decide)

end Statement

end QueryChain
