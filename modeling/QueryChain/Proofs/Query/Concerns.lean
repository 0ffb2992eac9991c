import QueryChain.Execution.Context
import QueryChain.Proofs.Statement.Binding

/-!
# The order of calls

Every operator of a chain has one concern: which rows are wanted, in which order, on which page,
with which columns, or what is to be done with them. A clause of a statement is worked out from the
operators of one concern, each in its own way: the conditions are collected, the ordering starts
over, the page adds up, and the last choice of columns counts. What they have in common is that
operators of another concern are passed over, which is what the lemmas named `_about` say.

So two chains have the same statement as soon as they agree concern by concern. How the concerns are
mixed in them does not matter, not even for which error is reported.
-/

namespace QueryChain

/-- What an operator speaks about. -/
inductive Concern
  | condition
  | order
  | page
  | columns
  | ending
deriving DecidableEq

namespace Operator

def concern : Operator → Concern
  | filter _ => .condition
  | orderBy .. | thenBy .. => .order
  | skip _ | take _ => .page
  | selectOnly _ => .columns
  | terminal _ => .ending

/-- The operators with the given concern, in the order of the calls. -/
def about (c : Concern) (ops : List Operator) : List Operator :=
  ops.filter fun op ↦ op.concern = c

/-- The chains have the same operators of each concern in the same order; how operators of different
concerns are mixed is left open. -/
def SameConcerns (ops ops' : List Operator) : Prop := ∀ c, about c ops = about c ops'

/-! ## What each clause passes over -/

section About

variable (ops : List Operator)

theorem filterMap_filter?_about :
    (about .condition ops).filterMap filter? = ops.filterMap filter? := by
  rw [about, List.filterMap_filter]
  congr
  funext op
  cases op <;> rfl

theorem page_about : Page.ofOperators (about .page ops) = Page.ofOperators ops := by
  rw [Page.ofOperators, about, List.foldl_filter, Page.ofOperators]
  congr
  funext page op
  cases op <;> rfl

theorem selectedFields_about : selectedFields (about .columns ops) = selectedFields ops := by
  rw [selectedFields, about, List.filterMap_filter, selectedFields]
  congr
  funext op
  cases op <;> rfl

theorem find?_isTerminal_about :
    (about .ending ops).find? isTerminal = ops.find? isTerminal := by
  rw [about, List.find?_filter]
  congr
  funext op
  cases op <;> rfl

/-- An ordering starts over in the middle of a chain, so the keys in force are general. -/
theorem orderKeysFrom_about (keys : List (String × Direction)) :
    orderKeysFrom keys (about .order ops) = orderKeysFrom keys ops := by
  induction ops generalizing keys with
  | nil => rfl
  | cons op ops ih =>
    cases op with
    | orderBy key direction | thenBy key direction =>
      exact congrArg (keyName key >>= ·) (funext fun name ↦ ih _)
    | _ => exact ih keys

/-! ## What a chain asks for -/

theorem isSome_foldl_apply (page : Page) :
    ((ops.foldl Page.apply page).skip.isSome ↔ page.skip.isSome ∨ ∃ n, skip n ∈ ops) ∧
      ((ops.foldl Page.apply page).take.isSome ↔ page.take.isSome ∨ ∃ n, take n ∈ ops) := by
  induction ops generalizing page with
  | nil => simp
  | cons op ops ih =>
    rw [List.foldl_cons, (ih _).1, (ih _).2]
    cases op <;> simp [Page.apply]

variable {ops}

/-- There is a key as soon as some operator orders, since an ordering that starts over has one. -/
theorem orderKeysFrom_eq_nil_iff {keys ks : List (String × Direction)}
    (h : orderKeysFrom keys ops = .ok ks) : ks = [] ↔ keys = [] ∧ about .order ops = [] := by
  induction ops generalizing keys with
  | nil =>
    cases h
    exact (and_iff_left rfl).symm
  | cons op ops ih =>
    cases op with
    | orderBy key direction | thenBy key direction =>
      obtain ⟨name, -, h⟩ := Except.bind_eq_ok.mp h
      simp [ih h, about, concern]
    | _ => exact ih h

theorem orderKeys_eq_nil_iff {ks : List (String × Direction)} (h : orderKeys ops = .ok ks) :
    ks = [] ↔ about .order ops = [] :=
  (orderKeysFrom_eq_nil_iff h).trans (and_iff_right rfl)

theorem isSome_skip_ofOperators : (Page.ofOperators ops).skip.isSome ↔ ∃ n, skip n ∈ ops := by
  simpa [Page.ofOperators] using (isSome_foldl_apply ops {}).1

theorem isSome_take_ofOperators : (Page.ofOperators ops).take.isSome ↔ ∃ n, take n ∈ ops := by
  simpa [Page.ofOperators] using (isSome_foldl_apply ops {}).2

end About

namespace SameConcerns

variable {ops ops' : List Operator}

theorem conditions_eq (h : SameConcerns ops ops') :
    ops.filterMap filter? = ops'.filterMap filter? := by
  rw [← filterMap_filter?_about, h, filterMap_filter?_about]

theorem page_eq (h : SameConcerns ops ops') : Page.ofOperators ops = Page.ofOperators ops' := by
  rw [← page_about, h, page_about]

theorem selectedFields_eq (h : SameConcerns ops ops') :
    selectedFields ops = selectedFields ops' := by
  rw [← selectedFields_about, h, selectedFields_about]

theorem orderKeys_eq (h : SameConcerns ops ops') : orderKeys ops = orderKeys ops' := by
  rw [orderKeys, ← orderKeysFrom_about, h, orderKeysFrom_about, orderKeys]

theorem find?_isTerminal_eq (h : SameConcerns ops ops') :
    ops.find? isTerminal = ops'.find? isTerminal := by
  rw [← find?_isTerminal_about, h, find?_isTerminal_about]

end SameConcerns

end Operator

/-! ## Chains that agree concern by concern -/

theorem Select.ofChain_of_sameConcerns {body body' : List Operator}
    (h : Operator.SameConcerns body body') (d : Dialect) (source : Source) (t : Terminal) :
    ofChain d source body t = ofChain d source body' t := by
  rw [ofChain, ofChain, h.conditions_eq, h.page_eq, h.selectedFields_eq, h.orderKeys_eq]

namespace Query

/-- In a chain that is closed by a terminal, another terminal is an error. -/
theorem split_terminate (q : Query) (t : Terminal) :
    (q.terminate t).split = match q.operators.find? Operator.isTerminal with
      | some op => .error (.terminalNotLast op.kind)
      | none => .ok (q.operators, t) := by
  have hbody : (q.terminate t).operators.dropLast = q.operators := by
    rw [terminate, operators_append, List.dropLast_concat]
  cases hfind : q.operators.find? Operator.isTerminal <;>
    simp only [split, terminal?_terminate, hbody, hfind]

variable {q q' : Query}

theorem select_of_sameConcerns (hsource : q.source = q'.source)
    (hops : Operator.SameConcerns q.operators q'.operators) (t : Terminal) (d : Dialect) :
    (q.terminate t).select d = (q'.terminate t).select d := by
  have hchain := Select.ofChain_of_sameConcerns hops d q'.source t
  rw [select, select, split_terminate, split_terminate, hops.find?_isTerminal_eq, terminate,
    source_append, hsource]
  rcases q'.operators.find? Operator.isTerminal with _ | op
  · exact hchain
  · rfl

/-- **Only the order within a concern matters.** Two queries over one source whose operators agree
concern by concern have the same statement for every terminal in every dialect, or the same error;
and the same answer to their count is corrected to the same number, so that they are counted
alike. -/
theorem toStatement_of_sameConcerns (hsource : q.source = q'.source)
    (hops : Operator.SameConcerns q.operators q'.operators) :
    (∀ t d, (q.terminate t).toStatement d = (q'.terminate t).toStatement d) ∧
      (∀ total, q.adjustedCount total = q'.adjustedCount total) ∧
      ∀ (σ γ : Type) (ctx : Context σ γ) p, ctx.count q p = ctx.count q' p := by
  have hstatement (t : Terminal) (d : Dialect) :
      (q.terminate t).toStatement d = (q'.terminate t).toStatement d := by
    rw [toStatement, select_of_sameConcerns hsource hops, toStatement]
  have htotal (total : Value) : q.adjustedCount total = q'.adjustedCount total := by
    rw [adjustedCount, Page.ofQuery, hops.page_eq, adjustedCount, Page.ofQuery]
  refine ⟨hstatement, htotal, ?_⟩
  intro σ γ ctx p
  rw [Context.count, Context.statementFor, hstatement, Context.count, Context.statementFor,
    funext htotal]

/-- All concerns are mixed in both chains, and the ordering starts over in the middle. -/
theorem toStatement_of_sameConcerns_mixed :
    let adult : Predicate := .compare .ge (.member "Age") (.literal (.int32 18))
    let named : Predicate := .like .contains "Name" "a"
    let q : Query := ⟨.function "F" [.int32 1], [.skip 2, .filter adult, .thenBy (.member "A") .asc,
      .selectOnly ["A"], .take 5, .orderBy (.member "B") .desc, .filter named, .skip 1,
      .thenBy (.member "C") .asc, .selectOnly ["B", "C"]]⟩
    let q' : Query := ⟨.function "F" [.int32 1], [.selectOnly ["A"], .selectOnly ["B", "C"],
      .filter adult, .filter named, .thenBy (.member "A") .asc, .orderBy (.member "B") .desc,
      .thenBy (.member "C") .asc, .skip 2, .take 5, .skip 1]⟩
    let s : Statement := ⟨"SELECT B, C FROM F($1) WHERE (Age >= $2 AND Name LIKE $3) " ++
        "ORDER BY B DESC, C ASC OFFSET 3 ROWS FETCH NEXT 5 ROW ONLY",
      [⟨"@param0", .int32 1⟩, ⟨"@param1", .int32 18⟩, ⟨"@param2", .string "%a%"⟩]⟩
    Operator.SameConcerns q.operators q'.operators ∧
      (q.terminate .toList).toStatement .postgres = .ok s ∧
      (q'.terminate .toList).toStatement .postgres = .ok s ∧
      q.adjustedCount (.int32 7) = .ok 4 ∧ q'.adjustedCount (.int32 7) = .ok 4 := by
  intro adult named q q' s
  have hops : Operator.SameConcerns q.operators q'.operators := by
    intro c
    cases c <;> rfl
  have hsource : q.source = q'.source := rfl
  obtain ⟨hstatement, htotal, -⟩ := toStatement_of_sameConcerns hsource hops
  have hs : (q.terminate .toList).toStatement .postgres = .ok s := by decide +kernel
  have hn : q.adjustedCount (.int32 7) = .ok 4 := by decide +kernel
  exact ⟨hops, hs, (hstatement _ _).symm.trans hs, hn, (htotal _).symm.trans hn⟩

end Query

end QueryChain
