import QueryChain.Proofs.Condition.Grammar

/-!
# Reading conditions

A reader that goes through the tokens once, from left to right. It keeps a frame for every group
that is open: the disjuncts and the factors read so far, and the number of `NOT`s in front of what
comes next. A test is gathered token by token until it is complete, which no beginning of another
test is.

The reader gives a tree exactly if the grammar derives it, so the grammar is unambiguous.
-/

namespace QueryChain

namespace SearchCondition

/-! ## Single tests -/

/-- The operand that a token is. A boolean constant has no value before a dialect gives it one. -/
def operand? : Token → Option Operand
  | .member name => some (.column name)
  | .constant (.value v) => some (.constant v)
  | _ => none

theorem operand?_token (x : Operand) : operand? x.token = some x := by
  cases x <;> rfl

theorem token_of_operand? {t : Token} {x : Operand} (h : operand? t = some x) : t = x.token := by
  unfold operand? at h
  split at h <;> cases h <;> rfl

/-- The operands of a list up to its closing parenthesis, which ends the tokens. -/
def items? : List Token → Option (List Operand)
  | [x, .rightParen] => (operand? x).map ([·])
  | x :: .comma :: ts => do pure ((← operand? x) :: (← items? ts))
  | _ => none

/-- The test that the tokens are. -/
def test? : List Token → Option SearchCondition
  | [x, .sign op, y] => do pure (.compare op (← operand? x) (← operand? y))
  | [x, .like, y] => do pure (.like false (← operand? x) (← operand? y))
  | [x, .not, .like, y] => do pure (.like true (← operand? x) (← operand? y))
  | [x, .is, .null] => (operand? x).map (.isNull false)
  | [x, .is, .not, .null] => (operand? x).map (.isNull true)
  | x :: .inList :: .leftParen :: ts => do pure (.inList false (← operand? x) (← items? ts))
  | x :: .not :: .inList :: .leftParen :: ts => do pure (.inList true (← operand? x) (← items? ts))
  | _ => none

theorem items?_list {xs : List Operand} (h : xs ≠ []) :
    items? (Operand.list xs ++ [.rightParen]) = some xs := by
  induction xs with
  | nil => exact absurd rfl h
  | cons x xs ih =>
    cases xs with
    | nil => cases x <;> rfl
    | cons y ys =>
      have hx : items? (x.token :: .comma :: (Operand.list (y :: ys) ++ [.rightParen])) =
          (do pure ((← operand? x.token) ::
            (← items? (Operand.list (y :: ys) ++ [.rightParen])))) := by
        cases x <;> rfl
      rw [Operand.list_cons_cons, List.cons_append, List.cons_append, hx, ih (by simp),
        operand?_token]
      rfl

theorem list_of_items? {ts : List Token} {xs : List Operand} (h : items? ts = some xs) :
    xs ≠ [] ∧ ts = Operand.list xs ++ [.rightParen] := by
  fun_induction items? ts generalizing xs with
  | case1 t =>
    obtain ⟨x, hx, rfl⟩ := Option.map_eq_some_iff.mp h
    rw [token_of_operand? hx]
    exact ⟨by simp, rfl⟩
  | case2 t ts ih =>
    simp only [Option.bind_eq_bind, Option.bind_eq_some_iff, Option.pure_def,
      Option.some.injEq] at h
    obtain ⟨x, hx, ys, hys, rfl⟩ := h
    obtain ⟨hne, rfl⟩ := ih hys
    rw [token_of_operand? hx]
    cases ys with
    | nil => exact absurd rfl hne
    | cons y ys => exact ⟨by simp, rfl⟩
  | case3 => cases h

/-- A list without its closing parenthesis is not complete. -/
theorem items?_eq_none {ts : List Token} (h : .rightParen ∉ ts) : items? ts = none := by
  fun_induction items? ts with
  | case1 t => simp at h
  | case2 t ts ih =>
    rw [ih (by simp_all)]
    cases operand? t <;> rfl
  | case3 => rfl

theorem test?_of_test {ts : List Token} {c : SearchCondition} (h : Test ts c) :
    test? ts = some c := by
  cases h with
  | compare op x y => cases x <;> cases y <;> rfl
  | like negated x y => cases negated <;> cases x <;> cases y <;> rfl
  | isNull negated x => cases negated <;> cases x <;> rfl
  | inList negated x hne =>
    cases negated <;> cases x <;>
      simp [Predicate.notIf, Operand.token, test?, operand?, items?_list hne]

theorem test_of_test? {ts : List Token} {c : SearchCondition} (h : test? ts = some c) :
    Test ts c := by
  unfold test? at h
  split at h
  all_goals
    first
    | cases h
    | simp only [Option.bind_eq_bind, Option.bind_eq_some_iff, Option.pure_def,
        Option.some.injEq, Option.map_eq_some_iff] at h
  · obtain ⟨x, hx, y, hy, rfl⟩ := h
    rw [token_of_operand? hx, token_of_operand? hy]
    exact .compare _ x y
  · obtain ⟨x, hx, y, hy, rfl⟩ := h
    rw [token_of_operand? hx, token_of_operand? hy]
    exact .like false x y
  · obtain ⟨x, hx, y, hy, rfl⟩ := h
    rw [token_of_operand? hx, token_of_operand? hy]
    exact .like true x y
  · obtain ⟨x, hx, rfl⟩ := h
    rw [token_of_operand? hx]
    exact .isNull false x
  · obtain ⟨x, hx, rfl⟩ := h
    rw [token_of_operand? hx]
    exact .isNull true x
  · obtain ⟨x, hx, ys, hys, rfl⟩ := h
    obtain ⟨hne, rfl⟩ := list_of_items? hys
    rw [token_of_operand? hx]
    exact .inList false x hne
  · obtain ⟨x, hx, ys, hys, rfl⟩ := h
    obtain ⟨hne, rfl⟩ := list_of_items? hys
    rw [token_of_operand? hx]
    exact .inList true x hne

/-! ## The reader -/

/-- What was read of a group that is still open. -/
structure Frame where
  /-- The disjuncts in front of the last `OR`. -/
  disjuncts : Option SearchCondition := none
  /-- The factors of the disjunct that is being read. -/
  factors : Option SearchCondition := none
  /-- How many `NOT`s stand in front of the next factor. -/
  nots : Nat := 0

/-- A condition behind a number of `NOT`s. -/
def negate : Nat → SearchCondition → SearchCondition
  | 0, c => c
  | n + 1, c => negate n (.not c)

namespace Frame

/-- The frame after one more factor. -/
def add (f : Frame) (c : SearchCondition) : Frame :=
  { f with
    factors := some (match f.factors with
      | none => negate f.nots c
      | some e => .and e (negate f.nots c))
    nots := 0 }

/-- The condition that the frame stands for if the group ends here. -/
def value? (f : Frame) : Option SearchCondition :=
  match f.disjuncts, f.factors with
  | none, c => c
  | some _, none => none
  | some d, some c => some (.or d c)

end Frame

/-- Where in a condition the reader stands. -/
inductive Place
  /-- In front of a factor. -/
  | before
  /-- Within a test, of which these tokens were read. -/
  | within (ts : List Token)
  /-- Behind a factor. -/
  | after
deriving DecidableEq

/-- The state of the reader: the innermost group, the groups around it, and the place. -/
structure Reading where
  frame : Frame := {}
  outer : List Frame := []
  place : Place := .before

namespace Reading

/-- The state after one more token of a test. -/
def extend (r : Reading) (ts : List Token) : Reading :=
  match test? ts with
  | some c => ⟨r.frame.add c, r.outer, .after⟩
  | none => { r with place := .within ts }

/-- The state after one more token. -/
def step (r : Reading) (t : Token) : Option Reading :=
  match r.place, t with
  | .before, .not => some { r with frame := { r.frame with nots := r.frame.nots + 1 } }
  | .before, .leftParen => some ⟨{}, r.frame :: r.outer, .before⟩
  | .before, .member name => some { r with place := .within [.member name] }
  | .before, .constant c => some { r with place := .within [.constant c] }
  | .within ts, t => some (r.extend (ts ++ [t]))
  | .after, .and => some { r with place := .before }
  | .after, .or => r.frame.value?.map fun c ↦ ⟨{ disjuncts := some c }, r.outer, .before⟩
  | .after, .rightParen =>
    match r.outer, r.frame.value? with
    | f :: fs, some c => some ⟨f.add c, fs, .after⟩
    | _, _ => none
  | _, _ => none

/-- The state after some tokens. -/
def run (r : Reading) (ts : List Token) : Option Reading := ts.foldlM step r

theorem run_append (r : Reading) (s t : List Token) :
    r.run (s ++ t) = (r.run s).bind fun r ↦ r.run t := List.foldlM_append

theorem run_cons (r : Reading) (t : Token) (ts : List Token) :
    r.run (t :: ts) = (r.step t).bind fun r ↦ r.run ts := List.foldlM_cons

@[simp] theorem run_nil (r : Reading) : r.run [] = some r := rfl

end Reading

/-- The condition that the tokens stand for. -/
def read? (ts : List Token) : Option SearchCondition :=
  (Reading.run {} ts).bind fun r ↦
    if r.place = .after ∧ r.outer = [] then r.frame.value? else none

/-! ## The reader finds what the grammar derives -/

namespace Reading

variable {f : Frame} {fs : List Frame}

/-- Tokens that do not complete a test are gathered. -/
theorem run_within {ts us : List Token} (h : ∀ v, v <+: us → test? (ts ++ v) = none) :
    run ⟨f, fs, .within ts⟩ us = some ⟨f, fs, .within (ts ++ us)⟩ := by
  -- the gathered tokens grow at their end, so they are general in the induction
  induction us generalizing ts with
  | nil => rw [run_nil, List.append_nil]
  | cons u us ih =>
    have hu : test? (ts ++ [u]) = none := h [u] ⟨us, rfl⟩
    have hstep : step ⟨f, fs, .within ts⟩ u = some ⟨f, fs, .within (ts ++ [u])⟩ := by
      simp only [step, extend, hu]
    rw [run_cons, hstep, Option.bind_some, ih, List.append_assoc]
    · rfl
    · intro v hv
      rw [List.append_assoc]
      exact h _ (List.cons_prefix_cons.mpr ⟨rfl, hv⟩)

/-- A test on a list is not complete before its closing parenthesis. -/
theorem test?_list_eq_none (x : Operand) (negated : Bool) (items : List Operand) {v : List Token}
    (hv : v <+: Predicate.notIf negated ++ .inList :: .leftParen :: Operand.list items) :
    test? (x.token :: v) = none := by
  -- a beginning ends in the keywords, or within the list, which then lacks its parenthesis
  have hopen : ∀ {w}, w <+: .inList :: .leftParen :: Operand.list items →
      test? (x.token :: (Predicate.notIf negated ++ w)) = none := by
    intro w hw
    obtain rfl | ⟨w₁, rfl, hw₁⟩ := List.prefix_cons_iff.mp hw
    · cases negated <;> cases x <;> rfl
    obtain rfl | ⟨w₂, rfl, hw₂⟩ := List.prefix_cons_iff.mp hw₁
    · cases negated <;> cases x <;> rfl
    have hnone : items? w₂ = none :=
      items?_eq_none fun hm ↦ Operand.rightParen_notMem_list items (hw₂.subset hm)
    cases negated <;> cases x <;>
      simp [Predicate.notIf, Operand.token, test?, operand?, hnone]
  cases negated with
  | false => exact hopen hv
  | true =>
    obtain rfl | ⟨w, rfl, hw⟩ := List.prefix_cons_iff.mp hv
    · cases x <;> rfl
    · exact hopen hw

theorem run_test {ts : List Token} {c : SearchCondition} (h : Test ts c) :
    run ⟨f, fs, .before⟩ ts = some ⟨f.add c, fs, .after⟩ := by
  cases h with
  | compare op x y => cases x <;> cases y <;> rfl
  | like negated x y => cases negated <;> cases x <;> cases y <;> rfl
  | isNull negated x => cases negated <;> cases x <;> rfl
  | @inList negated x items hne =>
    have hbefore : ∀ us, run ⟨f, fs, .before⟩ (x.token :: us) =
        run ⟨f, fs, .within [x.token]⟩ us := by
      intro us
      cases x <;> rfl
    have hsplit : Predicate.notIf negated ++ .inList :: .leftParen ::
        (Operand.list items ++ [.rightParen]) =
        (Predicate.notIf negated ++ .inList :: .leftParen :: Operand.list items) ++
          [.rightParen] := by
      simp
    have hclose := test?_of_test (.inList negated x hne)
    rw [hsplit] at hclose ⊢
    rw [hbefore, run_append, run_within fun v hv ↦ test?_list_eq_none x negated items hv,
      Option.bind_some, run_cons]
    simp only [step, extend, List.cons_append, List.nil_append, hclose]
    rfl

/-- What the reader makes of a part of a condition: a factor is added to the innermost group, a
conjunction at the beginning of a disjunct becomes its factors, and a disjunction at the beginning
of a group becomes the value of the group. -/
def Follows (ts : List Token) (c : SearchCondition) : Rank → Prop
  | .factor => ∀ f fs, run ⟨f, fs, .before⟩ ts = some ⟨f.add c, fs, .after⟩
  | .conjunction => ∀ d fs, run ⟨⟨d, none, 0⟩, fs, .before⟩ ts = some ⟨⟨d, some c, 0⟩, fs, .after⟩
  | .disjunction => ∀ fs, ∃ f : Frame, f.value? = some c ∧
    run ⟨{}, fs, .before⟩ ts = some ⟨f, fs, .after⟩

/-- **The reader follows the grammar.** -/
theorem follows_of_reads {k : Rank} {ts : List Token} {c : SearchCondition} (h : Reads k ts c) :
    Follows ts c k := by
  induction h with
  | @or s t c e _ _ ihs iht =>
    intro fs
    -- behind `OR` the frame holds the disjunction so far and no factor
    obtain ⟨f, hf, hrun⟩ := ihs fs
    refine ⟨⟨some c, some e, 0⟩, rfl, ?_⟩
    rw [run_append, hrun, Option.bind_some, run_cons]
    simp only [step, hf, Option.map_some, Option.bind_some]
    exact iht (some c) fs
  | ofConjunction _ ih => exact fun fs ↦ ⟨⟨none, some _, 0⟩, rfl, ih none fs⟩
  | @and s t c e _ _ ihs iht =>
    intro d fs
    rw [run_append, ihs, Option.bind_some, run_cons]
    simp only [step, Option.bind_some]
    exact iht ⟨d, some c, 0⟩ fs
  | ofFactor _ ih => exact fun d fs ↦ ih ⟨d, none, 0⟩ fs
  | not _ ih =>
    intro f fs
    rw [run_cons]
    exact ih { f with nots := f.nots + 1 } fs
  | @group t c _ ih =>
    intro f fs
    -- the frame `f` waits among the outer ones until the group is closed
    obtain ⟨g, hg, hrun⟩ := ih (f :: fs)
    rw [run_cons]
    simp only [step, Option.bind_some]
    rw [run_append, hrun, Option.bind_some, run_cons]
    simp only [step, hg, Option.bind_some, run_nil]
  | test ht => exact fun f fs ↦ run_test ht

end Reading

theorem read?_of_reads {ts : List Token} {c : SearchCondition} (h : Reads .disjunction ts c) :
    read? ts = some c := by
  obtain ⟨f, hf, hrun⟩ := Reading.follows_of_reads h []
  rw [read?, hrun, Option.bind_some, if_pos ⟨rfl, rfl⟩, hf]

/-! ## The grammar derives what the reader finds

Conversely, at every moment the tokens read so far split into the parts that the frames stand
for. -/

/-- What stands in front of a joining keyword, if anything does. -/
inductive Joined (k : Rank) (joiner : Token) : Option SearchCondition → List Token → Prop
  | nothing : Joined k joiner none []
  | part {t : List Token} {c : SearchCondition} (h : Reads k t c) :
    Joined k joiner (some c) (t ++ [joiner])

namespace Frame

/-- The tokens are those of a frame in which a factor is to follow. -/
def Opened (f : Frame) (ts : List Token) : Prop :=
  ∃ u v, Joined .disjunction .or f.disjuncts u ∧ Joined .conjunction .and f.factors v ∧
    ts = u ++ v ++ List.replicate f.nots .not

/-- The tokens are those of a frame in which a factor was read last. -/
def Closed (f : Frame) (ts : List Token) : Prop :=
  ∃ u v c, Joined .disjunction .or f.disjuncts u ∧ f.factors = some c ∧
    Reads .conjunction v c ∧ f.nots = 0 ∧ ts = u ++ v

theorem opened_empty : ({} : Frame).Opened [] := ⟨[], [], .nothing, .nothing, rfl⟩

theorem reads_negate {t : List Token} {c : SearchCondition} (n : Nat) (h : Reads .factor t c) :
    Reads .factor (List.replicate n .not ++ t) (negate n c) := by
  induction n generalizing t c with
  | zero => exact h
  | succ n ih =>
    rw [List.replicate_succ', List.append_assoc]
    exact ih (.not h)

theorem closed_add {f : Frame} {ts t : List Token} {c : SearchCondition} (hf : f.Opened ts)
    (h : Reads .factor t c) : (f.add c).Closed (ts ++ t) := by
  obtain ⟨d, e, n⟩ := f
  obtain ⟨u, v, hu, hv, rfl⟩ := hf
  have hn := reads_negate n h
  rw [List.append_assoc, List.append_assoc]
  cases hv with
  | nothing => exact ⟨u, _, _, hu, rfl, .ofFactor hn, rfl, rfl⟩
  | part hv =>
    refine ⟨u, _, _, hu, rfl, .and hv hn, rfl, ?_⟩
    rw [List.append_assoc, List.singleton_append]

theorem reads_value {f : Frame} {ts : List Token} {c : SearchCondition} (hf : f.Closed ts)
    (h : f.value? = some c) : Reads .disjunction ts c := by
  obtain ⟨d, e, n⟩ := f
  obtain ⟨u, v, a, hu, hfactors, hv, -, rfl⟩ := hf
  obtain rfl : e = some a := hfactors
  cases hu with
  | nothing =>
    obtain rfl : a = c := Option.some.inj h
    exact .ofConjunction hv
  | part hu =>
    cases h
    rw [List.append_assoc, List.singleton_append]
    exact .or hu hv

end Frame

/-- The tokens are those in front of the innermost group. -/
inductive Enclosing : List Frame → List Token → Prop
  | nil : Enclosing [] []
  | cons {f : Frame} {fs : List Frame} {u w : List Token} (hfs : Enclosing fs u)
    (hf : f.Opened w) : Enclosing (f :: fs) (u ++ w ++ [.leftParen])

namespace Reading

/-- The tokens are those that the reader has gone through. -/
def Covers (r : Reading) (ts : List Token) : Prop :=
  ∃ u w, Enclosing r.outer u ∧
    match r.place with
    | .before => r.frame.Opened w ∧ ts = u ++ w
    | .within t => r.frame.Opened w ∧ ts = u ++ w ++ t
    | .after => r.frame.Closed w ∧ ts = u ++ w

theorem covers_extend {f : Frame} {fs : List Frame} {u w t : List Token} {p : Place}
    (hu : Enclosing fs u) (hw : f.Opened w) :
    (extend ⟨f, fs, p⟩ t).Covers (u ++ w ++ t) := by
  unfold extend
  split
  · next c hc =>
    refine ⟨u, w ++ t, hu, Frame.closed_add hw (.test (test_of_test? hc)), ?_⟩
    rw [List.append_assoc]
  · exact ⟨u, w, hu, hw, rfl⟩

theorem covers_step {r r' : Reading} {ts : List Token} {t : Token} (h : r.Covers ts)
    (hstep : r.step t = some r') : r'.Covers (ts ++ [t]) := by
  obtain ⟨f, fs, p⟩ := r
  obtain ⟨u, w, hu, hp⟩ := h
  cases p with
  | before =>
    obtain ⟨hw, rfl⟩ := hp
    cases t with
    | not =>
      cases hstep
      obtain ⟨x, y, hx, hy, rfl⟩ := hw
      refine ⟨u, _, hu, ⟨x, y, hx, hy, rfl⟩, ?_⟩
      rw [List.replicate_succ', List.append_assoc, List.append_assoc]
    | leftParen =>
      cases hstep
      exact ⟨_, [], .cons hu hw, Frame.opened_empty, by rw [List.append_nil]⟩
    | member name =>
      cases hstep
      exact ⟨u, w, hu, hw, rfl⟩
    | constant c =>
      cases hstep
      exact ⟨u, w, hu, hw, rfl⟩
    | _ => cases hstep
  | within v =>
    obtain ⟨hw, rfl⟩ := hp
    cases hstep
    rw [List.append_assoc (u ++ w)]
    exact covers_extend hu hw
  | after =>
    obtain ⟨hw, rfl⟩ := hp
    cases t with
    | and =>
      cases hstep
      obtain ⟨d, e, n⟩ := f
      obtain ⟨x, y, c, hx, hc, hy, hn, rfl⟩ := hw
      obtain rfl : e = some c := hc
      obtain rfl : n = 0 := hn
      refine ⟨u, x ++ (y ++ [.and]), hu, ⟨x, _, hx, .part hy, ?_⟩, ?_⟩
      · simp
      · simp
    | or =>
      obtain ⟨c, hc, rfl⟩ := Option.map_eq_some_iff.mp hstep
      refine ⟨u, w ++ [.or], hu, ⟨_, [], .part (Frame.reads_value hw hc), .nothing, ?_⟩, ?_⟩
      · simp
      · simp
    | rightParen =>
      cases hu with
      | nil => cases hstep
      | @cons g gs u' w' hgs hg =>
        cases hc : f.value? with
        | none => simp [step, hc] at hstep
        | some c =>
          simp only [step, hc, Option.some.injEq] at hstep
          subst hstep
          -- the closed group is a factor of the frame around it
          have hgroup := Frame.closed_add hg (.group (Frame.reads_value hw hc))
          refine ⟨u', _, hgs, hgroup, ?_⟩
          simp
    | _ => cases hstep

theorem covers_run {r r' : Reading} {ts us : List Token} (h : r.Covers ts)
    (hrun : r.run us = some r') : r'.Covers (ts ++ us) := by
  induction us generalizing r ts with
  | nil =>
    cases hrun
    rwa [List.append_nil]
  | cons t us ih =>
    rw [run_cons] at hrun
    obtain ⟨q, hq, hrun⟩ := Option.bind_eq_some_iff.mp hrun
    have hcovers := ih (covers_step h hq) hrun
    rwa [List.append_assoc, List.singleton_append] at hcovers

theorem covers_start : Covers {} [] := ⟨[], [], .nil, Frame.opened_empty, rfl⟩

end Reading

/-- **The reader gives a tree exactly if the grammar derives it.** -/
theorem read?_eq_some_iff {ts : List Token} {c : SearchCondition} :
    read? ts = some c ↔ Reads .disjunction ts c := by
  refine ⟨fun h ↦ ?_, read?_of_reads⟩
  obtain ⟨r, hrun, hr⟩ := Option.bind_eq_some_iff.mp h
  obtain ⟨f, fs, p⟩ := r
  by_cases hend : p = .after ∧ fs = []
  · rw [if_pos hend] at hr
    obtain ⟨rfl, rfl⟩ := hend
    obtain ⟨u, w, hu, hw, hts⟩ := Reading.covers_run Reading.covers_start hrun
    cases hu
    rw [List.nil_append, List.nil_append] at hts
    exact hts ▸ Frame.reads_value hw hr
  · rw [if_neg hend] at hr
    cases hr

/-- **The grammar is unambiguous.** -/
theorem Reads.unique {ts : List Token} {c e : SearchCondition} (hc : Reads .disjunction ts c)
    (he : Reads .disjunction ts e) : c = e :=
  Option.some.inj ((read?_of_reads hc).symm.trans (read?_of_reads he))

end SearchCondition

end QueryChain
