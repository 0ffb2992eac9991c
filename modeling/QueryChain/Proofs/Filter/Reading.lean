import QueryChain.Proofs.Filter.Position
import QueryChain.Proofs.Filter.Tests

/-!
# Reading prints of filters

The reader undoes the printer: on the lexemes of a filter, spelled in any way, it gives the filter
and stops behind the last of them. The argument goes along the grammar: from the operands of a
connective to its chain (`conjunction_ahead`, `disjunction_ahead`), and by the depth of the reader
from chains to operands (`unary_ahead`).

Every choice of the reader is decided by the first lexeme, with one exception: `NOT` may be the
connective or a member. The connective is tried first, and a print of a member `NOT` is saved by the
test behind it, of which the connective makes no operand (`unary_refuses_test`).
-/

namespace QueryChain.Filter

open Text

variable {i j : Item} {is js : List Item} {t : Lexeme} {k : Keyword} {m : String}

/-! ## Conditions -/

/-- A member name, when it is one. -/
theorem identifier_name (h : (Lexeme.name m).Spells i.word) :
    identifier (ahead (i :: is)) = .ok (m, behind is) := by
  obtain ⟨hm, hw⟩ := h
  obtain ⟨c, r, hcr, hc, hr⟩ := exists_of_isIdentifier hm
  rw [identifier_ahead (hw.trans hcr) hc hr, hw, String.ofList_toList]

theorem Test.exists_lexemes_cons (u : Test) : ∃ t ts, u.lexemes = t :: ts := by
  cases u <;> exact ⟨_, _, rfl⟩

theorem condition_ahead {u : Test} (h : Spell (.name m :: u.lexemes) is)
    (hu : u.hasMembers) (js : List Item) :
    condition (ahead (is ++ js)) = .ok (.test m u, behind js) := by
  obtain ⟨a, as, ha, has, rfl⟩ := spell_cons.mp h
  have htest := anyTest_ahead has hu js
  obtain ⟨t, ts, hts⟩ := u.exists_lexemes_cons
  rw [hts] at has
  obtain ⟨b, bs, hb, -, rfl⟩ := spell_cons.mp has
  refine (Reader.bind_apply_ok (identifier_name ha)).trans ?_
  refine (Reader.bind_apply_ok (spaces_behind hb)).trans ?_
  exact Reader.bind_apply_ok htest

theorem condition_refuses_word (hi : k.Spells i.word) (hj : t.Spells j.word)
    (h : anyTest.Refuses (ahead (j :: is))) : condition.Refuses (ahead (i :: j :: is)) :=
  .bind_of_ok (identifier_keyword hi) (.bind_of_ok (spaces_behind hj) (h.bind _))

theorem condition_refuses_head {c : Char} {s : List Char} (hc : ¬startsName c) :
    condition.Refuses (c :: s) := by
  have hname : identifier (c :: s) = .error (c :: s) := by rw [identifier_cons, if_neg hc]
  exact Reader.Refuses.bind ⟨_, hname⟩ _

/-! ## The member `NOT` -/

/-- Nothing that begins an operand is read. -/
structure RefusesOperand (s : List Char) : Prop where
  not : (keyword Keyword.not.text).Refuses s
  paren : (Reader.char '(').Refuses s
  condition : condition.Refuses s

theorem RefusesOperand.unary {s : List Char} (h : RefusesOperand s) (depth : Nat) :
    (unary depth).Refuses s := by
  cases depth with
  | zero => exact ⟨s, rfl⟩
  | succ depth =>
    exact (h.not.bind _).orElse_refuses ((h.paren.bind _).orElse_refuses h.condition)

theorem refusesOperand_sign {op : CompareOp} (h : (Lexeme.sign op).Spells i.word) :
    RefusesOperand (ahead (i :: is)) where
  not := keyword_refuses h (fun _ ↦ Lexeme.noConfusion) (Option.some_ne_none _).symm
  paren := by
    obtain ⟨c, r, hw, hc⟩ := exists_sign_cons h
    refine ⟨_, char_ahead_error hw ?_⟩
    rintro rfl
    revert hc
    decide
  condition := by
    obtain ⟨c, r, hw, hc⟩ := exists_sign_cons h
    rw [ahead, hw]
    refine condition_refuses_head fun hstarts ↦ ?_
    have hname := continuesName_of_continuesWord (continuesWord_of_startsName hstarts)
    rw [continuesName_of_mem_signs hc] at hname
    cases hname

theorem refusesOperand_tilde (h : i.word = ['~']) : RefusesOperand (ahead (i :: is)) where
  not := by
    refine ⟨_, keyword_ahead_error ?_⟩
    rw [h]
    exact Keyword.Spells.not_of_head (by decide)
  paren := ⟨_, char_ahead_error h (by decide)⟩
  condition := by
    rw [ahead, h]
    exact condition_refuses_head (by decide)

/-- A keyword could be a member, but not if no test follows. -/
theorem refusesOperand_word (hi : k.Spells i.word) (hk : k ≠ .not) (hj : t.Spells j.word)
    (h : anyTest.Refuses (ahead (j :: is))) : RefusesOperand (ahead (i :: j :: is)) where
  not := keyword_refuses (t := .word k) hi (fun _ ↦ Lexeme.noConfusion)
    fun he ↦ hk (Option.some.inj he)
  paren := char_keyword_refuses hi (by decide)
  condition := condition_refuses_word hi hj h

/-- A test is no operand: its first word might be a member, but then the rest is no test. The test
that excludes a set is left out, because `NOT IN (1)` is an operand. -/
theorem refusesOperand_test {u : Test} (h : Spell u.lexemes is) (hu : ∀ vs, u ≠ .isNotIn vs)
    (js : List Item) : RefusesOperand (ahead (is ++ js)) := by
  cases u with
  | compare op v =>
    obtain ⟨a, as, ha, -, rfl⟩ := spell_cons.mp h
    exact refusesOperand_sign ha
  | isNull =>
    obtain ⟨a, as, ha, has, rfl⟩ := spell_cons.mp h
    obtain ⟨b, hb, rfl⟩ := spell_singleton.mp has
    exact refusesOperand_word (k := .is) ha (by decide) hb (anyTest_refuses_null hb)
  | isNotNull =>
    obtain ⟨a, as, ha, has, rfl⟩ := spell_cons.mp h
    obtain ⟨b, bs, hb, hbs, rfl⟩ := spell_cons.mp has
    obtain ⟨c, hc, rfl⟩ := spell_singleton.mp hbs
    exact refusesOperand_word (k := .is) ha (by decide) hb (anyTest_refuses_notNull hb hc)
  | isIn vs =>
    obtain ⟨a, as, ha, has, rfl⟩ := spell_cons.mp h
    obtain ⟨b, bs, hb, -, rfl⟩ := spell_cons.mp has
    exact refusesOperand_word (k := .inSet) ha (by decide) hb (anyTest_refuses_leftParen hb)
  | isNotIn vs => exact absurd rfl (hu vs)
  | matching kind s =>
    obtain ⟨a, as, ha, has, rfl⟩ := spell_cons.mp h
    obtain ⟨b, hb, rfl⟩ := spell_singleton.mp has
    rcases ha with ha | ⟨-, ha⟩
    · exact refusesOperand_word ha (by cases kind <;> decide) hb (anyTest_refuses_string hb)
    · exact refusesOperand_tilde ha

/-- The rest of a member behind `NOT` is no operand. -/
theorem refusesOperand_point {s : List Char} : RefusesOperand ('.' :: s) where
  not := by
    refine ⟨_, keyword_of_not_spells ?_⟩
    exact Keyword.Spells.not_of_head (by decide)
  paren := by simp [Reader.Refuses, Reader.char]
  condition := condition_refuses_head (by decide)

/-- Behind a keyword at the beginning of a member name, the name is at its end or goes on with a
point. -/
theorem keyword_name (h : (Lexeme.name m).Spells i.word) (k : Keyword) (is : List Item) :
    (keyword k.text).Refuses (ahead (i :: is)) ∨
      k.Spells m.toList ∧ keyword k.text (ahead (i :: is)) = .ok ((), behind is) ∨
      ∃ s, keyword k.text (ahead (i :: is)) = .ok ((), '.' :: s) := by
  obtain ⟨hm, hw⟩ := h
  by_cases hk : k.Spells (i.word.takeWhile continuesWord)
  · refine .inr ?_
    have hread : keyword k.text (ahead (i :: is)) =
        .ok ((), i.word.dropWhile continuesWord ++ behind is) := by
      rw [ahead, keyword_of_spells (by rwa [takeWhile_append_behind fun _ ↦ continuesWord_of_isSpace]),
        dropWhile_append_behind fun _ ↦ continuesWord_of_isSpace]
    have hsplit := List.takeWhile_append_dropWhile (p := continuesWord) (l := i.word)
    rcases hr : i.word.dropWhile continuesWord with _ | ⟨c, r⟩
    · -- the whole name is the keyword
      rw [hr, List.append_nil] at hsplit
      rw [hr, List.nil_append] at hread
      exact .inl ⟨by rwa [← hw, ← hsplit], hread⟩
    · -- the name goes on, with a character of names that is none of words
      rw [hr, List.cons_append] at hread
      have hne : i.word.dropWhile continuesWord ≠ [] := by simp [hr]
      have hc : continuesWord c = false := by
        simpa [hr] using List.head_dropWhile_not continuesWord hne
      have hmem : c ∈ m.toList := by
        rw [← hw, ← hsplit, hr]
        exact List.mem_append_right _ List.mem_cons_self
      have hname := continuesName_of_mem hm c hmem
      rw [continuesName, Bool.or_eq_true] at hname
      rcases hname with hname | hname
      · exact absurd hname (Bool.eq_false_iff.mp hc)
      · rw [beq_iff_eq] at hname
        exact .inr ⟨_, hname ▸ hread⟩
  · exact .inl ⟨_, keyword_ahead_error hk⟩

theorem char_refuses_test {ts : List Lexeme} (h : Spell (.name m :: ts) is) (js : List Item) :
    (Reader.char '(').Refuses (ahead (is ++ js)) := by
  obtain ⟨a, as, ⟨hm, hw⟩, -, rfl⟩ := spell_cons.mp h
  obtain ⟨c, r, hcr, hc, -⟩ := exists_of_isIdentifier hm
  refine ⟨_, char_ahead_error (hw.trans hcr) ?_⟩
  rintro rfl
  revert hc
  decide

/-- The connective `NOT` makes nothing of a print that begins with a member. -/
theorem not_refuses_test {u : Test} (h : Spell (.name m :: u.lexemes) is) (hu : u.isClear m)
    (js : List Item) (depth : Nat) :
    (do keyword "not"; spaces; let f ← unary depth; pure (.not f) : Reader Filter).Refuses
      (ahead (is ++ js)) := by
  obtain ⟨a, as, ha, has, rfl⟩ := spell_cons.mp h
  rcases keyword_name ha .not (as ++ js) with hrefuses | ⟨hnot, hread⟩ | ⟨s, hread⟩
  · exact hrefuses.bind _
  · -- the member is called `NOT`, and its test is no operand
    have hset : ∀ vs, u ≠ .isNotIn vs := by
      rintro vs rfl
      have hfold : Text.fold m = "not" := by
        rw [Text.fold, hnot]
        rfl
      simp [Test.isClear, hfold] at hu
    have hoperand := refusesOperand_test has hset js
    obtain ⟨t, ts, hts⟩ := u.exists_lexemes_cons
    rw [hts] at has
    obtain ⟨b, bs, hb, -, rfl⟩ := spell_cons.mp has
    exact .bind_of_ok hread (.bind_of_ok (spaces_behind hb) ((hoperand.unary depth).bind _))
  · -- the member is called `NOT.` and something
    have hspaces : spaces ('.' :: s) = .ok ((), '.' :: s) := rfl
    exact .bind_of_ok hread (.bind_of_ok hspaces ((refusesOperand_point.unary depth).bind _))

/-! ## Chains -/

/-- A chain that goes on from its first operand. -/
def chainFrom (separator : Reader Unit) (combine : Filter → Filter → Filter) (p : Reader Filter)
    (f : Filter) (s : List Char) : Filter × List Char :=
  let rounds := Reader.rounds (do separator; p) s
  (rounds.1.foldl combine f, rounds.2)

section Chains

variable {separator : Reader Unit} {combine : Filter → Filter → Filter} {p : Reader Filter}
  {f g : Filter} {s r r' : List Char}

theorem chain_of_ok (h : p s = .ok (f, r)) :
    Reader.chain separator combine p s = .ok (chainFrom separator combine p f r) := by
  have hoperands : Reader.separated separator p s =
      .ok (f :: (Reader.rounds (do separator; p) r).1, (Reader.rounds (do separator; p) r).2) :=
    Reader.bind_apply_ok h
  exact Reader.bind_apply_ok hoperands

theorem chainFrom_of_ok (hseparator : separator s = .ok ((), r)) (h : p r = .ok (g, r'))
    (hlt : r'.length < s.length) :
    chainFrom separator combine p f s = chainFrom separator combine p (combine f g) r' := by
  have hround : (do separator; p : Reader Filter) s = .ok (g, r') :=
    (Reader.bind_apply_ok hseparator).trans h
  rw [chainFrom, Reader.rounds_of_ok hround hlt]
  rfl

theorem chainFrom_of_refuses (h : separator.Refuses s) :
    chainFrom separator combine p f s = (f, s) := by
  rw [chainFrom, Reader.rounds_of_refuses (h.bind _)]
  rfl

end Chains

theorem connective_behind (hi : k.Spells i.word) (hj : t.Spells j.word) :
    connective k.text (behind (i :: j :: is)) = .ok ((), ahead (j :: is)) := by
  refine (Reader.bind_apply_ok (spaces_behind (t := .word k) hi)).trans ?_
  exact (Reader.bind_apply_ok (keyword_ahead (k := k) hi)).trans (spaces_behind hj)

theorem connective_refuses (h : t.Spells i.word) (hname : ∀ m, t ≠ .name m)
    (hk : t.keyword? ≠ some k) : (connective k.text).Refuses (behind (i :: is)) :=
  .bind_of_ok (spaces_behind h) ((keyword_refuses h hname hk).bind _)

theorem connective_nil : (connective k.text).Refuses (behind []) := by
  have hspaces : spaces [] = .ok ((), []) := rfl
  exact .bind_of_ok hspaces (Reader.Refuses.bind ⟨_, keyword_nil⟩ _)

theorem length_behind_le (is js : List Item) :
    (behind js).length ≤ (behind (is ++ js)).length := by
  rw [behind_append, List.length_append]
  omega

theorem exists_lexemes_cons (place : Place) (f : Filter) :
    ∃ t ts, f.lexemes place = t :: ts := by
  induction f generalizing place with
  | test m u => exact ⟨_, _, rfl⟩
  | not f _ => exact ⟨_, _, rfl⟩
  | and f g ihf _ =>
    obtain ⟨t, ts, hts⟩ := ihf .disjunct
    rw [lexemes]
    split
    · exact ⟨_, _, rfl⟩
    · exact ⟨t, _, by rw [hts, List.cons_append]⟩
  | or f g ihf _ =>
    obtain ⟨t, ts, hts⟩ := ihf .whole
    rw [lexemes]
    split
    · exact ⟨t, _, by rw [hts, List.cons_append]⟩
    · exact ⟨_, _, rfl⟩

theorem exists_cons_of_spell {f : Filter} {place : Place} (h : Spell (f.lexemes place) is) :
    ∃ (t : Lexeme) (i : Item) (js : List Item), t.Spells i.word ∧ is = i :: js := by
  obtain ⟨t, ts, hts⟩ := exists_lexemes_cons place f
  rw [hts] at h
  obtain ⟨i, js, hi, -, rfl⟩ := spell_cons.mp h
  exact ⟨t, i, js, hi, rfl⟩

/-- The test can be read back. -/
def Test.isReadable (m : String) (u : Test) : Bool := u.isClear m && u.hasMembers

theorem everyTest_isReadable {f : Filter} {doubles : Bool} (hclear : f.everyTest Test.isClear)
    (hliteral : f.everyTest (Test.isLiteral doubles)) : f.everyTest Test.isReadable := by
  induction f with
  | test m u =>
    rw [everyTest, Test.isLiteral, Bool.and_eq_true] at hliteral
    refine Bool.and_eq_true_iff.mpr ⟨hclear, ?_⟩
    cases u with
    | isIn vs | isNotIn vs => exact (Bool.and_eq_true_iff.mp hliteral.2).1
    | _ => rfl
  | not f ih => exact ih hclear hliteral
  | and f g ihf ihg | or f g ihf ihg =>
    rw [everyTest, Bool.and_eq_true] at hclear hliteral ⊢
    exact ⟨ihf hclear.1 hliteral.1, ihg hclear.2 hliteral.2⟩

section Connectives

variable {p : Reader Filter} {n : Nat} {f g : Filter} {place : Place}

/-- The reader reads every operand of at most `n` lexemes back, whatever follows. -/
def ReadsOperands (p : Reader Filter) (n : Nat) : Prop :=
  ∀ f : Filter, f.everyTest Test.isReadable → (f.lexemes .operand).length ≤ n →
    ∀ is js, Spell (f.lexemes .operand) is → p (ahead (is ++ js)) = .ok (f, behind js)

/-- One more operand of a chain. -/
theorem chain_ahead_step {combine : Filter → Filter → Filter} {as cs : List Item} {b : Item}
    (hf : Reader.chain (connective k.text) combine p (ahead (as ++ b :: (cs ++ js))) =
      .ok (chainFrom (connective k.text) combine p f (behind (b :: (cs ++ js)))))
    (hb : k.Spells b.word) (hcs : Spell (g.lexemes place) cs)
    (hg : p (ahead (cs ++ js)) = .ok (g, behind js)) :
    Reader.chain (connective k.text) combine p (ahead (as ++ b :: (cs ++ js))) =
      .ok (chainFrom (connective k.text) combine p (combine f g) (behind js)) := by
  obtain ⟨t, c, cs, hc, rfl⟩ := exists_cons_of_spell hcs
  have hlt := (length_behind_le (c :: cs) js).trans_lt (length_behind_lt (i := b))
  exact hf.trans (congrArg Except.ok (chainFrom_of_ok (connective_behind hb hc) hg hlt))

/-- A disjunct, as a chain of operands. -/
theorem conjunction_ahead (hp : ReadsOperands p n) (hf : f.everyTest Test.isReadable)
    (hn : (f.lexemes .disjunct).length ≤ n) (h : Spell (f.lexemes .disjunct) is)
    (js : List Item) :
    Reader.chain (connective Keyword.and.text) .and p (ahead (is ++ js)) =
      .ok (chainFrom (connective Keyword.and.text) .and p f (behind js)) := by
  induction f generalizing is js with
  | and f g ihf _ =>
    rw [everyTest, Bool.and_eq_true] at hf
    have hlexemes : (Filter.and f g).lexemes .disjunct =
      f.lexemes .disjunct ++ .word .and :: g.lexemes .operand := rfl
    rw [hlexemes, spell_append] at h
    rw [hlexemes, List.length_append, List.length_cons] at hn
    obtain ⟨as, bs, has, hbs, rfl⟩ := h
    obtain ⟨b, cs, hb, hcs, rfl⟩ := spell_cons.mp hbs
    rw [List.append_assoc, List.cons_append]
    exact chain_ahead_step (ihf hf.1 (by omega) has _) hb hcs
      (hp g hf.2 (by omega) cs js hcs)
  | _ => exact chain_of_ok (hp _ hf hn is js h)

/-- A disjunct ends where no `AND` follows. -/
theorem disjunct_ahead (hp : ReadsOperands p n) (hf : f.everyTest Test.isReadable)
    (hn : (f.lexemes .disjunct).length ≤ n) (h : Spell (f.lexemes .disjunct) is)
    (hjs : (connective Keyword.and.text).Refuses (behind js)) :
    Reader.chain (connective Keyword.and.text) .and p (ahead (is ++ js)) =
      .ok (f, behind js) := by
  rw [conjunction_ahead hp hf hn h js, chainFrom_of_refuses hjs]

theorem disjunction_eq (p : Reader Filter) :
    disjunction p = Reader.chain (connective Keyword.or.text) .or
      (Reader.chain (connective Keyword.and.text) .and p) :=
  rfl

theorem disjunction_chain_ahead (hp : ReadsOperands p n) (hf : f.everyTest Test.isReadable)
    (hn : (f.lexemes .whole).length ≤ n) (h : Spell (f.lexemes .whole) is)
    (hjs : (connective Keyword.and.text).Refuses (behind js)) :
    disjunction p (ahead (is ++ js)) =
      .ok (chainFrom (connective Keyword.or.text) .or
        (Reader.chain (connective Keyword.and.text) .and p) f (behind js)) := by
  rw [disjunction_eq]
  induction f generalizing is js with
  | or f g ihf _ =>
    rw [everyTest, Bool.and_eq_true] at hf
    have hlexemes : (Filter.or f g).lexemes .whole =
      f.lexemes .whole ++ .word .or :: g.lexemes .disjunct := rfl
    rw [hlexemes, spell_append] at h
    rw [hlexemes, List.length_append, List.length_cons] at hn
    obtain ⟨as, bs, has, hbs, rfl⟩ := h
    obtain ⟨b, cs, hb, hcs, rfl⟩ := spell_cons.mp hbs
    have hand : (connective Keyword.and.text).Refuses (behind (b :: (cs ++ js))) :=
      connective_refuses hb (fun _ ↦ Lexeme.noConfusion) (by decide)
    rw [List.append_assoc, List.cons_append]
    exact chain_ahead_step (ihf hf.1 (by omega) has hand) hb hcs
      (disjunct_ahead hp hf.2 (by omega) hcs hjs)
  | _ => exact chain_of_ok (disjunct_ahead hp hf hn h hjs)

/-- A whole filter ends where no connective follows. -/
theorem disjunction_ahead (hp : ReadsOperands p n) (hf : f.everyTest Test.isReadable)
    (hn : (f.lexemes .whole).length ≤ n) (h : Spell (f.lexemes .whole) is)
    (hand : (connective Keyword.and.text).Refuses (behind js))
    (hor : (connective Keyword.or.text).Refuses (behind js)) :
    disjunction p (ahead (is ++ js)) = .ok (f, behind js) := by
  rw [disjunction_chain_ahead hp hf hn h hand, chainFrom_of_refuses hor]

/-! ## Operands -/

/-- A filter between parentheses. -/
theorem enclosed_ahead (hp : ReadsOperands (unary n) n) (hf : f.everyTest Test.isReadable)
    (hn : (f.lexemes .whole).length ≤ n) (h : Spell (enclose (f.lexemes .whole)) is)
    (js : List Item) : unary (n + 1) (ahead (is ++ js)) = .ok (f, behind js) := by
  obtain ⟨a, as, ha, has, rfl⟩ := spell_cons.mp h
  obtain ⟨bs, cs, hbs, hcs, rfl⟩ := spell_append.mp has
  obtain ⟨c, hc, rfl⟩ := spell_singleton.mp hcs
  have hclose {k : Keyword} : (connective k.text).Refuses (behind (c :: js)) :=
    connective_refuses hc (fun _ ↦ Lexeme.noConfusion) (Option.some_ne_none k).symm
  have hbody := disjunction_ahead hp hf hn hbs hclose hclose
  have hnot : (keyword Keyword.not.text).Refuses (ahead (a :: (bs ++ c :: js))) :=
    keyword_refuses ha (fun _ ↦ Lexeme.noConfusion) (Option.some_ne_none _).symm
  obtain ⟨t, b, bs, hb, rfl⟩ := exists_cons_of_spell hbs
  rw [List.cons_append, List.append_assoc, List.singleton_append]
  refine (hnot.bind _).orElse.trans (Reader.orElse_of_ok ?_)
  refine (Reader.bind_apply_ok (char_ahead ha.2)).trans ?_
  refine (Reader.bind_apply_ok (spaces_behind hb)).trans ?_
  refine (Reader.bind_apply_ok hbody).trans ?_
  refine (Reader.bind_apply_ok (spaces_behind hc)).trans ?_
  exact Reader.bind_apply_ok (char_ahead hc.2)

theorem lexemes_operand_and (f g : Filter) :
    (Filter.and f g).lexemes .operand = enclose ((Filter.and f g).lexemes .whole) :=
  rfl

theorem lexemes_operand_or (f g : Filter) :
    (Filter.or f g).lexemes .operand = enclose ((Filter.or f g).lexemes .whole) :=
  rfl

theorem length_le_of_enclose {ts : List Lexeme} (h : (enclose ts).length ≤ n + 1) :
    ts.length ≤ n := by
  rw [enclose, List.length_cons, List.length_append] at h
  omega

/-- An operand is read back by a reader that is deep enough. -/
theorem unary_ahead (n : Nat) : ReadsOperands (unary n) n := by
  induction n with
  | zero =>
    -- every filter has a lexeme
    intro f _ hn
    obtain ⟨t, ts, hts⟩ := exists_lexemes_cons .operand f
    rw [hts] at hn
    cases hn
  | succ n ih =>
    intro f hf hn is js h
    cases f with
    | test m u =>
      -- neither the connective nor a parenthesis, so the last choice is left
      rw [everyTest, Test.isReadable, Bool.and_eq_true] at hf
      have hparen := char_refuses_test h js
      refine (not_refuses_test h hf.1 js n).orElse.trans ?_
      refine (hparen.bind _).orElse.trans ?_
      exact condition_ahead h hf.2 js
    | not g =>
      obtain ⟨a, as, ha, has, rfl⟩ := spell_cons.mp h
      have hg := ih g hf (Nat.le_of_succ_le_succ hn) as js has
      obtain ⟨t, b, bs, hb, rfl⟩ := exists_cons_of_spell has
      refine Reader.orElse_of_ok ?_
      refine (Reader.bind_apply_ok (keyword_ahead (k := .not) ha)).trans ?_
      refine (Reader.bind_apply_ok (spaces_behind hb)).trans ?_
      exact Reader.bind_apply_ok hg
    | and f g =>
      rw [lexemes_operand_and] at hn h
      exact enclosed_ahead ih hf (length_le_of_enclose hn) h js
    | or f g =>
      rw [lexemes_operand_or] at hn h
      exact enclosed_ahead ih hf (length_le_of_enclose hn) h js

end Connectives

/-! ## Whole texts -/

theorem length_le_length_behind (is : List Item) : is.length ≤ (behind is).length := by
  induction is with
  | nil => rfl
  | cons i is ih => exact Nat.succ_le_of_lt (ih.trans_lt length_behind_lt)

/-- A text has no fewer characters than lexemes. -/
theorem length_le_length_ahead {ts : List Lexeme} (h : Spell ts is) :
    ts.length ≤ (ahead is).length := by
  cases h with
  | nil => rfl
  | @cons t i ts is hi h =>
    obtain ⟨c, r, hw⟩ := exists_word_cons hi
    have hle := length_le_length_behind is
    rw [ahead, hw, List.length_append, List.length_cons, List.length_cons, h.length_eq]
    omega

theorem exists_behind_append {ts : List Lexeme} (h : Spell (t :: ts) is) :
    ∃ r c, behind is = r ++ [c] ∧ isBlank c = false := by
  induction ts generalizing t is with
  | nil =>
    obtain ⟨i, hi, rfl⟩ := spell_singleton.mp h
    obtain ⟨-, c, r, hw, hc⟩ := hi.isEdged
    exact ⟨i.gap ++ r, c, by simp [behind, hw], hc⟩
  | cons u ts ih =>
    obtain ⟨i, is, -, his, rfl⟩ := spell_cons.mp h
    obtain ⟨r, c, hr, hc⟩ := ih his
    exact ⟨i.gap ++ (i.word ++ r), c, by rw [behind_cons, ahead, hr]; simp, hc⟩

theorem isEdged_ahead {ts : List Lexeme} (h : Spell (t :: ts) is) : IsEdged (ahead is) := by
  obtain ⟨i, is, hi, his, rfl⟩ := spell_cons.mp h
  obtain ⟨⟨c, r, hw, hc⟩, d, u, hu, hd⟩ := hi.isEdged
  refine ⟨⟨c, r ++ behind is, by rw [ahead, hw]; rfl, hc⟩, ?_⟩
  cases ts with
  | nil =>
    rw [spell_nil] at his
    exact ⟨d, u, by rw [ahead, his, hu]; simp, hd⟩
  | cons v ts =>
    obtain ⟨w, e, hw, he⟩ := exists_behind_append his
    exact ⟨e, i.word ++ w, by rw [ahead, hw]; simp, he⟩

theorem trim_of_isEdged {s : List Char} (h : IsEdged s) : trim s = s := by
  have htrim := trim_append_append h [] []
  rwa [List.append_nil, List.nil_append, List.dropWhile_nil, List.nil_append, trimEnd,
    List.reverse_nil, List.dropWhile_nil, List.reverse_nil, List.append_nil] at htrim

/-- The text of a filter is read back. -/
theorem ofText_ahead {f : Filter} {text : String} (hf : f.everyTest Test.isReadable)
    (h : Spell (f.lexemes .whole) is) (htext : text.toList = ahead is) :
    ofText text = .ok f := by
  -- the reader is as deep as the text is long, and no filter nests deeper
  have hfilter : filter (ahead is) = .ok (f, []) := by
    have hlength := length_le_length_ahead h
    have hread : disjunction (unary ((ahead is).length + 1)) (ahead (is ++ [])) =
        .ok (f, behind []) :=
      disjunction_ahead (unary_ahead _) hf (by omega) h connective_nil connective_nil
    rwa [List.append_nil] at hread
  obtain ⟨t, ts, hts⟩ := exists_lexemes_cons .whole f
  have hedged := isEdged_ahead (hts ▸ h)
  have hne : ahead is ≠ [] := by
    obtain ⟨⟨c, r, hcr, -⟩, -⟩ := hedged
    simp [hcr]
  rw [ofText, htext, trim_of_isEdged hedged, if_neg hne, hfilter]

end QueryChain.Filter
