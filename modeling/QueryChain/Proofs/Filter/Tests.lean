import QueryChain.Proofs.Filter.Tokens

/-!
# Reading tests

The test of a member is read back from its lexemes (`anyTest_ahead`). Every choice is decided by the
first lexeme of the test, or by the second one behind `NOT`.

A test is also looked at from its inside: what follows its first lexeme is no test
(`anyTest_refuses`, `anyTest_refuses_notNull`). This matters where a member is called `NOT`, and its
test might be taken for an operand of the connective.
-/

namespace QueryChain.Filter

open Text

variable {i j : Item} {is js : List Item} {t : Lexeme} {k : Keyword}

/-- The test behind a member. -/
def anyTest : Reader Test := nullTest <|> setTest <|> matchTest <|> comparison

/-! ## Null -/

theorem negation?_not (hi : Keyword.not.Spells i.word) (hj : t.Spells j.word) :
    negation? (ahead (i :: j :: is)) = .ok (true, ahead (j :: is)) := by
  have hread : (do keyword "not"; spaces1 : Reader Unit) (ahead (i :: j :: is)) =
      .ok ((), ahead (j :: is)) :=
    (Reader.bind_apply_ok (keyword_ahead hi)).trans (spaces1_behind hj)
  rw [negation?, Reader.bind_apply, Reader.optional, hread]
  rfl

theorem negation?_other {s : List Char} (h : (keyword Keyword.not.text).Refuses s) :
    negation? s = .ok (false, s) := by
  obtain ⟨e, he⟩ := h.bind fun _ ↦ spaces1
  have hread : (do keyword "not"; spaces1 : Reader Unit) s = .error e := he
  rw [negation?, Reader.bind_apply, Reader.optional, hread]
  rfl

theorem nullTest_isNull (hi : Keyword.is.Spells i.word) (hj : Keyword.null.Spells j.word) :
    nullTest (ahead (i :: j :: js)) = .ok (.isNull, behind js) := by
  have hnot : (keyword Keyword.not.text).Refuses (ahead (j :: js)) :=
    keyword_refuses (t := .word .null) hj (fun _ ↦ Lexeme.noConfusion) (by decide)
  refine (Reader.bind_apply_ok (keyword_ahead hi)).trans ?_
  refine (Reader.bind_apply_ok (spaces1_behind (t := .word .null) hj)).trans ?_
  refine (Reader.bind_apply_ok (negation?_other hnot)).trans ?_
  exact Reader.bind_apply_ok (keyword_ahead (k := .null) hj)

theorem nullTest_isNotNull {l : Item} (hi : Keyword.is.Spells i.word)
    (hj : Keyword.not.Spells j.word) (hl : Keyword.null.Spells l.word) :
    nullTest (ahead (i :: j :: l :: js)) = .ok (.isNotNull, behind js) := by
  refine (Reader.bind_apply_ok (keyword_ahead hi)).trans ?_
  refine (Reader.bind_apply_ok (spaces1_behind (t := .word .not) hj)).trans ?_
  refine (Reader.bind_apply_ok (negation?_not (t := .word .null) hj hl)).trans ?_
  exact Reader.bind_apply_ok (keyword_ahead (k := .null) hl)

theorem nullTest_refuses (h : (keyword Keyword.is.text).Refuses (ahead is)) :
    nullTest.Refuses (ahead is) :=
  h.bind _

/-! ## Sets -/

theorem comma_ahead (hi : (Lexeme.symbol ',').Spells i.word) (hj : t.Spells j.word) :
    comma (behind (i :: j :: is)) = .ok ((), ahead (j :: is)) := by
  refine (Reader.bind_apply_ok (spaces_behind hi)).trans ?_
  refine (Reader.bind_apply_ok (char_ahead hi.2)).trans ?_
  exact spaces_behind hj

theorem comma_refuses (hi : (Lexeme.symbol ')').Spells i.word) :
    comma.Refuses (behind (i :: is)) := by
  refine Reader.Refuses.bind_of_ok (spaces_behind hi) (Reader.Refuses.bind ?_ _)
  exact ⟨_, char_ahead_error hi.2 (by decide)⟩

/-- The values behind the first one, up to the closing parenthesis. -/
theorem rounds_comma {vs : List Value}
    (h : Spell (vs.flatMap fun v ↦ [.symbol ',', .literal v]) is)
    (hj : (Lexeme.symbol ')').Spells j.word) :
    Reader.rounds (do comma; literal) (behind (is ++ j :: js)) = (vs, behind (j :: js)) := by
  induction vs generalizing is with
  | nil =>
    rw [List.flatMap_nil, spell_nil] at h
    rw [h, List.nil_append]
    exact Reader.rounds_of_refuses ((comma_refuses hj).bind _)
  | cons v vs ih =>
    rw [List.flatMap_cons, List.cons_append, List.singleton_append] at h
    obtain ⟨a, as, ha, has, rfl⟩ := spell_cons.mp h
    obtain ⟨b, bs, hb, hbs, rfl⟩ := spell_cons.mp has
    have hround : (do comma; literal : Reader Value) (behind (a :: b :: (bs ++ j :: js))) =
        .ok (v, behind (bs ++ j :: js)) :=
      (Reader.bind_apply_ok (comma_ahead ha hb)).trans (literal_ahead hb)
    rw [List.cons_append, List.cons_append,
      Reader.rounds_of_ok hround (length_behind_lt.trans length_behind_lt), ih hbs]

theorem separated_ahead {v : Value} {vs : List Value} (h : Spell (setLexemes (v :: vs)) is)
    (hj : (Lexeme.symbol ')').Spells j.word) (js : List Item) :
    Reader.separated comma literal (ahead (is ++ j :: js)) = .ok (v :: vs, behind (j :: js)) := by
  obtain ⟨a, as, ha, has, rfl⟩ := spell_cons.mp h
  have hmany : Reader.many (do comma; literal) (behind (as ++ j :: js)) =
      .ok (vs, behind (j :: js)) :=
    congrArg Except.ok (rounds_comma has hj)
  refine (Reader.bind_apply_ok (literal_ahead ha)).trans ?_
  exact Reader.bind_apply_ok hmany

/-- A set behind `IN`; `f` makes a test of it. -/
def setBody (f : List Value → Test) : Reader Test := do
  keyword "in"
  spaces
  Reader.char '('
  spaces
  let values ← Reader.separated comma literal
  spaces
  Reader.char ')'
  pure (f values)

theorem setBody_ahead {vs : List Value} (f : List Value → Test)
    (h : Spell (.word .inSet :: enclose (setLexemes vs)) is) (hvs : vs ≠ []) (js : List Item) :
    setBody f (ahead (is ++ js)) = .ok (f vs, behind js) := by
  obtain ⟨v, vs, rfl⟩ := List.exists_cons_of_ne_nil hvs
  obtain ⟨a, as, ha, has, rfl⟩ := spell_cons.mp h
  obtain ⟨b, bs, hb, hbs, rfl⟩ := spell_cons.mp has
  obtain ⟨cs, ds, hcs, hds, rfl⟩ := spell_append.mp hbs
  obtain ⟨d, hd, rfl⟩ := spell_singleton.mp hds
  have hseparated := separated_ahead hcs hd js
  obtain ⟨c, cs', hc, -, rfl⟩ := spell_cons.mp hcs
  have hlist : a :: b :: (c :: cs' ++ [d]) ++ js = a :: b :: (c :: cs' ++ d :: js) := by simp
  rw [hlist]
  refine (Reader.bind_apply_ok (keyword_ahead (k := .inSet) ha)).trans ?_
  refine (Reader.bind_apply_ok (spaces_behind hb)).trans ?_
  refine (Reader.bind_apply_ok (char_ahead hb.2)).trans ?_
  refine (Reader.bind_apply_ok (spaces_behind hc)).trans ?_
  refine (Reader.bind_apply_ok hseparated).trans ?_
  refine (Reader.bind_apply_ok (spaces_behind hd)).trans ?_
  exact Reader.bind_apply_ok (char_ahead hd.2)

theorem setTest_of_negation? {s r : List Char} {b : Bool} (h : negation? s = .ok (b, r)) :
    setTest s = setBody (fun vs ↦ if b then .isNotIn vs else .isIn vs) r :=
  Reader.bind_apply_ok h

theorem setBody_refuses {f : List Value → Test} {s : List Char}
    (h : (keyword Keyword.inSet.text).Refuses s) : (setBody f).Refuses s :=
  h.bind _

theorem setTest_isIn {vs : List Value} (h : Spell (Test.isIn vs).lexemes is) (hvs : vs ≠ [])
    (js : List Item) : setTest (ahead (is ++ js)) = .ok (.isIn vs, behind js) := by
  obtain ⟨a, as, ha, -, rfl⟩ := spell_cons.mp h
  have hnot : (keyword Keyword.not.text).Refuses (ahead (a :: as ++ js)) :=
    keyword_refuses ha (fun _ ↦ Lexeme.noConfusion) (by decide)
  exact (setTest_of_negation? (negation?_other hnot)).trans (setBody_ahead _ h hvs js)

theorem setTest_isNotIn {vs : List Value} (h : Spell (Test.isNotIn vs).lexemes is)
    (hvs : vs ≠ []) (js : List Item) :
    setTest (ahead (is ++ js)) = .ok (.isNotIn vs, behind js) := by
  obtain ⟨a, as, ha, has, rfl⟩ := spell_cons.mp h
  have hbody := setBody_ahead (fun vs ↦ if true then Test.isNotIn vs else .isIn vs) has hvs js
  obtain ⟨b, bs, hb, -, rfl⟩ := spell_cons.mp has
  exact (setTest_of_negation? (negation?_not ha hb)).trans hbody

/-! ## Matching -/

theorem exists_word_cons (h : t.Spells i.word) : ∃ c r, i.word = c :: r := by
  obtain ⟨c, r, hw, -⟩ := h.isEdged.1
  exact ⟨c, r, hw⟩

/-- A keyword begins with no sign. -/
theorem char_keyword_refuses {c : Char} (h : k.Spells i.word) (hc : continuesWord c = false) :
    (Reader.char c).Refuses (ahead (i :: is)) := by
  obtain ⟨d, r, hw⟩ := exists_word_cons (t := .word k) h
  refine ⟨_, char_ahead_error hw ?_⟩
  rintro rfl
  have := h.continuesWord d (hw ▸ List.mem_cons_self)
  rw [hc] at this
  cases this

theorem matchWord_ahead {kind : StringMatch} (h : (Lexeme.matching kind).Spells i.word) :
    matchWord (ahead (i :: is)) = .ok (kind, behind is) := by
  have hother {k : Keyword} (hk : Keyword.ofMatch kind ≠ k) :
      (keyword k.text).Refuses (ahead (i :: is)) :=
    keyword_refuses h (fun _ ↦ Lexeme.noConfusion) fun he ↦ hk (Option.some.inj he)
  have htilde (hword : (Keyword.ofMatch kind).Spells i.word) :
      (Reader.char '~').Refuses (ahead (i :: is)) := char_keyword_refuses hword (by decide)
  rcases h with h | ⟨rfl, h⟩
  · cases kind with
    | contains =>
      exact Reader.orElse_of_ok (Reader.bind_apply_ok (keyword_ahead (k := .contains) h))
    | startsWith =>
      refine ((hother (k := .contains) (by decide)).bind _).orElse.trans ?_
      refine ((htilde h).bind _).orElse.trans ?_
      exact Reader.orElse_of_ok (Reader.bind_apply_ok (keyword_ahead (k := .startsWith) h))
    | endsWith =>
      refine ((hother (k := .contains) (by decide)).bind _).orElse.trans ?_
      refine ((htilde h).bind _).orElse.trans ?_
      refine ((hother (k := .startsWith) (by decide)).bind _).orElse.trans ?_
      exact Reader.bind_apply_ok (keyword_ahead (k := .endsWith) h)
  · have hcontains : (keyword Keyword.contains.text).Refuses (ahead (i :: is)) := by
      refine ⟨_, keyword_ahead_error ?_⟩
      rw [h]
      exact Keyword.Spells.not_of_head (by decide)
    refine (hcontains.bind _).orElse.trans ?_
    exact Reader.orElse_of_ok (Reader.bind_apply_ok (char_ahead h))

theorem matchTest_ahead {kind : StringMatch} {s : String}
    (hi : (Lexeme.matching kind).Spells i.word)
    (hj : (Lexeme.literal (.string s)).Spells j.word) :
    matchTest (ahead (i :: j :: js)) = .ok (.matching kind s, behind js) := by
  refine (Reader.bind_apply_ok (matchWord_ahead hi)).trans ?_
  refine (Reader.bind_apply_ok (spaces_behind hj)).trans ?_
  exact Reader.bind_apply_ok (quotedString_ahead hj)

/-! ## Signs -/

/-- The longer signs are tried first, and no blank makes a sign longer. -/
theorem sign_ahead {op : CompareOp} (h : (Lexeme.sign op).Spells i.word) :
    sign (ahead (i :: is)) = .ok (op, behind is) := by
  have hsigns : i.word ∈ signs op := h
  have hend := behind_eq is
  rw [ahead]
  generalize i.word = w at hsigns
  generalize behind is = s at hend
  -- `>` and `<` are the beginnings of longer signs, which need another character behind them
  have hshort (c : Char) (hc : c = '>' ∨ c = '<') :
      sign (c :: s) = .ok (if c = '>' then .gt else .lt, s) := by
    rcases hend with rfl | ⟨d, r, rfl, hd⟩
    · rcases hc with rfl | rfl <;> rfl
    · simp only [isSpace, Bool.or_eq_true, beq_iff_eq] at hd
      rcases hc with rfl | rfl <;> rcases hd with ((rfl | rfl) | rfl) | rfl <;> rfl
  cases op <;> simp only [signs, List.mem_cons, List.not_mem_nil, or_false] at hsigns
  case ne => rcases hsigns with rfl | rfl <;> rfl
  case gt => exact hsigns ▸ hshort '>' (.inl rfl)
  case lt => exact hsigns ▸ hshort '<' (.inr rfl)
  all_goals
    subst hsigns
    rfl

theorem literal_refuses {c d : Char} (h : c ≠ d) (t s : List Char) :
    (Reader.literal (c :: t)).Refuses (d :: s) := by
  refine ⟨_, if_neg ?_⟩
  simp [List.isPrefixOf, h]

/-- No sign goes on a name. -/
theorem continuesName_of_mem_signs {c : Char} (h : c ∈ ['>', '<', '!', '=']) :
    continuesName c = false := by
  simp only [List.mem_cons, List.not_mem_nil, or_false] at h
  rcases h with rfl | rfl | rfl | rfl <;> decide

theorem sign_refuses {c : Char} (h : c ∉ ['>', '<', '!', '=']) (s : List Char) :
    sign.Refuses (c :: s) := by
  simp only [List.mem_cons, List.not_mem_nil, or_false, not_or] at h
  obtain ⟨hgt, hlt, hne, heq⟩ := h
  have hsign {d : Char} (hd : c ≠ d) (t : List Char) (op : CompareOp) :
      (do Reader.literal (d :: t); pure op : Reader CompareOp).Refuses (c :: s) :=
    (literal_refuses hd.symm t s).bind _
  exact (hsign hgt _ _).orElse_refuses <| (hsign hlt _ _).orElse_refuses <|
    (hsign hlt _ _).orElse_refuses <| (hsign hne _ _).orElse_refuses <|
    (hsign heq _ _).orElse_refuses <| (hsign hgt _ _).orElse_refuses (hsign hlt _ _)

theorem sign_refuses_of_head {c : Char} {r : List Char} (hw : i.word = c :: r)
    (hc : c ∉ ['>', '<', '!', '=']) : sign.Refuses (ahead (i :: is)) := by
  rw [ahead, hw]
  exact sign_refuses hc _

theorem sign_keyword_refuses (h : k.Spells i.word) : sign.Refuses (ahead (i :: is)) := by
  obtain ⟨c, r, hw⟩ := exists_word_cons (t := .word k) h
  have hc := h.continuesWord c (hw ▸ List.mem_cons_self)
  refine sign_refuses_of_head hw fun hmem ↦ ?_
  have hname := continuesName_of_continuesWord hc
  rw [continuesName_of_mem_signs hmem] at hname
  cases hname

theorem comparison_ahead {op : CompareOp} {v : Value} (hi : (Lexeme.sign op).Spells i.word)
    (hj : (Lexeme.literal v).Spells j.word) :
    comparison (ahead (i :: j :: js)) = .ok (.compare op v, behind js) := by
  refine (Reader.bind_apply_ok (sign_ahead hi)).trans ?_
  refine (Reader.bind_apply_ok (spaces_behind hj)).trans ?_
  exact Reader.bind_apply_ok (literal_ahead hj)

/-! ## Any test -/

theorem setTest_refuses {s : List Char} (hnot : (keyword Keyword.not.text).Refuses s)
    (hin : (keyword Keyword.inSet.text).Refuses s) : setTest.Refuses s := by
  obtain ⟨e, he⟩ := setBody_refuses hin
  exact ⟨e, (setTest_of_negation? (negation?_other hnot)).trans he⟩

theorem matchTest_refuses {s : List Char} (hcontains : (keyword Keyword.contains.text).Refuses s)
    (htilde : (Reader.char '~').Refuses s) (hstarts : (keyword Keyword.startsWith.text).Refuses s)
    (hends : (keyword Keyword.endsWith.text).Refuses s) : matchTest.Refuses s :=
  Reader.Refuses.bind ((hcontains.bind _).orElse_refuses <| (htilde.bind _).orElse_refuses <|
    (hstarts.bind _).orElse_refuses (hends.bind _)) _

theorem exists_sign_cons {op : CompareOp} (h : (Lexeme.sign op).Spells i.word) :
    ∃ c r, i.word = c :: r ∧ c ∈ ['>', '<', '!', '='] := by
  have hall : ∀ w ∈ signs op, ∃ c r, w = c :: r ∧ c ∈ ['>', '<', '!', '='] := by
    cases op <;> simp [signs]
  exact hall i.word h

/-- The set of the test is not empty. -/
def Test.hasMembers : Test → Bool
  | isIn vs | isNotIn vs => !vs.isEmpty
  | _ => true

/-- A test is read back, whatever follows. -/
theorem anyTest_ahead {u : Test} (h : Spell u.lexemes is) (hu : u.hasMembers) (js : List Item) :
    anyTest (ahead (is ++ js)) = .ok (u, behind js) := by
  cases u with
  | compare op v =>
    obtain ⟨a, as, ha, has, rfl⟩ := spell_cons.mp h
    obtain ⟨b, hb, rfl⟩ := spell_singleton.mp has
    have hother (k : Keyword) : (keyword k.text).Refuses (ahead (a :: b :: js)) :=
      keyword_refuses ha (fun _ ↦ Lexeme.noConfusion) (Option.some_ne_none k).symm
    have htilde : (Reader.char '~').Refuses (ahead (a :: b :: js)) := by
      obtain ⟨c, r, hw, hc⟩ := exists_sign_cons ha
      refine ⟨_, char_ahead_error hw ?_⟩
      rintro rfl
      revert hc
      decide
    refine (nullTest_refuses (hother .is)).orElse.trans ?_
    refine (setTest_refuses (hother .not) (hother .inSet)).orElse.trans ?_
    refine (matchTest_refuses (hother .contains) htilde (hother .startsWith)
      (hother .endsWith)).orElse.trans ?_
    exact comparison_ahead ha hb
  | isNull =>
    obtain ⟨a, as, ha, has, rfl⟩ := spell_cons.mp h
    obtain ⟨b, hb, rfl⟩ := spell_singleton.mp has
    exact Reader.orElse_of_ok (nullTest_isNull ha hb)
  | isNotNull =>
    obtain ⟨a, as, ha, has, rfl⟩ := spell_cons.mp h
    obtain ⟨b, bs, hb, hbs, rfl⟩ := spell_cons.mp has
    obtain ⟨c, hc, rfl⟩ := spell_singleton.mp hbs
    exact Reader.orElse_of_ok (nullTest_isNotNull ha hb hc)
  | isIn vs =>
    have hset := setTest_isIn h (by simpa [Test.hasMembers] using hu) js
    obtain ⟨a, as, ha, -, rfl⟩ := spell_cons.mp h
    have his : (keyword Keyword.is.text).Refuses (ahead (a :: (as ++ js))) :=
      keyword_refuses ha (fun _ ↦ Lexeme.noConfusion) (by decide)
    exact (nullTest_refuses his).orElse.trans (Reader.orElse_of_ok hset)
  | isNotIn vs =>
    have hset := setTest_isNotIn h (by simpa [Test.hasMembers] using hu) js
    obtain ⟨a, as, ha, -, rfl⟩ := spell_cons.mp h
    have his : (keyword Keyword.is.text).Refuses (ahead (a :: (as ++ js))) :=
      keyword_refuses ha (fun _ ↦ Lexeme.noConfusion) (by decide)
    exact (nullTest_refuses his).orElse.trans (Reader.orElse_of_ok hset)
  | matching kind s =>
    obtain ⟨a, as, ha, has, rfl⟩ := spell_cons.mp h
    obtain ⟨b, hb, rfl⟩ := spell_singleton.mp has
    have hother {k : Keyword} (hk : Keyword.ofMatch kind ≠ k) :
        (keyword k.text).Refuses (ahead (a :: b :: js)) :=
      keyword_refuses ha (fun _ ↦ Lexeme.noConfusion) fun he ↦ hk (Option.some.inj he)
    have his : (keyword Keyword.is.text).Refuses (ahead (a :: b :: js)) :=
      hother (by cases kind <;> decide)
    have hnot : (keyword Keyword.not.text).Refuses (ahead (a :: b :: js)) :=
      hother (by cases kind <;> decide)
    have hin : (keyword Keyword.inSet.text).Refuses (ahead (a :: b :: js)) :=
      hother (by cases kind <;> decide)
    refine (nullTest_refuses his).orElse.trans ?_
    refine (setTest_refuses hnot hin).orElse.trans ?_
    exact Reader.orElse_of_ok (matchTest_ahead ha hb)

/-! ## No test -/

/-- No test begins with what is neither a sign nor a keyword of tests. -/
theorem anyTest_refuses (h : t.Spells i.word) (hname : ∀ m, t ≠ .name m)
    (hk : t.keyword? = none ∨ t.keyword? = some .null)
    (htilde : (Reader.char '~').Refuses (ahead (i :: is)))
    (hsign : sign.Refuses (ahead (i :: is))) : anyTest.Refuses (ahead (i :: is)) := by
  have hother {k : Keyword} (hne : k ≠ .null) : (keyword k.text).Refuses (ahead (i :: is)) :=
    keyword_refuses h hname (by rcases hk with hk | hk <;> simp [hk, hne.symm])
  exact (nullTest_refuses (hother (by decide))).orElse_refuses <|
    (setTest_refuses (hother (by decide)) (hother (by decide))).orElse_refuses <|
    (matchTest_refuses (hother (by decide)) htilde (hother (by decide))
      (hother (by decide))).orElse_refuses (hsign.bind _)

theorem anyTest_refuses_null (h : Keyword.null.Spells i.word) :
    anyTest.Refuses (ahead (i :: is)) :=
  anyTest_refuses (t := .word .null) h (fun _ ↦ Lexeme.noConfusion) (.inr rfl)
    (char_keyword_refuses h (by decide)) (sign_keyword_refuses h)

theorem anyTest_refuses_string {s : String} (h : (Lexeme.literal (.string s)).Spells i.word) :
    anyTest.Refuses (ahead (i :: is)) :=
  anyTest_refuses h (fun _ ↦ Lexeme.noConfusion) (.inl rfl) ⟨_, char_ahead_error h (by decide)⟩
    (sign_refuses_of_head h (by decide))

theorem anyTest_refuses_leftParen (h : (Lexeme.symbol '(').Spells i.word) :
    anyTest.Refuses (ahead (i :: is)) :=
  anyTest_refuses h (fun _ ↦ Lexeme.noConfusion) (.inl rfl) ⟨_, char_ahead_error h.2 (by decide)⟩
    (sign_refuses_of_head h.2 (by decide))

/-- `NOT` could begin a test, but `NOT NULL` is none. -/
theorem anyTest_refuses_notNull (hi : Keyword.not.Spells i.word)
    (hj : Keyword.null.Spells j.word) : anyTest.Refuses (ahead (i :: j :: is)) := by
  have hother {k : Keyword} (hne : Keyword.not ≠ k) :
      (keyword k.text).Refuses (ahead (i :: j :: is)) :=
    keyword_refuses (t := .word .not) hi (fun _ ↦ Lexeme.noConfusion)
      fun he ↦ hne (Option.some.inj he)
  -- `NOT` is read as the negation of a set, and the set is missing
  have hset : setTest.Refuses (ahead (i :: j :: is)) := by
    have hin : (keyword Keyword.inSet.text).Refuses (ahead (j :: is)) :=
      keyword_refuses (t := .word .null) hj (fun _ ↦ Lexeme.noConfusion) (by decide)
    obtain ⟨e, he⟩ := setBody_refuses hin
    exact ⟨e, (setTest_of_negation? (negation?_not (t := .word .null) hi hj)).trans he⟩
  exact (nullTest_refuses (hother (by decide))).orElse_refuses <| hset.orElse_refuses <|
    (matchTest_refuses (hother (by decide)) (char_keyword_refuses hi (by decide))
      (hother (by decide)) (hother (by decide))).orElse_refuses ((sign_keyword_refuses hi).bind _)

end QueryChain.Filter
