import QueryChain.Proofs.Filter.Reading

/-!
# What filter texts stand for

Prints of predicates are read back as the predicates (`ofText_prints`), and nothing else comes out
of a filter text but such predicates and those with doubles for constants. For the second part each
reader is given an invariant of what it yields, and the invariants are composed as the readers are.
-/

namespace QueryChain

/-! ## Invariants of readers -/

namespace Text.Reader

variable {α β : Type} {p q : Reader α} {P : α → Prop} {Q : β → Prop}

/-- All that the reader gives has the property. -/
def Yields (p : Reader α) (P : α → Prop) : Prop := ∀ s a r, p s = .ok (a, r) → P a

namespace Yields

theorem any : p.Yields fun _ ↦ True := fun _ _ _ _ ↦ trivial

theorem pure {a : α} (h : P a) : Yields (Pure.pure a) P := by
  intro s b r hb
  cases hb
  exact h

theorem bind {f : α → Reader β} (hp : p.Yields P) (hf : ∀ a, P a → (f a).Yields Q) :
    (p >>= f).Yields Q := by
  intro s b r h
  obtain ⟨a, r', ha, hb⟩ := bind_eq_ok h
  exact hf a (hp s a r' ha) r' b r hb

theorem orElse (hp : p.Yields P) (hq : q.Yields P) : (p <|> q).Yields P := by
  intro s a r h
  exact (orElse_eq_ok h).elim (hp s a r) (hq s a r)

theorem mem_rounds (hp : p.Yields P) (s : List Char) : ∀ a ∈ (rounds p s).1, P a := by
  induction s using rounds.induct p with
  | case1 s e he =>
    rw [rounds_of_refuses ⟨e, he⟩]
    exact fun a ha ↦ absurd ha List.not_mem_nil
  | case2 s a r hs hlt _ _ _ ih =>
    rw [rounds_of_ok hs hlt]
    exact List.forall_mem_cons.mpr ⟨hp s a r hs, ih⟩
  | case3 s a r hs hlt =>
    rw [rounds_of_idle hs hlt]
    exact List.forall_mem_singleton.mpr (hp s a r hs)

theorem many (hp : p.Yields P) : (Reader.many p).Yields fun as ↦ ∀ a ∈ as, P a := by
  intro s as r h
  have has : (rounds p s).1 = as := congrArg Prod.fst (Except.ok.inj h)
  exact has ▸ mem_rounds hp s

theorem separated {separator : Reader Unit} (hp : p.Yields P) :
    (Reader.separated separator p).Yields fun as ↦ as ≠ [] ∧ ∀ a ∈ as, P a := by
  refine bind hp fun a ha ↦ bind (many (bind any fun _ _ ↦ hp)) fun as has ↦ pure ?_
  exact ⟨List.cons_ne_nil a as, List.forall_mem_cons.mpr ⟨ha, has⟩⟩

theorem chain {separator : Reader Unit} {combine : α → α → α} (hp : p.Yields P)
    (hcombine : ∀ a b, P a → P b → P (combine a b)) :
    (Reader.chain separator combine p).Yields P := by
  refine bind (separated hp) fun as has ↦ ?_
  cases as with
  | nil => exact absurd rfl has.1
  | cons a as =>
    obtain ⟨ha, has⟩ := List.forall_mem_cons.mp has.2
    exact pure (List.foldlRecOn as combine ha fun b hb c hc ↦ hcombine b c hb (has c hc))

end Yields

end Text.Reader

namespace Filter

open Text Reader

/-! ## What the readers yield -/

theorem identifier_yields : identifier.Yields fun m ↦ isIdentifier m := by
  intro s m r h
  rcases s with _ | ⟨c, s⟩
  · cases h
  · rw [identifier_cons] at h
    split at h
    · next hc =>
      cases h
      rw [isIdentifier, String.toList_ofList]
      exact Bool.and_eq_true_iff.mpr
        ⟨hc, List.all_eq_true.mpr fun d hd ↦ List.mem_takeWhile_imp hd⟩
    · cases h

theorem isLiteral_of_ofInt? {n : Int} {v : Value} (h : Value.ofInt? n = some v) :
    v.isLiteral true := by
  rw [Value.ofInt?] at h
  split at h
  · cases h
    rw [Value.ofInt64]
    split
    · rfl
    · next hrange =>
      rw [Value.isLiteral, Bool.not_eq_true', decide_eq_false_iff_not]
      exact hrange
  · cases h

theorem number_yields : number.Yields fun v ↦ v.isLiteral true := by
  intro s v r h
  have hread := h ▸ numberRead s
  cases hread with
  | integer hs hsign hne hds hv => exact isLiteral_of_ofInt? hv
  | double => rfl

theorem literal_yields : literal.Yields fun v ↦ v.isLiteral true :=
  .orElse (.bind .any fun _ _ ↦ .pure rfl) <| .orElse (.bind .any fun _ _ ↦ .pure rfl) <|
    .orElse (.bind .any fun _ _ ↦ .pure rfl) <| .orElse (.bind .any fun _ _ ↦ .pure rfl)
    number_yields

theorem anyTest_yields : anyTest.Yields fun u ↦ u.hasLiterals true := by
  have hset (b : Bool) : (setBody fun vs ↦ if b then .isNotIn vs else .isIn vs).Yields
      fun u ↦ u.hasLiterals true := by
    refine .bind .any fun _ _ ↦ .bind .any fun _ _ ↦ .bind .any fun _ _ ↦ .bind .any fun _ _ ↦ ?_
    refine .bind (.separated literal_yields) fun vs ⟨hne, hvs⟩ ↦ ?_
    refine .bind .any fun _ _ ↦ .bind .any fun _ _ ↦ .pure ?_
    have hliterals : (!vs.isEmpty && vs.all (Value.isLiteral true)) = true := by
      simpa [hne] using hvs
    cases b <;> exact hliterals
  refine .orElse ?_ (.orElse (.bind .any fun b _ ↦ hset b) (.orElse ?_ ?_))
  · refine .bind .any fun _ _ ↦ .bind .any fun _ _ ↦ .bind .any fun b _ ↦ ?_
    exact .bind .any fun _ _ ↦ .pure (by cases b <;> rfl)
  · exact .bind .any fun _ _ ↦ .bind .any fun _ _ ↦ .bind .any fun _ _ ↦ .pure rfl
  · exact .bind .any fun _ _ ↦ .bind .any fun _ _ ↦ .bind literal_yields fun _ hv ↦ .pure hv

/-- The filters that are read: tests of names with literals. -/
def IsRead (f : Filter) : Prop := f.everyTest (Test.isLiteral true)

theorem isRead_and {f g : Filter} (hf : f.IsRead) (hg : g.IsRead) : (and f g).IsRead :=
  Bool.and_eq_true_iff.mpr ⟨hf, hg⟩

theorem isRead_or {f g : Filter} (hf : f.IsRead) (hg : g.IsRead) : (or f g).IsRead :=
  Bool.and_eq_true_iff.mpr ⟨hf, hg⟩

theorem condition_yields : condition.Yields IsRead :=
  .bind identifier_yields fun _ hm ↦ .bind .any fun _ _ ↦ .bind anyTest_yields fun _ hu ↦
    .pure (Bool.and_eq_true_iff.mpr ⟨hm, hu⟩)

theorem disjunction_yields {p : Reader Filter} (hp : p.Yields IsRead) :
    (disjunction p).Yields IsRead :=
  .chain (.chain hp fun _ _ ↦ isRead_and) fun _ _ ↦ isRead_or

theorem unary_yields (depth : Nat) : (unary depth).Yields IsRead := by
  induction depth with
  | zero =>
    intro s f r h
    cases h
  | succ depth ih =>
    refine .orElse ?_ (.orElse ?_ condition_yields)
    · exact .bind .any fun _ _ ↦ .bind .any fun _ _ ↦ .bind ih fun _ hf ↦ .pure hf
    · refine .bind .any fun _ _ ↦ .bind .any fun _ _ ↦ ?_
      refine .bind (disjunction_yields ih) fun _ hf ↦ ?_
      exact .bind .any fun _ _ ↦ .bind .any fun _ _ ↦ .pure hf

theorem isRead_of_ofText {text : String} {f : Filter} (h : ofText text = .ok f) : f.IsRead := by
  rw [ofText] at h
  split at h
  · cases h
  · split at h
    · next g hg =>
      cases h
      exact disjunction_yields (unary_yields _) _ _ _ hg
    · cases h
    · cases h

end Filter

/-! ## Texts and predicates -/

namespace Predicate

theorem isFilter_of_ofText {text : String} {p : Predicate} (h : ofText text = .ok p) :
    p.isFilter true := by
  obtain ⟨f, hf, hp⟩ := Except.bind_eq_ok.mp h
  have hread := Filter.isRead_of_ofText hf
  obtain ⟨horder, rfl⟩ := (Filter.toPredicate_eq_ok hread).mp hp
  rw [Filter.isFilter_predicate, Bool.and_eq_true]
  exact ⟨hread, horder⟩

theorem ofText_of_prints {text : String} {p : Predicate} (hp : p.isFilter false)
    (h : p.Prints text) : ofText text = .ok p := by
  obtain ⟨f, is, rfl, hclear, his, htext⟩ := h
  rw [Filter.isFilter_predicate, Bool.and_eq_true] at hp
  have hread := Filter.ofText_ahead (Filter.everyTest_isReadable hclear hp.1) his htext
  refine Except.bind_eq_ok.mpr ⟨f, hread, ?_⟩
  exact (Filter.toPredicate_eq_ok hp.1).mpr ⟨hp.2, rfl⟩

/-- Every predicate over names and literals has a print, and each of its prints is read back as the
predicate. What is read from a text is such a predicate, except that its constants may be doubles
too. -/
theorem ofText_prints :
    (∀ p : Predicate, p.isFilter false →
      (∃ text, p.Prints text) ∧ ∀ text, p.Prints text → ofText text = .ok p) ∧
    ∀ text p, ofText text = .ok p → p.isFilter true :=
  ⟨fun _ hp ↦ ⟨exists_prints hp, fun _ h ↦ ofText_of_prints hp h⟩,
    fun _ _ h ↦ isFilter_of_ofText h⟩

/-- The second `NOT` is a member, and the quote in the string is written twice. -/
theorem ofText_prints_not :
    let p : Predicate := .or (.not (.inSet "NOT" [.string "it's", .bool true]))
      (.compare .ne (.member "b.c") (.literal .null))
    let text := "not NOT In ( 'it\x27\x27s' , TRUE ) OR b.c Is NOT null"
    p.isFilter false ∧ p.Prints text ∧ ofText text = .ok p ∧ p.isFilter true := by
  intro p text
  let f : Filter := .or (.not (.test "NOT" (.isIn [.string "it's", .bool true])))
    (.test "b.c" .isNotNull)
  let is : List Filter.Item := ["not", "NOT", "In", "(", "'it\x27\x27s'", ",", "TRUE", ")", "OR", "b.c",
    "Is", "NOT", "null"].map fun w ↦ .afterSpace w.toList
  have hspell : Filter.Spell (f.lexemes .whole) is := by
    repeat' constructor
  have hp : p.isFilter false := by decide +kernel
  have hprints : p.Prints text := ⟨f, is, rfl, by decide +kernel, hspell, by decide +kernel⟩
  have hread := (ofText_prints.1 p hp).2 text hprints
  exact ⟨hp, hprints, hread, ofText_prints.2 text p hread⟩

end Predicate

end QueryChain
