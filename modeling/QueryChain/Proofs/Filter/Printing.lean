import QueryChain.Proofs.Filter.Lexeme
import QueryChain.Proofs.Predicate.Built

/-!
# Printing filters

A predicate is printed in two steps. First it is worded: `Filter.predicate` says which predicate a
filter means, and there may be more than one filter for it. Then the filter is laid out as lexemes,
with parentheses only where the operators around them bind tighter: `OR` binds loosest, then `AND`,
then `NOT`, and both connectives group to the left.

Not every predicate can be printed. `Predicate.isFilter` says which ones can, and which ones more
there are if constants may be doubles. The builders behind `Filter.toPredicate` make of a filter
what it means if it passes their checks, and fail otherwise (`Filter.toPredicate_eq_ok`).
-/

namespace QueryChain

/-! ## The predicates of filter texts -/

/-- The constants that filter texts have. A 64-bit integer is one that does not fit 32 bits; doubles
belong to them if `doubles` is set. -/
def Value.isLiteral (doubles : Bool) : Value → Bool
  | null | bool _ | int32 _ | string _ => true
  | int64 n => !(Int32.minValue.toInt ≤ n.toInt ∧ n.toInt ≤ Int32.maxValue.toInt)
  | double _ => doubles
  | _ => false

/-- The constant has an order if the comparison needs one. -/
def Value.hasOrderFor (op : CompareOp) (v : Value) : Bool :=
  !op.isOrdering || v.isOrdered && !v.isNull

/-- The predicates that filter texts stand for. A boolean is not compared but tested for. -/
def Predicate.isFilter (doubles : Bool) : Predicate → Bool
  | not p => p.isFilter doubles
  | and l r | or l r => l.isFilter doubles && r.isFilter doubles
  | compare op (member m) (literal v) =>
    Filter.isIdentifier m && v.isLiteral doubles && v.asBool?.isNone && v.hasOrderFor op
  | like _ m _ => Filter.isIdentifier m
  | inSet m vs => Filter.isIdentifier m && !vs.isEmpty && vs.all (Value.isLiteral doubles)
  | boolEquals m b => Filter.isIdentifier m && b.isSome
  | _ => false

namespace Filter

/-! ## Wording -/

/-- What a test of a member means. -/
def Test.predicate (m : String) : Test → Predicate
  | compare .eq (.bool b) => .boolEquals m (some b)
  | compare .ne (.bool b) => .not (.boolEquals m (some b))
  | compare op v => .compare op (.member m) (.literal v)
  | isNull => .compare .eq (.member m) (.literal .null)
  | isNotNull => .compare .ne (.member m) (.literal .null)
  | isIn vs => .inSet m vs
  | isNotIn vs => .not (.inSet m vs)
  | matching kind s => .like kind m s

theorem Test.predicate_compare {m : String} {op : CompareOp} {v : Value} (h : v.asBool? = none) :
    (compare op v).predicate m = .compare op (.member m) (.literal v) := by
  cases v with
  | bool b => cases h
  | _ => cases op <;> rfl

/-- What a filter means. -/
def predicate : Filter → Predicate
  | test m t => t.predicate m
  | not f => .not f.predicate
  | and f g => .and f.predicate g.predicate
  | or f g => .or f.predicate g.predicate

/-- Every test of the filter is as it should be. -/
def everyTest (check : String → Test → Bool) : Filter → Bool
  | test m t => check m t
  | not f => f.everyTest check
  | and f g | or f g => f.everyTest check && g.everyTest check

/-- A set can be excluded by `NOT IN` unless the member itself is written like `NOT`: in
`NOT NOT IN (1)` the first word is the connective. `NOT` in front of the member is always clear. -/
def Test.isClear (m : String) : Test → Bool
  | isNotIn _ => Text.fold m != "not"
  | _ => true

/-! ## Lexemes -/

/-- Literals with commas between them. -/
def setLexemes : List Value → List Lexeme
  | [] => []
  | v :: vs => .literal v :: vs.flatMap fun v ↦ [.symbol ',', .literal v]

def Test.lexemes : Test → List Lexeme
  | compare op v => [.sign op, .literal v]
  | isNull => [.word .is, .word .null]
  | isNotNull => [.word .is, .word .not, .word .null]
  | isIn vs => .word .inSet :: .symbol '(' :: (setLexemes vs ++ [.symbol ')'])
  | isNotIn vs => .word .not :: .word .inSet :: .symbol '(' :: (setLexemes vs ++ [.symbol ')'])
  | matching kind s => [.matching kind, .literal (.string s)]

/-- Where a filter is printed. -/
inductive Place
  /-- On its own, between parentheses, or in front of `OR`. -/
  | whole
  /-- Behind `OR` or in front of `AND`. -/
  | disjunct
  /-- Behind `AND` or `NOT`. -/
  | operand
deriving DecidableEq

/-- The lexemes between parentheses. -/
def enclose (ts : List Lexeme) : List Lexeme := .symbol '(' :: (ts ++ [.symbol ')'])

/-- The lexemes of a filter, with parentheses where its place needs them. -/
def lexemes (place : Place) : Filter → List Lexeme
  | test m t => .name m :: t.lexemes
  | not f => .word .not :: f.lexemes .operand
  | and f g =>
    let ts := f.lexemes .disjunct ++ .word .and :: g.lexemes .operand
    if place = .operand then enclose ts else ts
  | or f g =>
    let ts := f.lexemes .whole ++ .word .or :: g.lexemes .disjunct
    if place = .whole then ts else enclose ts

end Filter

/-- The text is a print of the predicate: a wording of it, spelled with blanks between any two
lexemes. -/
def Predicate.Prints (p : Predicate) (text : String) : Prop :=
  ∃ (f : Filter) (is : List Filter.Item), f.predicate = p ∧ f.everyTest Filter.Test.isClear ∧
    Filter.Spell (f.lexemes .whole) is ∧ text.toList = Filter.ahead is

namespace Filter

/-! ## Building what was worded -/

/-- The constants of the test are literals, and its set is not empty. -/
def Test.hasLiterals (doubles : Bool) : Test → Bool
  | compare _ v => v.isLiteral doubles
  | isIn vs | isNotIn vs => !vs.isEmpty && vs.all (Value.isLiteral doubles)
  | _ => true

/-- The test compares by order only what has one. -/
def Test.isOrderly : Test → Bool
  | compare op v => v.hasOrderFor op
  | _ => true

/-- The test is one of a member whose name and constants can be written. -/
def Test.isLiteral (doubles : Bool) (m : String) (t : Test) : Bool :=
  isIdentifier m && t.hasLiterals doubles

variable {f : Filter} {p : Predicate} {m : String} {doubles : Bool}

theorem isFilter_predicate (f : Filter) :
    f.predicate.isFilter doubles =
      (f.everyTest (Test.isLiteral doubles) && f.everyTest fun _ t ↦ t.isOrderly) := by
  induction f with
  | test m t =>
    cases t with
    | compare op v => cases op <;> cases v <;>
        simp [predicate, Test.predicate, Predicate.isFilter, everyTest, Test.isLiteral,
          Test.hasLiterals, Test.isOrderly, Value.hasOrderFor, Value.isLiteral, Value.asBool?,
          CompareOp.isOrdering, Value.isOrdered, Value.isNull]
    | _ => simp [predicate, Test.predicate, Predicate.isFilter, everyTest, Test.isLiteral,
          Test.hasLiterals, Test.isOrderly, Value.hasOrderFor, Value.isLiteral, Value.asBool?,
          CompareOp.isOrdering, Bool.and_assoc]
  | not f ih => exact ih
  | and f g ihf ihg | or f g ihf ihg =>
    simp only [predicate, Predicate.isFilter, ihf, ihg, everyTest]
    ac_rfl

theorem allBlank_of_isIdentifier (h : isIdentifier m) : Text.allBlank m = false := by
  obtain ⟨c, r, hm, hc, -⟩ := exists_of_isIdentifier h
  rw [Text.allBlank, hm, List.all_cons,
    isBlank_of_continuesName (continuesName_of_continuesWord (continuesWord_of_startsName hc)),
    Bool.false_and]

section Builders

variable {op : CompareOp} {v : Value} {vs : List Value} (hm : Text.allBlank m = false)

include hm

theorem compareMember_eq_ok :
    Predicate.compareMember op m v = .ok p ↔ .compare op (.member m) (.literal v) = p := by
  rw [Predicate.compareMember, Predicate.bind_checkName_eq_ok]
  simp [hm, pure, Except.pure]

theorem compareOrdered_eq_ok {words : String} :
    Predicate.compareOrdered op words m v = .ok p ↔
      (v.isOrdered ∧ v.isNull = false) ∧ .compare op (.member m) (.literal v) = p := by
  rw [Predicate.compareOrdered, Predicate.bind_checkName_eq_ok]
  cases v.isOrdered <;> cases v.isNull <;>
    simp [hm, compareMember_eq_ok hm, bind, Except.bind, throw, throwThe, MonadExceptOf.throw]

theorem isBool_eq_ok {b : Option Bool} :
    Predicate.isBool m b = .ok p ↔ .boolEquals m b = p := by
  rw [Predicate.isBool, Predicate.bind_checkName_eq_ok]
  simp [hm, pure, Except.pure]

theorem isIn_eq_ok : Predicate.isIn m vs = .ok p ↔ vs.isEmpty = false ∧ .inSet m vs = p := by
  rw [Predicate.isIn, Predicate.bind_checkName_eq_ok]
  cases vs.isEmpty <;>
    simp [hm, bind, Except.bind, pure, Except.pure, throw, throwThe, MonadExceptOf.throw]

theorem equals_eq_ok : Predicate.equals m v = .ok p ↔ Test.predicate m (.compare .eq v) = p := by
  cases v with
  | bool b => exact isBool_eq_ok hm
  | _ => exact compareMember_eq_ok hm

theorem notEquals_eq_ok :
    Predicate.notEquals m v = .ok p ↔ Test.predicate m (.compare .ne v) = p := by
  cases v with
  | bool b =>
    have hbool := (isBool_eq_ok hm (b := some b)).mpr rfl
    simp [Predicate.notEquals, hbool, Test.predicate, bind, Except.bind, pure, Except.pure]
  | _ => exact compareMember_eq_ok hm

/-- A test of a member that is not blank is built unless it lacks an order, and then it is what the
test means. -/
theorem Test.toPredicate_eq_ok {t : Test} (ht : t.hasLiterals doubles) :
    t.toPredicate m = .ok p ↔ t.isOrderly ∧ t.predicate m = p := by
  cases t with
  | compare op v =>
    cases op with
    | eq => exact (equals_eq_ok hm).trans (and_iff_right rfl).symm
    | ne => exact (notEquals_eq_ok hm).trans (and_iff_right rfl).symm
    | gt | ge | lt | le =>
      refine (compareOrdered_eq_ok hm).trans (and_congr_left' ?_)
      simp [isOrderly, Value.hasOrderFor, CompareOp.isOrdering]
  | isNull => exact (equals_eq_ok (v := .null) hm).trans (and_iff_right rfl).symm
  | isNotNull => exact (notEquals_eq_ok (v := .null) hm).trans (and_iff_right rfl).symm
  | isIn vs =>
    rw [hasLiterals, Bool.and_eq_true, Bool.not_eq_true'] at ht
    exact (isIn_eq_ok hm).trans (and_congr_left' (by simp [isOrderly, ht.1]))
  | isNotIn vs =>
    rw [hasLiterals, Bool.and_eq_true, Bool.not_eq_true'] at ht
    have hset := (isIn_eq_ok hm).mpr ⟨ht.1, rfl⟩
    simp [toPredicate, Predicate.isNotIn, hset, isOrderly, predicate, bind, Except.bind, pure,
      Except.pure]
  | matching kind s =>
    rw [toPredicate, Predicate.matching, Predicate.bind_checkName_eq_ok]
    simp [hm, isOrderly, predicate, pure, Except.pure]

end Builders

/-- A filter over member names and literals is built unless a comparison lacks an order, and then it
is what the filter means. -/
theorem toPredicate_eq_ok (hf : f.everyTest (Test.isLiteral doubles)) :
    f.toPredicate = .ok p ↔ (f.everyTest fun _ t ↦ t.isOrderly) ∧ f.predicate = p := by
  induction f generalizing p with
  | test m t =>
    rw [everyTest, Test.isLiteral, Bool.and_eq_true] at hf
    exact Test.toPredicate_eq_ok (allBlank_of_isIdentifier hf.1) hf.2
  | not f ih =>
    rw [toPredicate, Except.bind_eq_ok]
    constructor
    · rintro ⟨q, hq, hp⟩
      obtain ⟨horder, rfl⟩ := (ih hf).mp hq
      exact ⟨horder, Except.ok.inj hp⟩
    · rintro ⟨horder, rfl⟩
      exact ⟨_, (ih hf).mpr ⟨horder, rfl⟩, rfl⟩
  | and f g ihf ihg | or f g ihf ihg =>
    rw [everyTest, Bool.and_eq_true] at hf
    rw [everyTest, Bool.and_eq_true, toPredicate, Except.bind_eq_ok]
    constructor
    · rintro ⟨q, hq, hp⟩
      obtain ⟨r, hr, hp⟩ := Except.bind_eq_ok.mp hp
      obtain ⟨hforder, rfl⟩ := (ihf hf.1).mp hq
      obtain ⟨hgorder, rfl⟩ := (ihg hf.2).mp hr
      exact ⟨⟨hforder, hgorder⟩, Except.ok.inj hp⟩
    · rintro ⟨⟨hforder, hgorder⟩, rfl⟩
      refine ⟨_, (ihf hf.1).mpr ⟨hforder, rfl⟩, Except.bind_eq_ok.mpr ?_⟩
      exact ⟨_, (ihg hf.2).mpr ⟨hgorder, rfl⟩, rfl⟩

/-! ## Every predicate of a filter text has a print -/

/-- The plainest wording. -/
theorem exists_predicate_eq (hp : p.isFilter doubles) :
    ∃ f : Filter, f.predicate = p ∧ f.everyTest Test.isClear := by
  induction p with
  | not p ih =>
    obtain ⟨f, rfl, hf⟩ := ih hp
    exact ⟨.not f, rfl, hf⟩
  | and l r ihl ihr =>
    rw [Predicate.isFilter, Bool.and_eq_true] at hp
    obtain ⟨f, rfl, hf⟩ := ihl hp.1
    obtain ⟨g, rfl, hg⟩ := ihr hp.2
    exact ⟨.and f g, rfl, by rw [everyTest, hf, hg]; rfl⟩
  | or l r ihl ihr =>
    rw [Predicate.isFilter, Bool.and_eq_true] at hp
    obtain ⟨f, rfl, hf⟩ := ihl hp.1
    obtain ⟨g, rfl, hg⟩ := ihr hp.2
    exact ⟨.or f g, rfl, by rw [everyTest, hf, hg]; rfl⟩
  | compare op l r =>
    cases l with
    | member m =>
      cases r with
      | literal v =>
        simp only [Predicate.isFilter, Bool.and_eq_true, Option.isNone_iff_eq_none] at hp
        exact ⟨.test m (.compare op v), Test.predicate_compare hp.1.2, rfl⟩
      | _ => cases hp
    | _ => cases hp
  | like kind m s => exact ⟨.test m (.matching kind s), rfl, rfl⟩
  | inSet m vs => exact ⟨.test m (.isIn vs), rfl, rfl⟩
  | boolEquals m b =>
    cases b with
    | none => simp [Predicate.isFilter] at hp
    | some b => exact ⟨.test m (.compare .eq (.bool b)), rfl, rfl⟩
  | _ => cases hp

theorem Keyword.spells_text (k : Keyword) : k.Spells k.text.toList := by
  cases k <;> rfl

theorem exists_spells_literal {v : Value} (h : v.isLiteral false) :
    ∃ w, (Lexeme.literal v).Spells w := by
  cases v with
  | null => exact ⟨_, Keyword.spells_text .null⟩
  | bool b => exact ⟨_, Keyword.spells_text (.ofBool b)⟩
  | int32 n => exact ⟨_, rfl⟩
  | int64 n =>
    rw [Value.isLiteral, Bool.not_eq_true', decide_eq_false_iff_not] at h
    exact ⟨_, h, rfl⟩
  | string s => exact ⟨_, rfl⟩
  | _ => cases h

/-- Every lexeme can be written down. -/
def AreSpellable (ts : List Lexeme) : Prop := ∀ t ∈ ts, ∃ w, t.Spells w

theorem areSpellable_cons {t : Lexeme} {ts : List Lexeme} :
    AreSpellable (t :: ts) ↔ (∃ w, t.Spells w) ∧ AreSpellable ts :=
  List.forall_mem_cons

theorem areSpellable_append {ts us : List Lexeme} :
    AreSpellable (ts ++ us) ↔ AreSpellable ts ∧ AreSpellable us :=
  List.forall_mem_append

theorem areSpellable_singleton {t : Lexeme} : AreSpellable [t] ↔ ∃ w, t.Spells w :=
  List.forall_mem_singleton

theorem exists_spells_word (k : Keyword) : ∃ w, (Lexeme.word k).Spells w :=
  ⟨_, Keyword.spells_text k⟩

theorem exists_spells_symbol {c : Char} (h : c ∈ ['(', ')', ',']) :
    ∃ w, (Lexeme.symbol c).Spells w :=
  ⟨_, h, rfl⟩

theorem areSpellable_enclose {ts : List Lexeme} (h : AreSpellable ts) :
    AreSpellable (enclose ts) := by
  rw [enclose, areSpellable_cons, areSpellable_append, areSpellable_singleton]
  exact ⟨exists_spells_symbol (by decide), h, exists_spells_symbol (by decide)⟩

theorem areSpellable_connected {k : Keyword} {ts us : List Lexeme} (ht : AreSpellable ts)
    (hu : AreSpellable us) : AreSpellable (ts ++ .word k :: us) :=
  areSpellable_append.mpr ⟨ht, areSpellable_cons.mpr ⟨exists_spells_word k, hu⟩⟩

theorem areSpellable_setLexemes {vs : List Value} (h : ∀ v ∈ vs, v.isLiteral false) :
    AreSpellable (setLexemes vs) := by
  cases vs with
  | nil => exact fun t ht ↦ absurd ht List.not_mem_nil
  | cons v vs =>
    rw [setLexemes, areSpellable_cons]
    refine ⟨exists_spells_literal (h v List.mem_cons_self), fun t ht ↦ ?_⟩
    obtain ⟨u, hu, ht⟩ := List.mem_flatMap.mp ht
    rcases List.mem_cons.mp ht with rfl | ht
    · exact exists_spells_symbol (by decide)
    · rw [List.mem_singleton.mp ht]
      exact exists_spells_literal (h u (List.mem_cons_of_mem v hu))

theorem Test.areSpellable {t : Test} (h : t.hasLiterals false) : AreSpellable t.lexemes := by
  cases t with
  | compare op v =>
    rw [lexemes, areSpellable_cons, areSpellable_singleton]
    refine ⟨?_, exists_spells_literal h⟩
    cases op <;> exact ⟨_, List.mem_cons_self⟩
  | isNull =>
    rw [lexemes, areSpellable_cons, areSpellable_singleton]
    exact ⟨exists_spells_word _, exists_spells_word _⟩
  | isNotNull =>
    rw [lexemes, areSpellable_cons, areSpellable_cons, areSpellable_singleton]
    exact ⟨exists_spells_word _, exists_spells_word _, exists_spells_word _⟩
  | isIn vs =>
    rw [hasLiterals, Bool.and_eq_true, List.all_eq_true] at h
    rw [lexemes, areSpellable_cons]
    exact ⟨exists_spells_word _, areSpellable_enclose (areSpellable_setLexemes h.2)⟩
  | isNotIn vs =>
    rw [hasLiterals, Bool.and_eq_true, List.all_eq_true] at h
    rw [lexemes, areSpellable_cons, areSpellable_cons]
    exact ⟨exists_spells_word _, exists_spells_word _,
      areSpellable_enclose (areSpellable_setLexemes h.2)⟩
  | matching kind s =>
    rw [lexemes, areSpellable_cons, areSpellable_singleton]
    exact ⟨⟨_, .inl (Keyword.spells_text _)⟩, _, rfl⟩

theorem areSpellable_lexemes (hf : f.everyTest (Test.isLiteral false)) (place : Place) :
    AreSpellable (f.lexemes place) := by
  induction f generalizing place with
  | test m t =>
    rw [everyTest, Test.isLiteral, Bool.and_eq_true] at hf
    rw [lexemes, areSpellable_cons]
    exact ⟨⟨_, hf.1, rfl⟩, Test.areSpellable hf.2⟩
  | not f ih =>
    rw [lexemes, areSpellable_cons]
    exact ⟨exists_spells_word _, ih hf _⟩
  | and f g ihf ihg =>
    rw [everyTest, Bool.and_eq_true] at hf
    have hboth := areSpellable_connected (k := .and) (ihf hf.1 .disjunct) (ihg hf.2 .operand)
    rw [lexemes]
    split
    · exact areSpellable_enclose hboth
    · exact hboth
  | or f g ihf ihg =>
    rw [everyTest, Bool.and_eq_true] at hf
    have hboth := areSpellable_connected (k := .or) (ihf hf.1 .whole) (ihg hf.2 .disjunct)
    rw [lexemes]
    split
    · exact hboth
    · exact areSpellable_enclose hboth

theorem exists_spell {ts : List Lexeme} (h : AreSpellable ts) : ∃ is, Spell ts is := by
  induction ts with
  | nil => exact ⟨[], .nil⟩
  | cons t ts ih =>
    obtain ⟨⟨w, hw⟩, hts⟩ := areSpellable_cons.mp h
    obtain ⟨is, his⟩ := ih hts
    exact ⟨.afterSpace w :: is, .cons hw his⟩

end Filter

theorem Predicate.exists_prints {p : Predicate} (hp : p.isFilter false) :
    ∃ text, p.Prints text := by
  obtain ⟨f, rfl, hclear⟩ := Filter.exists_predicate_eq hp
  rw [Filter.isFilter_predicate, Bool.and_eq_true] at hp
  obtain ⟨is, his⟩ := Filter.exists_spell (Filter.areSpellable_lexemes hp.1 .whole)
  exact ⟨String.ofList (Filter.ahead is), f, is, rfl, hclear, his, String.toList_ofList⟩

end QueryChain
