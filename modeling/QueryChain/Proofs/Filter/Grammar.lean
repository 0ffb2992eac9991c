import QueryChain.Proofs.Filter.Tokens

/-!
# Properties along the grammar

Some properties of readers are kept by every way of putting readers together. Such a property holds
of the reader of filters as soon as it holds of the readers of tokens, and to see this one goes
through the grammar once, for all of them: `Filter.HoldsOfTokens.disjunction_unary`.
-/

namespace QueryChain

/-! ## Readers put together -/

namespace Text.Reader

variable {α : Type} {p : Reader α}

/-- What holds of the texts before and behind each round holds of those before and behind them all,
if it is a preorder. -/
theorem rounds_related {R : List Char → List Char → Prop} (hrefl : ∀ s, R s s)
    (htrans : ∀ {s r t}, R s r → R r t → R s t) (hp : ∀ s a r, p s = .ok (a, r) → R s r)
    (s : List Char) : R s (rounds p s).2 := by
  induction s using rounds.induct p with
  | case1 s e he =>
    rw [rounds_of_refuses ⟨e, he⟩]
    exact hrefl s
  | case2 s a r hs hlt _ _ _ ih =>
    rw [rounds_of_ok hs hlt]
    exact htrans (hp s a r hs) ih
  | case3 s a r hs hlt =>
    rw [rounds_of_idle hs hlt]
    exact hp s a r hs

/-- The property is kept by every way of putting readers together. -/
structure IsKept (P : {α : Type} → Reader α → Prop) : Prop where
  pure : ∀ {α : Type} (a : α), P (Pure.pure a : Reader α)
  fail : ∀ {α : Type}, P (Reader.fail : Reader α)
  bind : ∀ {α β : Type} {p : Reader α} {f : α → Reader β},
    P p → (∀ a, P (f a)) → P (p >>= f)
  orElse : ∀ {α : Type} {p q : Reader α}, P p → P q → P (p <|> q)
  optional : ∀ {α : Type} {p : Reader α}, P p → P (Reader.optional p)
  many : ∀ {α : Type} {p : Reader α}, P p → P (Reader.many p)

namespace IsKept

variable {P : {α : Type} → Reader α → Prop} {separator : Reader Unit}

theorem separated (h : IsKept @P) (hs : P separator) (hp : P p) :
    P (Reader.separated separator p) :=
  h.bind hp fun _ ↦ h.bind (h.many (h.bind hs fun _ ↦ hp)) fun _ ↦ h.pure _

theorem chain (h : IsKept @P) (hs : P separator) (combine : α → α → α) (hp : P p) :
    P (Reader.chain separator combine p) := by
  refine h.bind (h.separated hs hp) fun as ↦ ?_
  cases as with
  | nil => exact h.fail
  | cons a as => exact h.pure _

end IsKept

end Text.Reader

namespace Filter

open Text Reader

/-! ## From tokens to filters -/

/-- The property is kept when readers are put together, and the readers of all tokens have it. -/
structure HoldsOfTokens (P : {α : Type} → Reader α → Prop) : Prop extends IsKept @P where
  spaces : P Filter.spaces
  spaces1 : P Filter.spaces1
  keyword : ∀ k : Keyword, P (Filter.keyword k.text)
  symbol : ∀ c ∈ ['(', ')', ',', '~'], P (Reader.char c)
  sign : P Filter.sign
  identifier : P Filter.identifier
  quotedString : P Filter.quotedString
  number : P Filter.number

namespace HoldsOfTokens

variable {P : {α : Type} → Reader α → Prop}

theorem literal (h : HoldsOfTokens @P) : P Filter.literal :=
  h.orElse (h.bind (h.keyword .true) fun _ ↦ h.pure _) <|
    h.orElse (h.bind (h.keyword .false) fun _ ↦ h.pure _) <|
    h.orElse (h.bind (h.keyword .null) fun _ ↦ h.pure _) <|
    h.orElse (h.bind h.quotedString fun _ ↦ h.pure _) h.number

theorem negation? (h : HoldsOfTokens @P) : P Filter.negation? :=
  h.bind (h.optional (h.bind (h.keyword .not) fun _ ↦ h.spaces1)) fun _ ↦ h.pure _

theorem nullTest (h : HoldsOfTokens @P) : P Filter.nullTest :=
  h.bind (h.keyword .is) fun _ ↦ h.bind h.spaces1 fun _ ↦ h.bind h.negation? fun _ ↦
    h.bind (h.keyword .null) fun _ ↦ h.pure _

theorem comma (h : HoldsOfTokens @P) : P Filter.comma :=
  h.bind h.spaces fun _ ↦ h.bind (h.symbol _ (by decide)) fun _ ↦ h.spaces

theorem setTest (h : HoldsOfTokens @P) : P Filter.setTest :=
  h.bind h.negation? fun _ ↦ h.bind (h.keyword .inSet) fun _ ↦ h.bind h.spaces fun _ ↦
    h.bind (h.symbol _ (by decide)) fun _ ↦ h.bind h.spaces fun _ ↦
    h.bind (h.separated h.comma h.literal) fun _ ↦ h.bind h.spaces fun _ ↦
    h.bind (h.symbol _ (by decide)) fun _ ↦ h.pure _

theorem matchWord (h : HoldsOfTokens @P) : P Filter.matchWord :=
  h.orElse (h.bind (h.keyword .contains) fun _ ↦ h.pure _) <|
    h.orElse (h.bind (h.symbol _ (by decide)) fun _ ↦ h.pure _) <|
    h.orElse (h.bind (h.keyword .startsWith) fun _ ↦ h.pure _)
    (h.bind (h.keyword .endsWith) fun _ ↦ h.pure _)

theorem matchTest (h : HoldsOfTokens @P) : P Filter.matchTest :=
  h.bind h.matchWord fun _ ↦ h.bind h.spaces fun _ ↦ h.bind h.quotedString fun _ ↦ h.pure _

theorem comparison (h : HoldsOfTokens @P) : P Filter.comparison :=
  h.bind h.sign fun _ ↦ h.bind h.spaces fun _ ↦ h.bind h.literal fun _ ↦ h.pure _

theorem condition (h : HoldsOfTokens @P) : P Filter.condition := by
  refine h.bind h.identifier fun _ ↦ h.bind h.spaces fun _ ↦ h.bind ?_ fun _ ↦ h.pure _
  exact h.orElse h.nullTest <| h.orElse h.setTest <| h.orElse h.matchTest h.comparison

theorem connective (h : HoldsOfTokens @P) (k : Keyword) : P (Filter.connective k.text) :=
  h.bind h.spaces fun _ ↦ h.bind (h.keyword k) fun _ ↦ h.spaces

theorem disjunction (h : HoldsOfTokens @P) {operand : Reader Filter} (hoperand : P operand) :
    P (Filter.disjunction operand) :=
  h.chain (h.connective .or) _ (h.chain (h.connective .and) _ hoperand)

theorem unary (h : HoldsOfTokens @P) (depth : Nat) : P (Filter.unary depth) := by
  induction depth with
  | zero => exact h.fail
  | succ depth ih =>
    refine h.orElse ?_ (h.orElse ?_ h.condition)
    · exact h.bind (h.keyword .not) fun _ ↦ h.bind h.spaces fun _ ↦ h.bind ih fun _ ↦ h.pure _
    · exact h.bind (h.symbol _ (by decide)) fun _ ↦ h.bind h.spaces fun _ ↦
        h.bind (h.disjunction ih) fun _ ↦ h.bind h.spaces fun _ ↦
        h.bind (h.symbol _ (by decide)) fun _ ↦ h.pure _

/-- The reader of filters has the property, whatever bound it takes for the depth. -/
theorem disjunction_unary (h : HoldsOfTokens @P) (depth : Nat) :
    P (Filter.disjunction (Filter.unary depth)) :=
  h.disjunction (h.unary depth)

end HoldsOfTokens

end Filter

end QueryChain
