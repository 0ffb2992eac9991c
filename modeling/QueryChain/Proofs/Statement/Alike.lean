import Mathlib.Data.List.Forall2
import QueryChain.Proofs.Statement.Request

/-!
# Constants do not reach the text

Two requests are *alike* if they differ in constants only. Where a constant is compared with a
member, one thing about it matters: whether it is null, because null is tested for and not compared.
Alike requests have statements with the same text and the same parameter names, or neither has one,
and for the same kind of reason. So whatever stands in a constant, it never becomes SQL.

The proof compares the two writings step by step: what is written from alike parts is alike.
-/

namespace QueryChain

/-! ## Outcomes of the same kind -/

namespace Error

/-- What went wrong, without the data of the message. -/
inductive Kind
  | invalidArgument
  | invalidOperation
  | unsupportedType
  | notSupported
  | notFound
  | cardinality
  | cancelled
  | parse
  | config
  | io
  | driver
deriving DecidableEq

def kind : Error → Kind
  | invalidArgument .. => .invalidArgument
  | invalidOperation _ => .invalidOperation
  | unsupportedType .. => .unsupportedType
  | notSupported _ => .notSupported
  | notFound _ => .notFound
  | cardinality .. => .cardinality
  | cancelled => .cancelled
  | parse .. => .parse
  | config _ => .config
  | io _ => .io
  | driver _ => .driver

end Error

/-- Both succeed, with related results, or both fail with the same kind of error. -/
inductive SameOutcome {α β : Type} (R : α → β → Prop) : Except Error α → Except Error β → Prop
  | ok {a : α} {b : β} (h : R a b) : SameOutcome R (.ok a) (.ok b)
  | error {e f : Error} (h : e.kind = f.kind) : SameOutcome R (.error e) (.error f)

namespace SameOutcome

variable {α β γ δ : Type} {R : α → β → Prop} {S : γ → δ → Prop}

theorem refl (x : Except Error α) : SameOutcome (· = ·) x x := by
  cases x with
  | error e => exact .error rfl
  | ok a => exact .ok rfl

theorem bind {x : Except Error α} {y : Except Error β} {f : α → Except Error γ}
    {g : β → Except Error δ} (h : SameOutcome R x y)
    (hfg : ∀ a b, R a b → SameOutcome S (f a) (g b)) : SameOutcome S (x >>= f) (y >>= g) := by
  cases h with
  | ok h => exact hfg _ _ h
  | error h => exact .error h

theorem map {x : Except Error α} {y : Except Error β} {f : α → γ} {g : β → δ}
    (h : SameOutcome R x y) (hfg : ∀ a b, R a b → S (f a) (g b)) :
    SameOutcome S (x.map f) (y.map g) := by
  cases h with
  | ok h => exact .ok (hfg _ _ h)
  | error h => exact .error h

end SameOutcome

/-! ## Requests that differ in constants -/

/-- The constant null. -/
def Predicate.isNullLiteral : Predicate → Bool
  | literal v => v.isNull
  | _ => false

/-- Predicates that are equal but for their constants. -/
inductive Predicate.Alike : Predicate → Predicate → Prop
  | member (name : String) : Alike (.member name) (.member name)
  | literal (v w : Value) : Alike (.literal v) (.literal w)
  | not {p q : Predicate} (h : Alike p q) : Alike (.not p) (.not q)
  | and {l r l' r' : Predicate} (hl : Alike l l') (hr : Alike r r') : Alike (.and l r) (.and l' r')
  | or {l r l' r' : Predicate} (hl : Alike l l') (hr : Alike r r') : Alike (.or l r) (.or l' r')
  | flatAnd {l r l' r' : Predicate} (hl : Alike l l') (hr : Alike r r') :
    Alike (.flatAnd l r) (.flatAnd l' r')
  | flatOr {l r l' r' : Predicate} (hl : Alike l l') (hr : Alike r r') :
    Alike (.flatOr l r) (.flatOr l' r')
  /-- Constants that are compared are both null, or neither is. -/
  | compare (op : CompareOp) {l r l' r' : Predicate} (hl : Alike l l') (hr : Alike r r')
    (hlnull : l.isNullLiteral = l'.isNullLiteral) (hrnull : r.isNullLiteral = r'.isNullLiteral) :
    Alike (.compare op l r) (.compare op l' r')
  | like (kind : StringMatch) (name s s' : String) : Alike (.like kind name s) (.like kind name s')
  | inSet (name : String) {vs ws : List Value} (h : vs.length = ws.length) :
    Alike (.inSet name vs) (.inSet name ws)
  | boolEquals (name : String) (b b' : Bool) :
    Alike (.boolEquals name (some b)) (.boolEquals name (some b'))
  | boolNull (name : String) : Alike (.boolEquals name none) (.boolEquals name none)

/-- Terminals that are equal but for the constants of their conditions. -/
inductive Terminal.Alike : Terminal → Terminal → Prop
  | toList : Alike .toList .toList
  | count {p q : Option Predicate} (h : Option.Rel Predicate.Alike p q) :
    Alike (.count p) (.count q)
  | first {p q : Option Predicate} (h : Option.Rel Predicate.Alike p q) :
    Alike (.first p) (.first q)
  | firstOrDefault {p q : Option Predicate} (h : Option.Rel Predicate.Alike p q) :
    Alike (.firstOrDefault p) (.firstOrDefault q)

/-- Operators that are equal but for the constants of their predicates. -/
inductive Operator.Alike : Operator → Operator → Prop
  | filter {p q : Predicate} (h : p.Alike q) : Alike (.filter p) (.filter q)
  | orderBy {p q : Predicate} (h : p.Alike q) (dir : Direction) :
    Alike (.orderBy p dir) (.orderBy q dir)
  | thenBy {p q : Predicate} (h : p.Alike q) (dir : Direction) :
    Alike (.thenBy p dir) (.thenBy q dir)
  | skip (n : UInt64) : Alike (.skip n) (.skip n)
  | take (n : UInt64) : Alike (.take n) (.take n)
  | selectOnly (fields : List String) : Alike (.selectOnly fields) (.selectOnly fields)
  | terminal {t u : Terminal} (h : t.Alike u) : Alike (.terminal t) (.terminal u)

/-- Sources that are equal but for the arguments of a function, of which there are equally many. -/
inductive Source.Alike : Source → Source → Prop
  | table (name : String) : Alike (.table name) (.table name)
  | function (name : String) {vs ws : List Value} (h : vs.length = ws.length) :
    Alike (.function name vs) (.function name ws)

/-- Requests that are equal but for their constants. -/
inductive Request.Alike : Request → Request → Prop
  | select {q q' : Query} (hs : q.source.Alike q'.source)
    (hops : List.Forall₂ Operator.Alike q.operators q'.operators) : Alike (.select q) (.select q')
  | update (target : String) {fields fields' : List (String × Value)} {p p' : Option Predicate}
    (hf : fields.map Prod.fst = fields'.map Prod.fst) (hp : Option.Rel Predicate.Alike p p') :
    Alike (.update target fields p) (.update target fields' p')
  | delete (source : String) {p p' : Option Predicate} (hp : Option.Rel Predicate.Alike p p') :
    Alike (.delete source p) (.delete source p')

/-! ## Alike lists -/

section Lists

variable {α β γ δ : Type} {R : γ → δ → Prop}

theorem forall₂_map_of_length_eq {f : α → γ} {g : β → δ} (hR : ∀ a b, R (f a) (g b))
    {as : List α} {bs : List β} (h : as.length = bs.length) :
    List.Forall₂ R (as.map f) (bs.map g) := by
  induction as generalizing bs with
  | nil =>
    obtain rfl := List.length_eq_zero_iff.mp h.symm
    exact .nil
  | cons a as ih =>
    cases bs with
    | nil => cases h
    | cons b bs => exact .cons (hR a b) (ih (Nat.succ_inj.mp h))

theorem forall₂_intersperse {c : γ} {d : δ} (hR : R c d) {as : List γ} {bs : List δ}
    (h : List.Forall₂ R as bs) : List.Forall₂ R (as.intersperse c) (bs.intersperse d) := by
  induction h with
  | nil => exact .nil
  | cons hab hs ih =>
    cases hs with
    | nil => exact .cons hab .nil
    | cons _ _ => exact .cons hab (.cons hR ih)

end Lists

theorem Predicate.listed_eq_intersperse (vs : List Value) :
    listed vs = (vs.map fun v ↦ Token.constant (.value v)).intersperse .comma := by
  induction vs with
  | nil => rfl
  | cons v vs ih =>
    cases vs with
    | nil => rfl
    | cons w vs => exact congrArg ([Token.constant (.value v), .comma] ++ ·) ih

theorem Template.holes_eq_intersperse (vs : List Value) :
    holes vs = (vs.map fun v ↦ Piece.hole (.value v)).intersperse (.text ", ") := by
  induction vs with
  | nil => rfl
  | cons v vs ih =>
    cases vs with
    | nil => rfl
    | cons w vs => exact congrArg ([Piece.hole (.value v), .text ", "] ++ ·) ih

/-! ## Alike texts -/

/-- Tokens that are equal, or constants both. -/
inductive Token.Alike : Token → Token → Prop
  | same (t : Token) : Alike t t
  | constant (c e : Constant) : Alike (.constant c) (.constant e)

/-- Pieces that are equal, or holes both. -/
inductive Piece.Alike : Piece → Piece → Prop
  | same (p : Piece) : Alike p p
  | hole (c e : Constant) : Alike (.hole c) (.hole e)

/-- Templates whose pieces are alike. -/
def Template.Alike (s t : Template) : Prop := List.Forall₂ Piece.Alike s t

theorem Token.Alike.forall₂_refl (ts : List Token) : List.Forall₂ Token.Alike ts ts :=
  List.forall₂_same.mpr fun t _ ↦ .same t

namespace Template.Alike

variable {s t s' t' : Template}

theorem refl (t : Template) : Alike t t := List.forall₂_same.mpr fun p _ ↦ .same p

theorem append (h : Alike s t) (h' : Alike s' t') : Alike (s ++ s') (t ++ t') :=
  List.rel_append h h'

/-- Alike templates have the same texts between and in their holes. -/
theorem parts_eq (h : Alike s t) (d : Dialect) (start : Nat) :
    s.parts d start = t.parts d start := by
  induction h generalizing start with
  | nil => rfl
  | @cons p _ _ _ hp _ ih =>
    cases hp with
    | same => cases p <;> rw [parts, parts, ih]
    | hole c e => rw [parts, parts, ih]

theorem length_constants (h : Alike s t) : s.constants.length = t.constants.length := by
  induction h with
  | nil => rfl
  | @cons p _ _ _ hp _ ih =>
    cases hp with
    | same => cases p <;> simp [constants, ih]
    | hole c e => rw [constants, constants, List.length_cons, List.length_cons, ih]

end Template.Alike

theorem Parameter.names_numberFrom (start : Nat) (vs : List Value) :
    (numberFrom start vs).map name = (List.range' start vs.length).map nameAt := by
  induction vs generalizing start with
  | nil => rfl
  | cons v vs ih =>
    rw [numberFrom, List.map_cons, ih, List.length_cons, List.range'_succ, List.map_cons]

/-- Statements with the same text and the same names of parameters. -/
def Statement.SameText (s t : Statement) : Prop :=
  s.sql = t.sql ∧ s.parameters.map Parameter.name = t.parameters.map Parameter.name

theorem Template.Alike.sameText {s t : Template} (h : s.Alike t) (d : Dialect) :
    (s.toStatement d).SameText (t.toStatement d) := by
  constructor
  · exact congrArg String.join (h.parts_eq d 0)
  · rw [toStatement, toStatement, Parameter.names_numberFrom, Parameter.names_numberFrom, values,
      values, List.length_map, List.length_map, h.length_constants]

namespace Token

theorem Alike.piece {t u : Token} (h : t.Alike u) : t.piece.Alike u.piece := by
  cases h with
  | same t => exact .same _
  | constant c e => exact .hole c e

/-- Whether a blank stands between two tokens does not depend on constants. -/
theorem Alike.spaced_eq {t u t' u' : Token} (h : t.Alike u) (h' : t'.Alike u') :
    spaced t t' = spaced u u' := by
  cases h <;> cases h' <;> rfl

theorem Alike.spell {ts us : List Token} (h : List.Forall₂ Token.Alike ts us) :
    Template.Alike (spell ts) (spell us) := by
  induction h with
  | nil => exact .nil
  | cons h hs ih =>
    cases hs with
    | nil => exact .cons h.piece .nil
    | cons h' hs =>
      rw [Token.spell, Token.spell, h.spaced_eq h']
      split
      · exact .cons h.piece (.cons (.same _) ih)
      · exact .cons h.piece ih

end Token

/-! ## Alike emissions -/

/-- Emissions of alike tokens that end alike. -/
def Emission.Alike (e f : Emission) : Prop :=
  List.Forall₂ Token.Alike e.tokens f.tokens ∧ e.failure.map Error.kind = f.failure.map Error.kind

namespace Emission.Alike

variable {e f e' f' : Emission}

theorem refl (e : Emission) : Alike e e := ⟨Token.Alike.forall₂_refl _, rfl⟩

theorem write {ts us : List Token} (h : List.Forall₂ Token.Alike ts us) :
    Alike (.write ts) (.write us) := ⟨h, rfl⟩

theorem fail {err err' : Error} (h : err.kind = err'.kind) : Alike (.fail err) (.fail err') :=
  ⟨.nil, congrArg some h⟩

theorem append (h : Alike e f) (h' : Alike e' f') : Alike (e ++ e') (f ++ f') := by
  obtain ⟨ts, a⟩ := e
  obtain ⟨us, b⟩ := f
  obtain ⟨htokens, hfailure⟩ := h
  cases a with
  | some err =>
    cases b with
    | some err' => exact ⟨htokens, hfailure⟩
    | none => cases hfailure
  | none =>
    cases b with
    | some err' => cases hfailure
    | none => exact ⟨List.rel_append htokens h'.1, h'.2⟩

theorem enclose (h : Alike e f) (parens : Bool) :
    Alike (Predicate.enclose parens e) (Predicate.enclose parens f) := by
  cases parens with
  | false => exact h
  | true => exact ((refl _).append h).append (refl _)

theorem toExcept (h : Alike e f) :
    SameOutcome (List.Forall₂ Token.Alike) e.toExcept f.toExcept := by
  obtain ⟨ts, a⟩ := e
  obtain ⟨us, b⟩ := f
  obtain ⟨htokens, hfailure⟩ := h
  cases a with
  | some err =>
    cases b with
    | some err' => exact .error (Option.some.inj hfailure)
    | none => cases hfailure
  | none =>
    cases b with
    | some err' => cases hfailure
    | none => exact .ok htokens

end Emission.Alike

namespace Predicate

variable {p q l r l' r' : Predicate}

theorem Alike.isFlat_eq (h : p.Alike q) : p.isFlat = q.isFlat := by
  cases h <;> rfl

theorem Alike.asMember?_eq (h : p.Alike q) : p.asMember? = q.asMember? := by
  cases h <;> rfl

theorem alike_emitNamed (name : String) {e f : Emission} (h : e.Alike f) :
    (emitNamed name e).Alike (emitNamed name f) := by
  unfold emitNamed
  split
  · exact .refl _
  · exact h

theorem alike_emitComparison (op : CompareOp) (name : String) {v w : Value}
    (h : v.isNull = w.isNull) (memberFirst : Bool) :
    (emitComparison op name v memberFirst).Alike (emitComparison op name w memberFirst) := by
  apply alike_emitNamed
  rw [h]
  by_cases hnull : w.isNull
  · rw [if_pos hnull, if_pos hnull]
    exact .refl _
  · rw [if_neg hnull, if_neg hnull]
    cases memberFirst with
    | true => exact .write (.cons (.same _) (.cons (.same _) (.cons (.constant _ _) .nil)))
    | false => exact .write (.cons (.constant _ _) (.cons (.same _) (.cons (.same _) .nil)))

/-- Which sides a comparison has does not depend on constants. -/
theorem alike_emitCompare (op : CompareOp) (hl : l.Alike l') (hr : r.Alike r')
    (hlnull : l.isNullLiteral = l'.isNullLiteral) (hrnull : r.isNullLiteral = r'.isNullLiteral) :
    (emitCompare op l r).Alike (emitCompare op l' r') := by
  -- a member against a constant is compared; all other sides are refused, with the same error
  cases hl with
  | member name =>
    cases hr with
    | member => exact .refl _
    | literal v w => exact alike_emitComparison op name hrnull true
    | _ => exact .refl _
  | literal v w =>
    cases hr with
    | member name => exact alike_emitComparison op name hlnull false
    | _ => exact .refl _
  | _ => exact .refl _

theorem alike_listed {vs ws : List Value} (h : vs.length = ws.length) :
    List.Forall₂ Token.Alike (listed vs) (listed ws) := by
  rw [listed_eq_intersperse, listed_eq_intersperse]
  exact forall₂_intersperse (.same _) (forall₂_map_of_length_eq (fun _ _ ↦ .constant _ _) h)

theorem alike_emitIn (name : String) {vs ws : List Value} (h : vs.length = ws.length)
    (negated : Bool) : (emitIn name vs negated).Alike (emitIn name ws negated) := by
  have hempty : vs.isEmpty = ws.isEmpty := by
    rw [Bool.eq_iff_iff, List.isEmpty_iff_length_eq_zero, List.isEmpty_iff_length_eq_zero, h]
  apply alike_emitNamed
  rw [hempty]
  by_cases hnil : ws.isEmpty
  · rw [if_pos hnil, if_pos hnil]
    exact .refl _
  · rw [if_neg hnil, if_neg hnil]
    exact .write (List.rel_append (List.rel_append (Token.Alike.forall₂_refl _) (alike_listed h))
      (Token.Alike.forall₂_refl _))

theorem alike_emitBool (name : String) (b b' negated : Bool) :
    (emitBool name (some b) negated).Alike (emitBool name (some b') negated) :=
  alike_emitNamed name (.write (.cons (.same _) (.cons (.same _) (.cons (.constant _ _) .nil))))

theorem alike_emitLike (kind : StringMatch) (name s s' : String) (negated : Bool) :
    (emitLike kind name s negated).Alike (emitLike kind name s' negated) :=
  alike_emitNamed name (.write (List.rel_append (Token.Alike.forall₂_refl _)
    (.cons (.same _) (.cons (.constant _ _) .nil))))

/-- Two operands and the keyword between them, as all connectives are written. -/
theorem alike_joined {e f e' f' : Emission} (he : e.Alike e') (hf : f.Alike f')
    (negated parens lparens rparens : Bool) (j : Token) :
    (.write (notIf negated) ++ enclose parens
      (enclose lparens e ++ .write [j] ++ enclose rparens f) : Emission).Alike
    (.write (notIf negated) ++ enclose parens
      (enclose lparens e' ++ .write [j] ++ enclose rparens f')) :=
  (Emission.Alike.refl _).append
    ((((he.enclose lparens).append (.refl _)).append (hf.enclose rparens)).enclose parens)

/-- **Alike predicates are written alike.** -/
theorem Alike.emit (h : p.Alike q) (negated : Bool) :
    (p.emit negated).Alike (q.emit negated) := by
  -- along the relation, with the flag general because a negation flips it
  induction h generalizing negated with
  | member name => exact .refl _
  | literal v w => exact .fail rfl
  | not _ ih => exact ih _
  | and hl hr ihl ihr =>
    rw [Predicate.emit, Predicate.emit, hl.isFlat_eq, hr.isFlat_eq]
    exact alike_joined (ihl false) (ihr false) ..
  | or hl hr ihl ihr =>
    rw [Predicate.emit, Predicate.emit, hl.isFlat_eq, hr.isFlat_eq]
    exact alike_joined (ihl false) (ihr false) ..
  | flatAnd _ _ ihl ihr =>
    exact alike_joined (ihl false) (ihr false) negated negated false false .and
  | flatOr _ _ ihl ihr =>
    exact alike_joined (ihl false) (ihr false) negated negated false false .or
  | compare op hl hr hlnull hrnull => exact alike_emitCompare _ hl hr hlnull hrnull
  | like kind name s s' => exact alike_emitLike kind name s s' negated
  | inSet name h => exact alike_emitIn name h negated
  | boolEquals name b b' => exact alike_emitBool name b b' negated
  | boolNull name => exact .refl _

theorem alike_foldl_and {ps qs : List Predicate} (h : p.Alike q)
    (hs : List.Forall₂ Predicate.Alike ps qs) : (ps.foldl .and p).Alike (qs.foldl .and q) := by
  induction hs generalizing p q with
  | nil => exact h
  | cons h' _ ih => exact ih (.and h h')

theorem alike_emitAll {ps qs : List Predicate} (h : List.Forall₂ Predicate.Alike ps qs) :
    (emitAll ps).Alike (emitAll qs) := by
  cases h with
  | nil => exact .refl _
  | cons h hs => exact (alike_foldl_and h hs).emit false

end Predicate

/-! ## Alike clauses -/

theorem Template.alike_holes {vs ws : List Value} (h : vs.length = ws.length) :
    Template.Alike (holes vs) (holes ws) := by
  rw [holes_eq_intersperse, holes_eq_intersperse]
  exact forall₂_intersperse (.same _) (forall₂_map_of_length_eq (fun _ _ ↦ .hole _ _) h)

theorem Source.Alike.template {s s' : Source} (h : s.Alike s') :
    s.template.Alike s'.template := by
  cases h with
  | table name => exact .refl _
  | function name h =>
    exact .cons (.same _) ((Template.alike_holes h).append (.refl _))

theorem alike_whereClause {ts us : List Token} (h : List.Forall₂ Token.Alike ts us) :
    (whereClause ts).Alike (whereClause us) := by
  cases h with
  | nil => exact .refl _
  | cons h hs => exact .cons (.same _) (Token.Alike.spell (.cons h hs))

namespace Operator

variable {ops ops' : List Operator}

theorem Alike.isTerminal_eq {a b : Operator} (h : a.Alike b) : a.isTerminal = b.isTerminal := by
  cases h <;> rfl

theorem Alike.filter? {a b : Operator} (h : a.Alike b) :
    Option.Rel Predicate.Alike a.filter? b.filter? := by
  cases h with
  | filter h => exact .some h
  | _ => exact .none

theorem Alike.page_eq {a b : Operator} (h : a.Alike b) (page : Page) :
    page.apply a = page.apply b := by
  cases h <;> rfl

theorem Alike.fields?_eq {a b : Operator} (h : a.Alike b) : a.fields? = b.fields? := by
  cases h <;> rfl

theorem keyName_eq {p q : Predicate} (h : p.Alike q) : keyName p = keyName q := by
  rw [keyName, keyName, h.asMember?_eq]

/-- The ordering of a chain does not depend on constants at all. -/
theorem orderKeys_eq (h : List.Forall₂ Operator.Alike ops ops') :
    orderKeys ops = orderKeys ops' := by
  have hfrom : ∀ keys, orderKeysFrom keys ops = orderKeysFrom keys ops' := by
    induction h with
    | nil => exact fun keys ↦ rfl
    | cons h _ ih =>
      intro keys
      cases h with
      | orderBy hp dir =>
        rw [orderKeysFrom, orderKeysFrom, keyName_eq hp]
        exact bind_congr fun name ↦ ih _
      | thenBy hp dir =>
        rw [orderKeysFrom, orderKeysFrom, keyName_eq hp]
        exact bind_congr fun name ↦ ih _
      | _ => exact ih keys
  exact hfrom []

theorem page_eq (h : List.Forall₂ Operator.Alike ops ops') :
    Page.ofOperators ops = Page.ofOperators ops' := by
  have hfrom : ∀ page : Page, ops.foldl Page.apply page = ops'.foldl Page.apply page := by
    induction h with
    | nil => exact fun page ↦ rfl
    | cons h _ ih =>
      intro page
      rw [List.foldl_cons, List.foldl_cons, h.page_eq, ih]
  exact hfrom {}

theorem selectedFields_eq (h : List.Forall₂ Operator.Alike ops ops') :
    selectedFields ops = selectedFields ops' := by
  have hfields : ops.filterMap Operator.fields? = ops'.filterMap Operator.fields? := by
    induction h with
    | nil => rfl
    | cons h _ ih => rw [List.filterMap_cons, List.filterMap_cons, h.fields?_eq, ih]
  rw [selectedFields, selectedFields, hfields]

end Operator

/-! ## Alike requests -/

namespace Terminal

variable {t u : Terminal}

theorem Alike.predicate? (h : t.Alike u) :
    Option.Rel Predicate.Alike t.predicate? u.predicate? := by
  cases h with
  | toList => exact .none
  | count h => exact h
  | first h => exact h
  | firstOrDefault h => exact h

theorem Alike.isFirst_eq (h : t.Alike u) : t.isFirst = u.isFirst := by
  cases h <;> rfl

theorem Alike.isCount_eq (h : t.Alike u) : t.isCount = u.isCount := by
  cases h <;> rfl

end Terminal

theorem alike_toList {p q : Option Predicate} (h : Option.Rel Predicate.Alike p q) :
    List.Forall₂ Predicate.Alike p.toList q.toList := by
  cases h with
  | none => exact .nil
  | some h => exact .cons h .nil

/-- Clauses that are equal but for constants. -/
structure Select.Alike (s s' : Select) : Prop where
  list : s.list = s'.list
  source : s.source.Alike s'.source
  condition : List.Forall₂ Token.Alike s.condition s'.condition
  order : s.order = s'.order
  offset : s.offset = s'.offset
  fetch : s.fetch = s'.fetch

theorem Select.Alike.template {s s' : Select} (h : s.Alike s') : s.template.Alike s'.template := by
  rw [Select.template, Select.template, h.list, h.order, h.offset, h.fetch]
  exact (((((Template.Alike.refl _).append h.source.template).append
    (alike_whereClause h.condition)).append (.refl _)).append (.refl _)).append (.refl _)

theorem Select.alike_ofChain (d : Dialect) {source source' : Source} {body body' : List Operator}
    {t t' : Terminal} (hs : source.Alike source')
    (hbody : List.Forall₂ Operator.Alike body body') (ht : t.Alike t') :
    SameOutcome Select.Alike (ofChain d source body t) (ofChain d source' body' t') := by
  have hcondition := (Predicate.alike_emitAll (List.rel_append
    (List.rel_filterMap (fun _ _ h ↦ Operator.Alike.filter? h) hbody)
    (alike_toList ht.predicate?))).toExcept
  unfold ofChain
  refine hcondition.bind fun ts us htokens ↦ ?_
  rw [ht.isCount_eq, ht.isFirst_eq, Operator.page_eq hbody, Operator.orderKeys_eq hbody,
    Operator.selectedFields_eq hbody]
  by_cases hcount : t'.isCount
  · rw [if_pos hcount, if_pos hcount]
    exact .ok ⟨rfl, hs, htokens, rfl, rfl, rfl⟩
  · rw [if_neg hcount, if_neg hcount]
    refine (SameOutcome.refl _).bind fun keys keys' hkeys ↦ ?_
    subst hkeys
    exact .ok ⟨rfl, hs, htokens, rfl, rfl, rfl⟩

theorem Operator.alike_find? {ops ops' : List Operator} (h : List.Forall₂ Operator.Alike ops ops') :
    Option.Rel Operator.Alike (ops.find? isTerminal) (ops'.find? isTerminal) := by
  induction h with
  | nil => exact .none
  | cons h _ ih =>
    rw [List.find?_cons, List.find?_cons, h.isTerminal_eq]
    split
    · exact .some h
    · exact ih

theorem Operator.alike_getLast? {ops ops' : List Operator}
    (h : List.Forall₂ Operator.Alike ops ops') :
    Option.Rel Operator.Alike ops.getLast? ops'.getLast? := by
  induction h with
  | nil => exact .none
  | cons h hs ih =>
    cases hs with
    | nil => exact .some h
    | cons h' hs =>
      rw [List.getLast?_cons_cons, List.getLast?_cons_cons]
      exact ih

theorem Query.alike_terminal? {q q' : Query}
    (h : List.Forall₂ Operator.Alike q.operators q'.operators) :
    Option.Rel Terminal.Alike q.terminal? q'.terminal? := by
  have hlast := Operator.alike_getLast? h
  rw [Query.terminal?, Query.terminal?]
  generalize q.operators.getLast? = last at hlast ⊢
  generalize q'.operators.getLast? = last' at hlast ⊢
  cases hlast with
  | none => exact .none
  | some hop =>
    cases hop with
    | terminal ht => exact .some ht
    | _ => exact .none

/-- The check for a terminal in the middle looks at the kinds of operators only. -/
theorem Query.alike_check {body body' : List Operator} {t t' : Terminal}
    (hbody : List.Forall₂ Operator.Alike body body') (ht : t.Alike t') :
    SameOutcome (fun x y ↦ List.Forall₂ Operator.Alike x.1 y.1 ∧ x.2.Alike y.2)
      (match body.find? Operator.isTerminal with
        | some op => .error (.terminalNotLast op.kind)
        | none => .ok (body, t))
      (match body'.find? Operator.isTerminal with
        | some op => .error (.terminalNotLast op.kind)
        | none => .ok (body', t')) := by
  have hfind := Operator.alike_find? hbody
  generalize body.find? Operator.isTerminal = found at hfind ⊢
  generalize body'.find? Operator.isTerminal = found' at hfind ⊢
  cases hfind with
  | none => exact .ok ⟨hbody, ht⟩
  | some _ => exact .error rfl

theorem Query.alike_split {q q' : Query}
    (h : List.Forall₂ Operator.Alike q.operators q'.operators) :
    SameOutcome (fun x y ↦ List.Forall₂ Operator.Alike x.1 y.1 ∧ x.2.Alike y.2)
      q.split q'.split := by
  have hterminal := alike_terminal? h
  have hdrop : List.Forall₂ Operator.Alike q.operators.dropLast q'.operators.dropLast := by
    rw [List.dropLast_eq_take, List.dropLast_eq_take, h.length_eq]
    exact List.forall₂_take _ h
  rw [split, split]
  generalize q.terminal? = last at hterminal ⊢
  generalize q'.terminal? = last' at hterminal ⊢
  -- what is split off is alike in both cases
  cases hterminal with
  | none => exact alike_check h .toList
  | some ht => exact alike_check hdrop ht

namespace Statement

variable {fields fields' : List (String × Value)}

/-- Assignments to the same fields. -/
theorem forall₂_fields (h : fields.map Prod.fst = fields'.map Prod.fst) :
    List.Forall₂ (fun e e' ↦ e.1 = e'.1) fields fields' := by
  have hnames : List.Forall₂ (· = ·) (fields.map Prod.fst) (fields'.map Prod.fst) := by
    rw [List.forall₂_eq_eq_eq]
    exact h
  rwa [List.forall₂_map_left_iff, List.forall₂_map_right_iff] at hnames

/-- Whether the assigned fields have names does not depend on the values. -/
theorem checkFields_eq (h : fields.map Prod.fst = fields'.map Prod.fst) :
    checkFields fields = checkFields fields' := by
  have hfields := forall₂_fields h
  clear h
  induction hfields with
  | nil => rfl
  | @cons e e' _ _ hname _ ih =>
    obtain ⟨name, v⟩ := e
    obtain ⟨name', v'⟩ := e'
    obtain rfl : name = name' := hname
    rw [checkFields, checkFields, ih]

theorem alike_assignments (h : fields.map Prod.fst = fields'.map Prod.fst) :
    Template.Alike (assignments fields) (assignments fields') := by
  have hfields := forall₂_fields h
  clear h
  induction hfields with
  | nil => exact .nil
  | @cons e e' _ _ hname hs ih =>
    obtain ⟨name, v⟩ := e
    obtain ⟨name', v'⟩ := e'
    obtain rfl : name = name' := hname
    cases hs with
    | nil => exact .cons (.same _) (.cons (.hole _ _) .nil)
    | cons _ _ => exact .cons (.same _) (.cons (.hole _ _) (.cons (.same _) ih))

theorem alike_updateTemplate (target : String) {p p' : Option Predicate}
    (h : fields.map Prod.fst = fields'.map Prod.fst) (hp : Option.Rel Predicate.Alike p p') :
    SameOutcome Template.Alike (updateTemplate target fields p)
      (updateTemplate target fields' p') := by
  have hempty : fields.isEmpty = fields'.isEmpty := by
    rw [← List.isEmpty_map (f := Prod.fst), h, List.isEmpty_map]
  have hcondition := (Predicate.alike_emitAll (alike_toList hp)).toExcept
  unfold updateTemplate
  rw [hempty, checkFields_eq h]
  refine (SameOutcome.refl _).bind fun _ _ _ ↦ ?_
  by_cases hnone : fields'.isEmpty
  · rw [if_pos hnone, if_pos hnone]
    exact .error rfl
  · rw [if_neg hnone, if_neg hnone]
    refine (SameOutcome.refl _).bind fun _ _ _ ↦ hcondition.bind fun ts us hts ↦ ?_
    exact .ok (.cons (.same _) ((alike_assignments h).append (alike_whereClause hts)))

theorem alike_deleteTemplate (source : String) {p p' : Option Predicate}
    (hp : Option.Rel Predicate.Alike p p') :
    SameOutcome Template.Alike (deleteTemplate source p) (deleteTemplate source p') := by
  have hcondition := (Predicate.alike_emitAll (alike_toList hp)).toExcept
  unfold deleteTemplate
  refine (SameOutcome.refl _).bind fun _ _ _ ↦ hcondition.bind fun ts us h ↦ ?_
  exact .ok (.cons (.same _) (alike_whereClause h))

end Statement

/-- **Alike requests are laid out alike.** -/
theorem Request.Alike.layOut {r r' : Request} (h : r.Alike r') (d : Dialect) :
    SameOutcome Template.Alike (r.layOut d) (r'.layOut d) := by
  cases h with
  | @select q q' hs hops =>
    have hselect : SameOutcome Select.Alike (q.select d) (q'.select d) :=
      (Query.alike_split hops).bind fun x y hxy ↦ Select.alike_ofChain d hs hxy.1 hxy.2
    exact hselect.bind fun s s' h ↦ .ok h.template
  | update target hf hp => exact Statement.alike_updateTemplate target hf hp
  | delete source hp => exact Statement.alike_deleteTemplate source hp

/-- **Constants never reach the text of a statement.** Alike requests have statements with the same
text and the same parameter names in every dialect, or both have none, for the same kind of reason.
-/
theorem sameText_translate_of_alike {r r' : Request} (h : r.Alike r') (d : Dialect) :
    SameOutcome Statement.SameText (r.translate d) (r'.translate d) := by
  rw [Request.translate_eq, Request.translate_eq]
  exact (h.layOut d).map fun s t hst ↦ hst.sameText d

/-- A query over a function, with an attempt at injection among its constants. -/
theorem sameText_translate_select :
    let r : Request := .select ⟨.function "F" [.int32 1], [
      .filter (.not (.or (.like .contains "Name" "a") (.inSet "Age" [.int32 1, .null]))),
      .terminal (.count (some (.compare .ne (.literal (.int32 5)) (.member "Id"))))]⟩
    let r' : Request := .select ⟨.function "F" [.null], [
      .filter (.not (.or (.like .contains "Name" "'; DROP TABLE T --")
        (.inSet "Age" [.string "x", .int32 2]))),
      .terminal (.count (some (.compare .ne (.literal (.string "y")) (.member "Id"))))]⟩
    r.Alike r' ∧ (∃ s, r.translate .postgres = .ok s) ∧
      SameOutcome Statement.SameText (r.translate .postgres) (r'.translate .postgres) := by
  intro r r'
  have halike : r.Alike r' := by
    refine .select (.function "F" rfl)
      (.cons (.filter ?_) (.cons (.terminal (.count (.some ?_))) .nil))
    · exact .not (.or (.like _ _ _ _) (.inSet _ rfl))
    · exact .compare _ (.literal _ _) (.member _) rfl rfl
  exact ⟨halike, ⟨_, rfl⟩, sameText_translate_of_alike halike .postgres⟩

end QueryChain
