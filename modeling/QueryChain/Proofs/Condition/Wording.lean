import Mathlib.Data.List.SplitBy
import QueryChain.Proofs.Condition.Reader

/-!
# The wording of conditions

From the text of a condition back to its tokens. Nothing keeps a member name from holding blanks,
parentheses or keywords, so a name counts as one sign of the text, whatever its characters are; all
other signs are characters. Runs of letters and digits make words, as do runs of the signs of
comparison, and a word that begins with `@` or `$` refers to a parameter.

The main statement is that the text of some tokens is taken apart into the same tokens, with the
value of the parameter in the place of each constant.
-/

namespace QueryChain

/-! ## References to parameters -/

/-- The value of the parameter that a text refers to. `position` is that of the first parameter. -/
def Dialect.refer (d : Dialect) (position : Nat) : List Parameter → String → Option Value
  | [], _ => none
  | p :: ps, s =>
    if d.placeholder p.name position = s then some p.value else d.refer (position + 1) ps s

namespace Dialect

/-- Different positions are referred to by different texts. -/
theorem placeholder_nameAt_inj {d : Dialect} {i j : Nat}
    (h : d.placeholder (Parameter.nameAt i) (i + 1) = d.placeholder (Parameter.nameAt j) (j + 1)) :
    i = j := by
  have hrepr : ∀ {m n : Nat}, toString m = toString n → m = n := by
    intro m n hmn
    have hdigits : Nat.toDigits 10 m = Nat.toDigits 10 n := by
      rw [← Nat.toList_repr, ← Nat.toList_repr]
      exact congrArg String.toList hmn
    rw [← Nat.ofDigitChars_ten_toDigits (n := m), hdigits, Nat.ofDigitChars_ten_toDigits]
  cases d with
  | sqlServer => exact hrepr ((String.append_right_inj _).mp h)
  | postgres => exact Nat.succ_inj.mp (hrepr ((String.append_right_inj _).mp h))

/-- Every parameter is found by its reference. -/
theorem refer_placeholder (d : Dialect) (i k : Nat) (vs : List Value) :
    d.refer (i + 1) (Parameter.numberFrom i vs)
      (d.placeholder (Parameter.nameAt (i + k)) (i + k + 1)) = vs[k]? := by
  induction vs generalizing i k with
  | nil => rfl
  | cons v vs ih =>
    rw [Parameter.numberFrom, refer]
    cases k with
    | zero => exact if_pos rfl
    | succ k =>
      rw [if_neg fun h ↦ by have := placeholder_nameAt_inj h; omega, List.getElem?_cons_succ,
        ← ih (i + 1) k, Nat.add_right_comm i 1 k, Nat.add_assoc i k 1]

end Dialect

/-! ## Signs -/

/-- A sign of a text in which every member name counts as one sign. -/
inductive Glyph
  | char (c : Char)
  | name (member : String)
deriving DecidableEq

namespace Glyph

/-- The signs of a text without member names. -/
def ofText (s : String) : List Glyph := s.toList.map char

def chars : Glyph → List Char
  | char c => [c]
  | name member => member.toList

/-- The text of some signs. -/
def text (gs : List Glyph) : String := String.ofList (gs.flatMap chars)

theorem text_append (gs hs : List Glyph) : text (gs ++ hs) = text gs ++ text hs := by
  rw [text, List.flatMap_append, String.ofList_append]
  rfl

theorem text_ofText (s : String) : text (ofText s) = s := by
  have hchars : ∀ cs : List Char, (cs.map char).flatMap chars = cs := by
    intro cs
    induction cs with
    | nil => rfl
    | cons c cs ih => rw [List.map_cons, List.flatMap_cons, ih]; rfl
  rw [text, ofText, hchars, String.ofList_toList]

/-! ## Words -/

/-- The character belongs to keywords and references. -/
def isLetter (c : Char) : Bool := c.isAlphanum || c == '@' || c == '$'

/-- The character belongs to the signs of comparison. -/
def isSign (c : Char) : Bool := c == '<' || c == '>' || c == '='

/-- Two adjacent signs belong to the same word. -/
def joined : Glyph → Glyph → Bool
  | char a, char b => isLetter a && isLetter b || isSign a && isSign b
  | _, _ => false

/-- The keywords and signs of conditions. -/
def keywords : List (String × Token) :=
  [("(", .leftParen), (")", .rightParen), (",", .comma), ("NOT", .not), ("AND", .and), ("OR", .or),
    ("LIKE", .like), ("IN", .inList), ("IS", .is), ("NULL", .null), ("=", .sign .eq),
    ("<>", .sign .ne), (">", .sign .gt), (">=", .sign .ge), ("<", .sign .lt), ("<=", .sign .le)]

/-- The token that a word is, if it is not a blank. `refer` gives the parameters their values. -/
def word? (refer : String → Option Value) : List Glyph → Option (List Token)
  | [] => none
  | [name member] => some [.member member]
  | [char ' '] => some []
  | g :: gs =>
    if g = char '@' ∨ g = char '$' then
      (refer (text (g :: gs))).map fun v ↦ [.constant (.value v)]
    else (keywords.lookup (text (g :: gs))).map ([·])

/-- The tokens of some words. -/
def ofWords? (refer : String → Option Value) : List (List Glyph) → Option (List Token)
  | [] => some []
  | w :: ws => do pure ((← word? refer w) ++ (← ofWords? refer ws))

/-- The tokens of a text. -/
def tokens? (refer : String → Option Value) (gs : List Glyph) : Option (List Token) :=
  ofWords? refer (gs.splitBy joined)

end Glyph

/-! ## Writing tokens -/

namespace Token

/-- How many parameters a token takes. -/
def width : Token → Nat
  | constant _ => 1
  | _ => 0

/-- The signs of a token when the next parameter is the one at `index`. -/
def glyphs (d : Dialect) (index : Nat) : Token → List Glyph
  | member name => [.name name]
  | constant _ => Glyph.ofText (d.placeholder (Parameter.nameAt index) (index + 1))
  | t => match t.piece with
    | .text s => Glyph.ofText s
    | .hole _ => []

/-- The words of some tokens, and the blanks between them. -/
def words (d : Dialect) (index : Nat) : List Token → List (List Glyph)
  | [] => []
  | [t] => [t.glyphs d index]
  | t :: u :: ts =>
    if spaced t u then t.glyphs d index :: [.char ' '] :: words d (index + t.width) (u :: ts)
    else t.glyphs d index :: words d (index + t.width) (u :: ts)

/-- The text of some tokens in which every member name is one sign. -/
def inscription (d : Dialect) (index : Nat) (ts : List Token) : List Glyph :=
  (words d index ts).flatten

/-- The token in which a constant is replaced by the value bound for it. -/
def settle (d : Dialect) : Token → Token
  | constant c => constant (.value (c.bound d))
  | t => t

theorem text_glyphs (d : Dialect) (index : Nat) (t : Token) :
    Glyph.text (t.glyphs d index) = Template.render d index [t.piece] := by
  cases t with
  | member name =>
    rw [glyphs, Glyph.text, List.flatMap_singleton, Glyph.chars, String.ofList_toList]
    simp [piece, Template.render, Template.parts]
  | constant c => simp [glyphs, Glyph.text_ofText, piece, Template.render, Template.parts]
  | _ => simp [glyphs, Glyph.text_ofText, piece, Template.render, Template.parts]

theorem length_constants_piece (t : Token) : (Template.constants [t.piece]).length = t.width := by
  cases t <;> rfl

theorem inscription_cons (d : Dialect) (index : Nat) (t u : Token) (ts : List Token) :
    inscription d index (t :: u :: ts) = t.glyphs d index ++
      ((if spaced t u then [.char ' '] else []) ++ inscription d (index + t.width) (u :: ts)) := by
  by_cases h : spaced t u <;> simp [inscription, words, h]

/-- The inscription of some tokens is their text. -/
theorem text_inscription (d : Dialect) (index : Nat) (ts : List Token) :
    Glyph.text (inscription d index ts) = Template.render d index (spell ts) := by
  induction ts generalizing index with
  | nil => rfl
  | cons t ts ih =>
    -- what follows a token depends on the next one, so the last token is a case of its own
    cases ts with
    | nil => rw [spell, ← text_glyphs, inscription, words, List.flatten_singleton]
    | cons u ts =>
      have hspell : spell (t :: u :: ts) =
          [t.piece] ++ ((if spaced t u then [.text " "] else []) ++ spell (u :: ts)) := by
        by_cases h : spaced t u <;> simp [spell, h]
      rw [inscription_cons, hspell, Glyph.text_append, Glyph.text_append,
        Template.render_append, Template.render_append, ih, text_glyphs, length_constants_piece]
      by_cases h : spaced t u
      · rw [if_pos h, if_pos h]
        rfl
      · rw [if_neg h, if_neg h]
        rfl

/-! ## Taking the text apart -/

/-- A number is written with digits. -/
theorem isAlphanum_of_mem_toString {n : Nat} {c : Char} (h : c ∈ (toString n).toList) :
    c.isAlphanum := by
  have hdigit : c.isDigit :=
    Nat.isDigit_of_mem_toDigits (by decide) (by decide) (Nat.toList_repr ▸ h)
  rw [Char.isAlphanum, hdigit, Bool.or_true]

theorem isLetter_placeholder (d : Dialect) (index : Nat) :
    ∀ c ∈ (d.placeholder (Parameter.nameAt index) (index + 1)).toList, Glyph.isLetter c := by
  have hdigits : ∀ n : Nat, ∀ c ∈ (toString n).toList, Glyph.isLetter c := by
    intro n c hc
    rw [Glyph.isLetter, isAlphanum_of_mem_toString hc, Bool.true_or, Bool.true_or]
  intro c hc
  cases d with
  | sqlServer =>
    rw [Dialect.placeholder, Parameter.nameAt, String.toList_append, List.mem_append] at hc
    rcases hc with hc | hc
    · exact List.all_eq_true.mp (by decide : "@param".toList.all Glyph.isLetter) c hc
    · exact hdigits _ c hc
  | postgres =>
    rw [Dialect.placeholder, String.toList_append, List.mem_append] at hc
    rcases hc with hc | hc
    · exact List.all_eq_true.mp (by decide : "$".toList.all Glyph.isLetter) c hc
    · exact hdigits _ c hc

theorem isChain_ofText {s : String} (h : ∀ c ∈ s.toList, Glyph.isLetter c) :
    (Glyph.ofText s).IsChain fun g h ↦ Glyph.joined g h := by
  rw [Glyph.ofText, List.isChain_map]
  refine (List.pairwise_of_forall_mem_list fun c hc e he ↦ ?_).isChain
  simp [Glyph.joined, h c hc, h e he]

/-- A token that is neither a name nor a constant is a keyword. -/
theorem mem_keywords (t : Token) : (∃ name, t = member name) ∨ (∃ c, t = constant c) ∨
    ∃ s, (s, t) ∈ Glyph.keywords ∧ ∀ d index, t.glyphs d index = Glyph.ofText s := by
  cases t with
  | member name => exact .inl ⟨name, rfl⟩
  | constant c => exact .inr (.inl ⟨c, rfl⟩)
  | sign op => exact .inr (.inr ⟨op.sql, by cases op <;> decide, fun _ _ ↦ rfl⟩)
  | _ => exact .inr (.inr ⟨_, by decide, fun _ _ ↦ rfl⟩)

/-- The signs of a token are one word. -/
theorem glyphs_isWord (d : Dialect) (index : Nat) (t : Token) :
    t.glyphs d index ≠ [] ∧ (t.glyphs d index).IsChain fun g h ↦ Glyph.joined g h := by
  have hkeywords : ∀ e ∈ Glyph.keywords, Glyph.ofText e.1 ≠ [] ∧
      (Glyph.ofText e.1).IsChain fun g h ↦ Glyph.joined g h := by decide
  rcases mem_keywords t with ⟨name, rfl⟩ | ⟨c, rfl⟩ | ⟨s, hs, hglyphs⟩
  · exact ⟨List.cons_ne_nil _ _, List.isChain_singleton _⟩
  · refine ⟨?_, isChain_ofText (isLetter_placeholder d index)⟩
    cases d <;> simp [glyphs, Glyph.ofText, Dialect.placeholder, Parameter.nameAt]
  · rw [hglyphs]
    exact hkeywords _ hs

/-! ## Taking texts apart -/

/-- The words stand apart: no sign at the end of the first is joined to the second. -/
def Apart (v w : List Glyph) : Prop :=
  ∃ hv hw, Glyph.joined (v.getLast hv) (w.head hw) = false

/-- A blank, a parenthesis or a comma is joined to nothing. -/
theorem joined_eq_false {c : Char} (h : (Glyph.isLetter c || Glyph.isSign c) = false) (g : Glyph) :
    Glyph.joined (.char c) g = false ∧ Glyph.joined g (.char c) = false := by
  obtain ⟨hl, hs⟩ := Bool.or_eq_false_iff.mp h
  cases g <;> simp [Glyph.joined, hl, hs]

theorem apart_blank (d : Dialect) (index : Nat) (t : Token) :
    Apart (t.glyphs d index) [.char ' '] :=
  ⟨(glyphs_isWord d index t).1, List.cons_ne_nil _ _, (joined_eq_false (by decide) _).2⟩

theorem blank_apart (d : Dialect) (index : Nat) (t : Token) :
    Apart [.char ' '] (t.glyphs d index) :=
  ⟨List.cons_ne_nil _ _, (glyphs_isWord d index t).1, (joined_eq_false (by decide) _).1⟩

/-- Where no blank is written, none is needed. -/
theorem apart_of_not_spaced {t u : Token} (h : ¬spaced t u) (d : Dialect) (i j : Nat) :
    Apart (t.glyphs d i) (u.glyphs d j) := by
  refine ⟨(glyphs_isWord d i t).1, (glyphs_isWord d j u).1, ?_⟩
  have hcases : t = leftParen ∨ u = rightParen ∨ u = comma := by
    by_contra hne
    simp_all [spaced]
  rcases hcases with rfl | rfl | rfl
  · exact (joined_eq_false (by decide) _).1
  · exact (joined_eq_false (by decide) _).2
  · exact (joined_eq_false (by decide) _).2

theorem words_cons (d : Dialect) (index : Nat) (t : Token) (ts : List Token) :
    ∃ ws, words d index (t :: ts) = t.glyphs d index :: ws := by
  cases ts with
  | nil => exact ⟨_, rfl⟩
  | cons u ts => by_cases h : spaced t u <;> exact ⟨_, by rw [words]; simp only [h]; rfl⟩

theorem words_isChain (d : Dialect) (index : Nat) (ts : List Token) :
    (words d index ts).IsChain Apart := by
  fun_induction words d index ts with
  | case1 => exact List.isChain_nil
  | case2 => exact List.isChain_singleton _
  | case3 index t u ts h ih =>
    obtain ⟨ws, hws⟩ := words_cons d (index + t.width) u ts
    rw [hws] at ih ⊢
    exact .cons_cons (apart_blank d index t) (.cons_cons (blank_apart d _ u) ih)
  | case4 index t u ts h ih =>
    obtain ⟨ws, hws⟩ := words_cons d (index + t.width) u ts
    rw [hws] at ih ⊢
    exact .cons_cons (apart_of_not_spaced h d index _) ih

theorem words_isWord (d : Dialect) (index : Nat) (ts : List Token) :
    ∀ w ∈ words d index ts, w ≠ [] ∧ w.IsChain fun g h ↦ Glyph.joined g h := by
  have hblank : [Glyph.char ' '] ≠ [] ∧ [Glyph.char ' '].IsChain fun g h ↦ Glyph.joined g h :=
    ⟨List.cons_ne_nil _ _, List.isChain_singleton _⟩
  fun_induction words d index ts with
  | case1 => simp
  | case2 index t =>
    rw [List.forall_mem_singleton]
    exact glyphs_isWord d index t
  | case3 index t u ts h ih =>
    rw [List.forall_mem_cons, List.forall_mem_cons]
    exact ⟨glyphs_isWord d index t, hblank, ih⟩
  | case4 index t u ts h ih =>
    rw [List.forall_mem_cons]
    exact ⟨glyphs_isWord d index t, ih⟩

/-- The words of an inscription are those that were written. -/
theorem splitBy_inscription (d : Dialect) (index : Nat) (ts : List Token) :
    (inscription d index ts).splitBy Glyph.joined = words d index ts :=
  List.splitBy_flatten (fun h ↦ (words_isWord d index ts _ h).1 rfl)
    (fun w hw ↦ (words_isWord d index ts w hw).2) (words_isChain d index ts)

/-! ## Reading the words -/

theorem word?_keyword (refer : String → Option Value) :
    ∀ e ∈ Glyph.keywords, Glyph.word? refer (Glyph.ofText e.1) = some [e.2] := by
  simp only [Glyph.keywords, List.forall_mem_cons]
  refine ⟨rfl, rfl, rfl, rfl, rfl, rfl, rfl, rfl, rfl, rfl, rfl, rfl, rfl, rfl, rfl, rfl, ?_⟩
  simp

theorem word?_placeholder (refer : String → Option Value) (d : Dialect) (index : Nat) :
    Glyph.word? refer (Glyph.ofText (d.placeholder (Parameter.nameAt index) (index + 1))) =
      (refer (d.placeholder (Parameter.nameAt index) (index + 1))).map
        fun v ↦ [.constant (.value v)] := by
  have hword : ∀ (c : Char) (gs : List Glyph), c = '@' ∨ c = '$' →
      Glyph.word? refer (.char c :: gs) =
        (refer (Glyph.text (.char c :: gs))).map fun v ↦ [.constant (.value v)] := by
    rintro c gs (rfl | rfl) <;> cases gs <;> simp [Glyph.word?]
  have hfirst : ∀ (c : Char) (s : String), c = '@' ∨ c = '$' →
      Glyph.word? refer (Glyph.ofText (String.singleton c ++ s)) =
        (refer (String.singleton c ++ s)).map fun v ↦ [.constant (.value v)] := by
    intro c s hc
    have hsigns : Glyph.ofText (String.singleton c ++ s) = .char c :: Glyph.ofText s := by
      simp [Glyph.ofText]
    rw [hsigns, hword c _ hc, ← hsigns, Glyph.text_ofText]
  cases d with
  | sqlServer =>
    have hname : Parameter.nameAt index = String.singleton '@' ++ ("param" ++ toString index) := by
      rw [Parameter.nameAt, ← String.append_assoc]
      rfl
    rw [Dialect.placeholder, hname]
    exact hfirst _ _ (.inl rfl)
  | postgres =>
    have hname : "$" = String.singleton '$' := by decide
    rw [Dialect.placeholder, hname]
    exact hfirst _ _ (.inr rfl)

/-- A token is read back from its signs, a constant by the value that its reference has. -/
theorem word?_glyphs {refer : String → Option Value} {d : Dialect} {index : Nat} {t : Token}
    (h : ∀ c, t = constant c →
      refer (d.placeholder (Parameter.nameAt index) (index + 1)) = some (c.bound d)) :
    Glyph.word? refer (t.glyphs d index) = some [t.settle d] := by
  rcases mem_keywords t with ⟨name, rfl⟩ | ⟨c, rfl⟩ | ⟨s, hs, hglyphs⟩
  · rfl
  · rw [glyphs, word?_placeholder, h c rfl]
    rfl
  · have hsettle : t.settle d = t := by
      cases t with
      | constant c => simp [Glyph.keywords] at hs
      | _ => rfl
    rw [hglyphs, word?_keyword refer _ hs, hsettle]

/-- Every constant among the tokens is found by its reference, when the first of them is the
parameter at `index`. -/
def Resolved (refer : String → Option Value) (d : Dialect) (index : Nat) (ts : List Token) : Prop :=
  ∀ k v, ((constants ts).map (Constant.bound d))[k]? = some v →
    refer (d.placeholder (Parameter.nameAt (index + k)) (index + k + 1)) = some v

theorem Resolved.word?_glyphs {refer : String → Option Value} {d : Dialect} {index : Nat}
    {t : Token} {ts : List Token} (h : Resolved refer d index (t :: ts)) :
    Glyph.word? refer (t.glyphs d index) = some [t.settle d] := by
  refine Token.word?_glyphs fun c hc ↦ ?_
  subst hc
  exact h 0 _ rfl

theorem Resolved.tail {refer : String → Option Value} {d : Dialect} {index : Nat} {t : Token}
    {ts : List Token} (h : Resolved refer d index (t :: ts)) :
    Resolved refer d (index + t.width) ts := by
  cases t with
  | constant c =>
    intro k v hv
    rw [Nat.add_assoc index, width, Nat.add_comm 1 k]
    exact h (k + 1) v hv
  | _ => exact h

/-- **The text of some tokens is taken apart into the same tokens.** -/
theorem tokens?_inscription {refer : String → Option Value} {d : Dialect} {index : Nat}
    {ts : List Token} (h : Resolved refer d index ts) :
    Glyph.tokens? refer (inscription d index ts) = some (ts.map (settle d)) := by
  have hblank : Glyph.word? refer [.char ' '] = some [] := rfl
  rw [Glyph.tokens?, splitBy_inscription]
  -- along the words as they were written: a blank is no token, and a constant moves the index on
  fun_induction words d index ts with
  | case1 => rfl
  | case2 index t =>
    rw [Glyph.ofWords?, h.word?_glyphs]
    rfl
  | case3 index t u ts _ ih =>
    rw [Glyph.ofWords?, h.word?_glyphs, Glyph.ofWords?, hblank, ih h.tail]
    rfl
  | case4 index t u ts _ ih =>
    rw [Glyph.ofWords?, h.word?_glyphs, ih h.tail]
    rfl

end Token

end QueryChain
