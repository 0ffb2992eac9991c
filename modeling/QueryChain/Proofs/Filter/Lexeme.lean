import Mathlib.Data.List.Forall2
import Mathlib.Data.List.TakeWhile
import QueryChain.Filter.Reader

/-!
# The lexemes of filter texts

A filter text is a sequence of words, signs, names and literals with blanks between them. A
`Lexeme` says what one of these is, and `Lexeme.Spells` how it may be written down: keywords in any
case, a quote inside a string twice, inequality and the search for a substring in two ways.

A text is laid out from `Item`s, which are spelled lexemes with the blanks in front of them. The
reader stands either behind a lexeme, in front of the blanks that follow it, or ahead of one. Where
it stands decides what a keyword, a name or a run of blanks can be read as, and the lemmas of this
file say so for each kind of lexeme.
-/

namespace QueryChain.Filter

open Text

/-! ## Names -/

/-- The character can go on a member name. -/
def continuesName (c : Char) : Bool := isAlphanumeric c || c == '_' || c == '.'

/-- The character can begin a member name. -/
def startsName (c : Char) : Bool := isAlphabetic c || c == '_'

/-- The text is a member name: a letter or underscore, then letters, digits, underscores and
points. -/
def isIdentifier (m : String) : Bool :=
  match m.toList with
  | c :: r => startsName c && r.all continuesName
  | [] => false

theorem exists_of_isIdentifier {m : String} (h : isIdentifier m) :
    ∃ c r, m.toList = c :: r ∧ startsName c ∧ ∀ d ∈ r, continuesName d := by
  rw [isIdentifier] at h
  split at h
  · next c r hm =>
    rw [Bool.and_eq_true, List.all_eq_true] at h
    exact ⟨c, r, hm, h.1, h.2⟩
  · cases h

theorem continuesWord_of_startsName {c : Char} (h : startsName c) : continuesWord c := by
  rw [startsName, Bool.or_eq_true] at h
  rw [continuesWord, Bool.or_eq_true, isAlphanumeric, Bool.or_eq_true]
  exact h.imp_left .inl

theorem continuesName_of_continuesWord {c : Char} (h : continuesWord c) : continuesName c := by
  rw [continuesName, Bool.or_eq_true]
  exact .inl h

theorem continuesName_of_mem {m : String} (h : isIdentifier m) :
    ∀ c ∈ m.toList, continuesName c := by
  obtain ⟨c, r, hm, hc, hr⟩ := exists_of_isIdentifier h
  intro d hd
  rw [hm] at hd
  rcases List.mem_cons.mp hd with rfl | hd
  · exact continuesName_of_continuesWord (continuesWord_of_startsName hc)
  · exact hr d hd

/-! ## Spelling -/

inductive Keyword
  | not
  | and
  | or
  | is
  | inSet
  | null
  | true
  | false
  | contains
  | startsWith
  | endsWith
deriving DecidableEq

namespace Keyword

/-- The keyword in lower case. -/
def text : Keyword → String
  | not => "not"
  | and => "and"
  | or => "or"
  | is => "is"
  | inSet => "in"
  | null => "null"
  | true => "true"
  | false => "false"
  | contains => "contains"
  | startsWith => "startswith"
  | endsWith => "endswith"

/-- The keyword for the search for a string. -/
def ofMatch : StringMatch → Keyword
  | .contains => contains
  | .startsWith => startsWith
  | .endsWith => endsWith

/-- The keyword for a boolean. -/
def ofBool (b : Bool) : Keyword := if b then true else false

/-- The text is the keyword in some mix of cases. -/
def Spells (k : Keyword) (w : List Char) : Prop := w.map Char.toLower = k.text.toList

end Keyword

inductive Lexeme
  | word (k : Keyword)
  /-- A parenthesis or a comma. -/
  | symbol (c : Char)
  | sign (op : CompareOp)
  /-- The search for a string. -/
  | matching (kind : StringMatch)
  | name (m : String)
  | literal (v : Value)

/-- The signs for a comparison. -/
def signs : CompareOp → List (List Char)
  | .eq => [['=']]
  | .ne => [['<', '>'], ['!', '=']]
  | .gt => [['>']]
  | .ge => [['>', '=']]
  | .lt => [['<']]
  | .le => [['<', '=']]

/-- The inside of a string with its quotes written twice. -/
def doubleQuotes (cs : List Char) : List Char :=
  cs.flatMap fun c ↦ if c = quote then [quote, quote] else [c]

/-- The text is a literal for the value. A 64-bit integer has one only if it does not fit 32 bits,
and only integers, strings, booleans and `NULL` have one. -/
def SpellsLiteral : Value → List Char → Prop
  | .null, w => Keyword.null.Spells w
  | .bool b, w => (Keyword.ofBool b).Spells w
  | .int32 n, w => w = (toString n.toInt).toList
  | .int64 n, w => ¬(Int32.minValue.toInt ≤ n.toInt ∧ n.toInt ≤ Int32.maxValue.toInt) ∧
    w = (toString n.toInt).toList
  | .string s, w => w = quote :: (doubleQuotes s.toList ++ [quote])
  | _, _ => False

namespace Lexeme

/-- The text is one way to write the lexeme. -/
def Spells : Lexeme → List Char → Prop
  | word k, w => k.Spells w
  | symbol c, w => c ∈ ['(', ')', ','] ∧ w = [c]
  | sign op, w => w ∈ signs op
  | matching kind, w => (Keyword.ofMatch kind).Spells w ∨ kind = .contains ∧ w = ['~']
  | name m, w => isIdentifier m ∧ w = m.toList
  | literal v, w => SpellsLiteral v w

/-- The keyword as which a lexeme can be written. -/
def keyword? : Lexeme → Option Keyword
  | word k => some k
  | matching kind => some (.ofMatch kind)
  | literal .null => some .null
  | literal (.bool b) => some (.ofBool b)
  | _ => none

end Lexeme

/-! ## Layout -/

/-- A spelled lexeme with the blanks in front of it. -/
structure Item where
  gap : List Char
  word : List Char
  gap_ne_nil : gap ≠ []
  isSpace_of_mem_gap : ∀ c ∈ gap, isSpace c

/-- A spelled lexeme behind one space. -/
def Item.afterSpace (w : List Char) : Item := 
  ⟨[' '], w, List.cons_ne_nil _ _, List.forall_mem_singleton.mpr rfl⟩

/-- The text in front of the blanks of the first item. -/
def behind (is : List Item) : List Char := is.flatMap fun i ↦ i.gap ++ i.word

/-- The text in front of the word of the first item. -/
def ahead : List Item → List Char
  | [] => []
  | i :: is => i.word ++ behind is

/-- The items spell the lexemes, one by one. -/
def Spell (ts : List Lexeme) (is : List Item) : Prop :=
  List.Forall₂ (fun t i ↦ t.Spells i.word) ts is

theorem spell_cons {t : Lexeme} {ts : List Lexeme} {is : List Item} :
    Spell (t :: ts) is ↔ ∃ i js, t.Spells i.word ∧ Spell ts js ∧ is = i :: js :=
  List.forall₂_cons_left_iff

theorem spell_nil {is : List Item} : Spell [] is ↔ is = [] :=
  List.forall₂_nil_left_iff

theorem spell_append {ts us : List Lexeme} {is : List Item} :
    Spell (ts ++ us) is ↔ ∃ js ks, Spell ts js ∧ Spell us ks ∧ is = js ++ ks := by
  induction ts generalizing is with
  | nil => simp [spell_nil]
  | cons t ts ih =>
    simp only [List.cons_append, spell_cons, ih]
    constructor
    · rintro ⟨i, -, hi, ⟨js, ks, hjs, hks, rfl⟩, rfl⟩
      exact ⟨i :: js, ks, ⟨i, js, hi, hjs, rfl⟩, hks, rfl⟩
    · rintro ⟨-, ks, ⟨i, js, hi, hjs, rfl⟩, hks, rfl⟩
      exact ⟨i, js ++ ks, hi, ⟨js, ks, hjs, hks, rfl⟩, rfl⟩

theorem spell_singleton {t : Lexeme} {is : List Item} :
    Spell [t] is ↔ ∃ i, t.Spells i.word ∧ is = [i] := by
  simp [spell_cons, spell_nil]

section Layout

variable {i : Item} {is js : List Item}

@[simp] theorem behind_nil : behind [] = [] := rfl

theorem behind_cons : behind (i :: is) = i.gap ++ ahead (i :: is) := by
  simp [behind, ahead]

theorem behind_append : behind (is ++ js) = behind is ++ behind js :=
  List.flatMap_append

theorem length_behind_lt : (behind is).length < (behind (i :: is)).length := by
  have hgap := List.length_pos_iff.mpr i.gap_ne_nil
  rw [behind_cons, ahead, List.length_append, List.length_append]
  omega

theorem isSpace_of_mem_head?_behind {c : Char} (h : c ∈ (behind is).head?) : isSpace c := by
  rcases is with _ | ⟨i, is⟩
  · simp at h
  · have hne := i.gap_ne_nil
    obtain ⟨d, gap, hgap⟩ := List.exists_cons_of_ne_nil hne
    rw [behind_cons, hgap] at h
    have hd : d = c := by simpa using h
    exact i.isSpace_of_mem_gap c (by simp [hgap, hd])

/-- What takes no blank stops behind a word at the latest. -/
theorem takeWhile_append_behind {p : Char → Bool} (hp : ∀ c, isSpace c → p c = false)
    (w : List Char) : (w ++ behind is).takeWhile p = w.takeWhile p := by
  have hnil : (behind is).takeWhile p = [] := by
    rcases h : behind is with _ | ⟨c, r⟩
    · rfl
    · have hmem : c ∈ (behind is).head? := by simp [h]
      simp [hp c (isSpace_of_mem_head?_behind hmem)]
  rw [List.takeWhile_append]
  split
  · rename_i hlen
    rw [hnil, List.append_nil]
    exact ((List.takeWhile_prefix p).eq_of_length hlen).symm
  · rfl

theorem dropWhile_append_behind {p : Char → Bool} (hp : ∀ c, isSpace c → p c = false)
    (w : List Char) : (w ++ behind is).dropWhile p = w.dropWhile p ++ behind is := by
  have h := List.takeWhile_append_dropWhile (p := p) (l := w ++ behind is)
  rw [takeWhile_append_behind hp] at h
  refine List.append_cancel_left (h.trans ?_)
  rw [← List.append_assoc, List.takeWhile_append_dropWhile]

end Layout

/-! ## Classes of characters -/

theorem toNat_of_isAlpha {c : Char} (h : c.isAlpha) :
    'A'.toNat ≤ c.toNat ∧ c.toNat ≤ 'z'.toNat := by
  have hcases : c.isUpper ∨ c.isLower := Bool.or_eq_true_iff.mp h
  rcases hcases with hc | hc
  · obtain ⟨hle, hge⟩ : 'A'.val ≤ c.val ∧ c.val ≤ 'Z'.val := of_decide_eq_true hc
    exact ⟨hle, hge.trans (by decide)⟩
  · obtain ⟨hle, hge⟩ : decide ('a'.val ≤ c.val) ∧ decide (c.val ≤ 'z'.val) :=
      Bool.and_eq_true_iff.mp hc
    exact ⟨le_trans (by decide) (of_decide_eq_true hle), of_decide_eq_true hge⟩

theorem isAlphabetic_of_isAlpha {c : Char} (h : c.isAlpha) : isAlphabetic c := by
  have hlt : c.toNat < 128 := (toNat_of_isAlpha h).2.trans_lt (by decide)
  rw [isAlphabetic, if_pos hlt, h]

theorem isAlpha_of_isLower_toLower {c : Char} (h : c.toLower.isLower) : c.isAlpha := by
  by_cases hc : 'A'.val ≤ c.val ∧ c.val ≤ 'Z'.val
  · have hupper : c.isUpper := decide_eq_true hc
    exact Bool.or_eq_true_iff.mpr (.inl hupper)
  · have hlower : c.toLower = c := dif_neg hc
    exact Bool.or_eq_true_iff.mpr (.inr (hlower ▸ h))

theorem continuesWord_of_isLower_toLower {c : Char} (h : c.toLower.isLower) : continuesWord c := by
  rw [continuesWord, isAlphanumeric, isAlphabetic_of_isAlpha (isAlpha_of_isLower_toLower h)]
  rfl

/-- The code points of the blank characters. -/
def blankCodes : List Nat :=
  List.range' 0x9 5 ++ [0x20, 0x85, 0xA0, 0x1680] ++ List.range' 0x2000 11 ++
    [0x2028, 0x2029, 0x202F, 0x205F, 0x3000]

theorem toNat_mem_blankCodes {c : Char} (h : isBlank c) : c.toNat ∈ blankCodes := by
  simp only [isBlank, Bool.or_eq_true, Bool.and_eq_true, decide_eq_true_eq, beq_iff_eq] at h
  simp only [blankCodes, List.mem_append, List.mem_range'_1, List.mem_cons, List.not_mem_nil,
    or_false]
  omega

/-- No name holds a blank. -/
theorem continuesName_of_isBlank {c : Char} (h : isBlank c) : continuesName c = false := by
  have hcodes : ∀ n ∈ blankCodes, continuesName (Char.ofNat n) = false := by decide +kernel
  have := hcodes _ (toNat_mem_blankCodes h)
  rwa [Char.ofNat_toNat] at this

theorem isBlank_of_continuesName {c : Char} (h : continuesName c) : isBlank c = false :=
  Bool.eq_false_iff.mpr fun hc ↦ by
    rw [continuesName_of_isBlank hc] at h
    cases h

theorem isBlank_of_isSpace {c : Char} (h : isSpace c) : isBlank c := by
  simp only [isSpace, Bool.or_eq_true, beq_iff_eq] at h
  rcases h with ((rfl | rfl) | rfl) | rfl <;> decide

theorem continuesName_of_isSpace {c : Char} (h : isSpace c) : continuesName c = false :=
  continuesName_of_isBlank (isBlank_of_isSpace h)

theorem continuesWord_of_isSpace {c : Char} (h : isSpace c) : continuesWord c = false := by
  have hname := continuesName_of_isSpace h
  rw [continuesName, Bool.or_eq_false_iff] at hname
  exact hname.1

theorem toNat_le_of_isDigit {c : Char} (h : c.isDigit) : c.toNat ≤ '9'.toNat := by
  obtain ⟨-, hle⟩ : decide ('0'.val ≤ c.val) ∧ decide (c.val ≤ '9'.val) :=
    Bool.and_eq_true_iff.mp h
  exact of_decide_eq_true hle

theorem continuesWord_of_isDigit {c : Char} (h : c.isDigit) : continuesWord c := by
  have hlt : c.toNat < 128 := (toNat_le_of_isDigit h).trans_lt (by decide)
  simp [continuesWord, isAlphanumeric, isNumeric, hlt, h]

theorem isDigit_of_isSpace {c : Char} (h : isSpace c) : c.isDigit = false := by
  refine Bool.eq_false_iff.mpr fun hdigit ↦ ?_
  have hword := continuesWord_of_isDigit hdigit
  rw [continuesWord_of_isSpace h] at hword
  cases hword

/-! ## Keywords ahead -/

namespace Keyword

variable {k k' : Keyword} {w : List Char}

theorem isLower_of_mem_text {c : Char} (h : c ∈ k.text.toList) : c.isLower := by
  have hall : ∀ k : Keyword, k.text.toList.all Char.isLower := by
    intro k
    cases k <;> rfl
  exact List.all_eq_true.mp (hall k) c h

theorem text_ne_nil (k : Keyword) : k.text.toList ≠ [] := by
  cases k <;> simp [text]

theorem text_inj (h : k.text.toList = k'.text.toList) : k = k' := by
  have htext : k.text = k'.text := String.toList_inj.mp h
  revert htext
  cases k <;> cases k' <;> decide

namespace Spells

theorem isLower_toLower (h : k.Spells w) : ∀ c ∈ w, c.toLower.isLower := by
  intro c hc
  refine isLower_of_mem_text (k := k) ?_
  rw [← h]
  exact List.mem_map_of_mem hc

theorem continuesWord (h : k.Spells w) : ∀ c ∈ w, continuesWord c :=
  fun c hc ↦ continuesWord_of_isLower_toLower (h.isLower_toLower c hc)

theorem length_eq (h : k.Spells w) : w.length = k.text.toList.length := by
  rw [← h, List.length_map]

theorem takeWhile_eq (h : k.Spells w) : w.takeWhile Filter.continuesWord = w :=
  List.takeWhile_eq_self_iff.mpr h.continuesWord

theorem inj (h : k.Spells w) (h' : k'.Spells w) : k = k' :=
  text_inj (h.symm.trans h')

theorem not_nil : ¬k.Spells [] := fun h ↦ k.text_ne_nil h.symm

/-- A word that begins with another character than a letter is no keyword. -/
theorem not_of_head {c : Char} (hc : ¬c.toLower.isLower) :
    ¬k.Spells ((c :: w).takeWhile Filter.continuesWord) := by
  intro h
  rw [List.takeWhile_cons] at h
  split at h
  · have hmem : c.toLower ∈ k.text.toList := by
      rw [← h]
      exact List.mem_cons_self
    exact hc (isLower_of_mem_text hmem)
  · exact not_nil h

end Spells

end Keyword

/-- A keyword is read if it is the whole word that the text begins with. -/
theorem keyword_of_spells {k : Keyword} {s : List Char}
    (h : k.Spells (s.takeWhile continuesWord)) :
    keyword k.text s = .ok ((), s.dropWhile continuesWord) := by
  have hs := List.takeWhile_append_dropWhile (p := continuesWord) (l := s)
  -- the word is as long as the keyword
  have hdrop : s.drop k.text.toList.length = s.dropWhile continuesWord := by
    conv_lhs => rw [← hs, ← h.length_eq, List.drop_left]
  have htake : s.take k.text.toList.length = s.takeWhile continuesWord := by
    conv_lhs => rw [← hs, ← h.length_eq, List.take_left]
  have hfolded : startsFolded k.text.toList s := by
    rw [startsFolded, htake, h, beq_self_eq_true]
  have hend : ((s.dropWhile continuesWord).head?.any continuesWord) = false := by
    rcases hr : s.dropWhile continuesWord with _ | ⟨c, r⟩
    · rfl
    · have hne : s.dropWhile continuesWord ≠ [] := by simp [hr]
      simpa [hr] using List.head_dropWhile_not continuesWord hne
  simp [keyword, hfolded, hdrop, hend]

/-- Otherwise no keyword is read. -/
theorem keyword_of_not_spells {k : Keyword} {s : List Char}
    (h : ¬k.Spells (s.takeWhile continuesWord)) : keyword k.text s = .error s := by
  rw [keyword, if_neg]
  intro hread
  rw [Bool.and_eq_true, startsFolded, beq_iff_eq, Bool.not_eq_true'] at hread
  obtain ⟨hfolded, hend⟩ := hread
  -- the text begins with the keyword and no word goes on behind it, so the keyword is the word
  refine h ?_
  have hword : ∀ c ∈ s.take k.text.toList.length, continuesWord c :=
    Keyword.Spells.continuesWord hfolded
  have hnil : (s.drop k.text.toList.length).takeWhile continuesWord = [] := by
    rcases hr : s.drop k.text.toList.length with _ | ⟨c, r⟩
    · rfl
    · rw [hr] at hend
      exact List.takeWhile_cons_of_neg (by simpa using hend)
  rw [← List.take_append_drop k.text.toList.length s, List.takeWhile_append_of_pos hword, hnil,
    List.append_nil]
  exact hfolded

/-! ## Shapes of spelled lexemes -/

/-- The text begins and ends with characters that are not blank. -/
def IsEdged (w : List Char) : Prop :=
  (∃ c r, w = c :: r ∧ isBlank c = false) ∧ ∃ c r, w = r ++ [c] ∧ isBlank c = false

theorem IsEdged.of_forall {w : List Char} (hne : w ≠ []) (h : ∀ c ∈ w, isBlank c = false) :
    IsEdged w := by
  refine ⟨?_, w.getLast hne, w.dropLast, (List.dropLast_append_getLast hne).symm,
    h _ (List.getLast_mem hne)⟩
  obtain ⟨c, r, rfl⟩ := List.exists_cons_of_ne_nil hne
  exact ⟨c, r, rfl, h c List.mem_cons_self⟩

theorem Keyword.Spells.isEdged {k : Keyword} {w : List Char} (h : k.Spells w) : IsEdged w := by
  refine .of_forall (fun hw ↦ not_nil (hw ▸ h)) fun c hc ↦ isBlank_of_continuesName ?_
  exact continuesName_of_continuesWord (h.continuesWord c hc)

/-- The digits of a number, with a minus in front of a negative one. -/
theorem toList_toString (n : Int) :
    (toString n).toList = (if n < 0 then ['-'] else []) ++ Nat.toDigits 10 n.natAbs := by
  rw [Int.toString_eq_repr, Int.repr_eq_if]
  by_cases hn : 0 ≤ n
  · rw [if_pos hn, if_neg (by omega), Nat.toList_repr, List.nil_append]
    congr 1
    omega
  · rw [if_neg hn, if_pos (by omega), String.toList_append, Nat.toList_repr]
    congr 2
    omega

theorem isDigit_of_mem_toDigits {n : Nat} {c : Char} (h : c ∈ Nat.toDigits 10 n) : c.isDigit :=
  Nat.isDigit_of_mem_toDigits (by decide) (by decide) h

theorem isEdged_toString (n : Int) : IsEdged (toString n).toList := by
  rw [toList_toString]
  refine .of_forall (by simp [Nat.toDigits_ne_nil]) fun c hc ↦ ?_
  rcases List.mem_append.mp hc with hc | hc
  · have : c = '-' := by
      split at hc
      · exact List.mem_singleton.mp hc
      · cases hc
    rw [this]
    decide
  · exact isBlank_of_continuesName (continuesName_of_continuesWord
      (continuesWord_of_isDigit (isDigit_of_mem_toDigits hc)))

theorem not_isLower_toLower_of_isDigit {c : Char} (h : c.isDigit) : ¬c.toLower.isLower := by
  intro hc
  have hlt : c.toNat < 'A'.toNat := (toNat_le_of_isDigit h).trans_lt (by decide)
  exact absurd (toNat_of_isAlpha (isAlpha_of_isLower_toLower hc)).1 hlt.not_ge

/-- The first character of a number is no letter and no quote. -/
theorem exists_toList_toString (n : Int) :
    ∃ c r, (toString n).toList = c :: r ∧ ¬c.toLower.isLower ∧ c ≠ quote := by
  rw [toList_toString]
  split
  · exact ⟨_, _, rfl, by decide, by decide⟩
  · obtain ⟨c, r, hcr⟩ := List.exists_cons_of_ne_nil (Nat.toDigits_ne_nil (b := 10) (n := n.natAbs))
    have hc : c.isDigit := isDigit_of_mem_toDigits (n := n.natAbs) (hcr ▸ List.mem_cons_self)
    refine ⟨c, r, hcr, not_isLower_toLower_of_isDigit hc, ?_⟩
    rintro rfl
    cases hc

namespace Lexeme

variable {t : Lexeme} {w : List Char}

/-- What is no name is a keyword or begins with a character that is no letter. -/
theorem Spells.keyword_or_head (h : t.Spells w) (hname : ∀ m, t ≠ name m) :
    (∃ k, t.keyword? = some k ∧ k.Spells w) ∨ ∃ c r, w = c :: r ∧ ¬c.toLower.isLower := by
  cases t with
  | word k => exact .inl ⟨k, rfl, h⟩
  | symbol c =>
    obtain ⟨hc, rfl⟩ := h
    refine .inr ⟨c, [], rfl, ?_⟩
    simp only [List.mem_cons, List.not_mem_nil, or_false] at hc
    rcases hc with rfl | rfl | rfl <;> decide
  | sign op =>
    refine .inr ?_
    cases op <;> simp only [Spells, signs, List.mem_cons, List.not_mem_nil, or_false] at h
    case ne => rcases h with rfl | rfl <;> exact ⟨_, _, rfl, by decide⟩
    all_goals subst h; exact ⟨_, _, rfl, by decide⟩
  | matching kind =>
    rcases h with h | ⟨-, rfl⟩
    · exact .inl ⟨_, rfl, h⟩
    · exact .inr ⟨_, _, rfl, by decide⟩
  | name m => exact absurd rfl (hname m)
  | literal v =>
    cases v with
    | null => exact .inl ⟨_, rfl, h⟩
    | bool b => exact .inl ⟨_, rfl, h⟩
    | int32 n =>
      obtain rfl : w = _ := h
      obtain ⟨c, r, hcr, hc, -⟩ := exists_toList_toString n.toInt
      exact .inr ⟨c, r, hcr, hc⟩
    | int64 n =>
      obtain ⟨-, rfl⟩ : _ ∧ w = _ := h
      obtain ⟨c, r, hcr, hc, -⟩ := exists_toList_toString n.toInt
      exact .inr ⟨c, r, hcr, hc⟩
    | string s =>
      obtain rfl : w = _ := h
      exact .inr ⟨_, _, rfl, by decide⟩
    | _ => cases h

theorem Spells.isEdged (h : t.Spells w) : IsEdged w := by
  cases t with
  | word k => exact Keyword.Spells.isEdged h
  | symbol c =>
    obtain ⟨hc, rfl⟩ := h
    refine .of_forall (List.cons_ne_nil _ _) (List.forall_mem_singleton.mpr ?_)
    simp only [List.mem_cons, List.not_mem_nil, or_false] at hc
    rcases hc with rfl | rfl | rfl <;> rfl
  | sign op =>
    have hall : ∀ w ∈ signs op, w ≠ [] ∧ w.all fun c ↦ !isBlank c := by
      cases op <;> decide
    refine .of_forall (hall w h).1 fun c hc ↦ ?_
    simpa using List.all_eq_true.mp (hall w h).2 c hc
  | matching kind =>
    rcases h with h | ⟨-, rfl⟩
    · exact h.isEdged
    · exact .of_forall (List.cons_ne_nil _ _) (List.forall_mem_singleton.mpr rfl)
  | name m =>
    obtain ⟨hm, rfl⟩ := h
    obtain ⟨c, r, hcr, -, -⟩ := exists_of_isIdentifier hm
    have hne : m.toList ≠ [] := by simp [hcr]
    exact .of_forall hne fun d hd ↦ isBlank_of_continuesName (continuesName_of_mem hm d hd)
  | literal v =>
    cases v with
    | null => exact Keyword.Spells.isEdged h
    | bool b => exact Keyword.Spells.isEdged h
    | int32 n =>
      obtain rfl : w = _ := h
      exact isEdged_toString _
    | int64 n =>
      obtain ⟨-, rfl⟩ : _ ∧ w = _ := h
      exact isEdged_toString _
    | string s =>
      obtain rfl : w = _ := h
      exact ⟨⟨_, _, rfl, by decide⟩, quote, _, (List.cons_append ..).symm, by decide⟩
    | _ => cases h

end Lexeme

end QueryChain.Filter
