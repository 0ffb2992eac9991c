import Mathlib.Logic.Relation
import QueryChain.Proofs.Filter.Grammar
import QueryChain.Proofs.Filter.Quotation

/-!
# The pieces of filter texts

Every reader that succeeds goes through its text in whole pieces: strings between quotes, numbers,
words, and single characters that are neither. Which piece comes next depends on the text behind it
as well, since a quote can go on with a string and a digit with a number or a word. So a piece
relates a text to what is left of it, and no piece can be cut short: `Filter.filter_goesBy`.

Outside of strings a digit is then part of a number or of a word, and what stands in front of it
tells which: `Filter.exists_number_of_standsApart`.
-/

namespace QueryChain

open Relation

/-! ## Readers that go by steps -/

namespace Text.Reader

variable {α β : Type} {p q : Reader α} {step : List Char → List Char → Prop}

/-- When the reader succeeds, it has gone through its text by steps of the given kind. -/
def GoesBy (step : List Char → List Char → Prop) (p : Reader α) : Prop :=
  ∀ s a r, p s = .ok (a, r) → ReflTransGen step s r

namespace GoesBy

theorem pure (a : α) : GoesBy step (Pure.pure a) := by
  intro s b r h
  cases h
  exact .refl

theorem fail : GoesBy step (Reader.fail : Reader α) := by
  intro s a r h
  cases h

theorem bind {f : α → Reader β} (hp : GoesBy step p) (hf : ∀ a, GoesBy step (f a)) :
    GoesBy step (p >>= f) := by
  intro s b r h
  obtain ⟨a, r', ha, hb⟩ := bind_eq_ok h
  exact (hp s a r' ha).trans (hf a r' b r hb)

theorem orElse (hp : GoesBy step p) (hq : GoesBy step q) : GoesBy step (p <|> q) := by
  intro s a r h
  exact (orElse_eq_ok h).elim (hp s a r) (hq s a r)

theorem optional (hp : GoesBy step p) : GoesBy step (Reader.optional p) := by
  intro s a r h
  rw [Reader.optional] at h
  rcases hs : p s with e | ⟨b, r'⟩ <;> rw [hs] at h <;> cases h
  · exact .refl
  · exact hp s b r hs

theorem many (hp : GoesBy step p) : GoesBy step (Reader.many p) := by
  intro s as r h
  have hr : (Reader.rounds p s).2 = r := congrArg Prod.snd (Except.ok.inj h)
  exact hr ▸ rounds_related (fun _ ↦ .refl) .trans hp s

end GoesBy

end Text.Reader

namespace Filter

open Text Reader

/-! ## Pieces -/

/-- The character stands for itself wherever it stands outside of strings and words. -/
def isPlain (c : Char) : Bool := c != quote && c != '-' && !c.isDigit

/-- A piece in front of a text, as a step to the text behind it. -/
inductive Piece : List Char → List Char → Prop
  | symbol {c : Char} {r : List Char} (hc : isPlain c) : Piece (c :: r) r
  | word {c : Char} {w r : List Char} (hc : startsName c) (hw : ∀ d ∈ w, continuesName d) :
    Piece (c :: (w ++ r)) r
  | string {s r : List Char} {out : String} (h : BeginsQuoted s out r) : Piece s r
  | number {s r : List Char} {v : Value} (h : number s = .ok (v, r)) : Piece s r

theorem goes_of_isPlain {w : List Char} (h : ∀ c ∈ w, isPlain c) (r : List Char) :
    ReflTransGen Piece (w ++ r) r := by
  induction w with
  | nil => exact .refl
  | cons c w ih =>
    obtain ⟨hc, hw⟩ := List.forall_mem_cons.mp h
    exact .head (.symbol hc) (ih hw)

theorem takeWhile_goesBy {f : Char → Bool} (hf : ∀ c, f c → isPlain c) :
    GoesBy Piece (Reader.takeWhile f) := by
  intro s w r h
  cases h
  conv_lhs => rw [← List.takeWhile_append_dropWhile (p := f) (l := s)]
  exact goes_of_isPlain (fun c hc ↦ hf c (List.mem_takeWhile_imp hc)) _

theorem takeWhile1_goesBy {f : Char → Bool} (hf : ∀ c, f c → isPlain c) :
    GoesBy Piece (Reader.takeWhile1 f) := by
  intro s w r h
  rw [Reader.takeWhile1] at h
  split at h
  · cases h
  · exact takeWhile_goesBy hf s w r h

theorem char_goesBy {c : Char} (hc : isPlain c) : GoesBy Piece (Reader.char c) := by
  intro s a r h
  rcases s with _ | ⟨d, s⟩
  · cases h
  · rw [Reader.char] at h
    split at h
    · next hd =>
      cases h
      exact .single (.symbol (hd ▸ hc))
    · cases h

theorem literal_goesBy_of_isPlain {t : List Char} (ht : ∀ c ∈ t, isPlain c) :
    GoesBy Piece (Reader.literal t) := by
  intro s a r h
  rw [Reader.literal] at h
  split at h
  · next hprefix =>
    cases h
    obtain ⟨r, rfl⟩ := List.isPrefixOf_iff_prefix.mp hprefix
    rw [List.drop_left]
    exact goes_of_isPlain ht r
  · cases h

/-! ## The readers of a filter -/

theorem isPlain_of_isSpace {c : Char} (h : isSpace c) : isPlain c := by
  simp only [isSpace, Bool.or_eq_true, beq_iff_eq] at h
  rcases h with ((rfl | rfl) | rfl) | rfl <;> decide

theorem isPlain_of_isLower_toLower {c : Char} (h : c.toLower.isLower) : isPlain c := by
  have hquote : c ≠ quote := by
    rintro rfl
    revert h
    decide
  have hminus : c ≠ '-' := by
    rintro rfl
    revert h
    decide
  have hdigit : c.isDigit = false :=
    Bool.eq_false_iff.mpr fun hc ↦ not_isLower_toLower_of_isDigit hc h
  simp [isPlain, hquote, hminus, hdigit]

theorem keyword_goesBy (k : Keyword) : GoesBy Piece (keyword k.text) := by
  intro s a r h
  rw [keyword] at h
  split at h
  · next hread =>
    cases h
    rw [Bool.and_eq_true, startsFolded, beq_iff_eq] at hread
    have hspells : k.Spells (s.take k.text.toList.length) := hread.1
    conv_lhs => rw [← List.take_append_drop k.text.toList.length s]
    exact goes_of_isPlain (fun c hc ↦ isPlain_of_isLower_toLower (hspells.isLower_toLower c hc)) _
  · cases h

theorem identifier_goesBy : GoesBy Piece identifier := by
  intro s m r h
  rcases s with _ | ⟨c, s⟩
  · cases h
  · rw [identifier_cons] at h
    split at h
    · next hc =>
      cases h
      have hsplit := List.takeWhile_append_dropWhile (p := continuesName) (l := s)
      have hword : Piece (c :: (s.takeWhile continuesName ++ s.dropWhile continuesName))
          (s.dropWhile continuesName) :=
        .word hc fun d hd ↦ List.mem_takeWhile_imp hd
      rw [hsplit] at hword
      exact .single hword
    · cases h

theorem sign_goesBy : GoesBy Piece sign := by
  have hsign {t : List Char} (ht : t.all isPlain) (op : CompareOp) :
      GoesBy Piece (do Reader.literal t; pure op : Reader CompareOp) :=
    (literal_goesBy_of_isPlain (List.all_eq_true.mp ht)).bind fun _ ↦ .pure _
  exact .orElse (hsign rfl _) <| .orElse (hsign rfl _) <| .orElse (hsign rfl _) <|
    .orElse (hsign rfl _) <| .orElse (hsign rfl _) <| .orElse (hsign rfl _) (hsign rfl _)

theorem holdsOfTokens_goesBy : HoldsOfTokens (GoesBy Piece) where
  pure := .pure
  fail := .fail
  bind := .bind
  orElse := .orElse
  optional := .optional
  many := .many
  spaces := (takeWhile_goesBy fun _ ↦ isPlain_of_isSpace).bind fun _ ↦ .pure _
  spaces1 := (takeWhile1_goesBy fun _ ↦ isPlain_of_isSpace).bind fun _ ↦ .pure _
  keyword := keyword_goesBy
  symbol c hc := char_goesBy (List.all_eq_true.mp rfl c hc)
  sign := sign_goesBy
  identifier := identifier_goesBy
  quotedString _ _ _ h := .single (.string (beginsQuoted_of_quotedString h))
  number _ _ _ h := .single (.number h)

theorem filter_goesBy : GoesBy Piece filter :=
  fun s ↦ holdsOfTokens_goesBy.disjunction_unary (s.length + 1) s

/-! ## Digits inside pieces -/

/-- The character begins an integer. -/
def startsInteger (c : Char) : Bool := c == '-' || c.isDigit

theorem startsInteger_iff {c : Char} : startsInteger c ↔ c = '-' ∨ c.isDigit := by
  rw [startsInteger, Bool.or_eq_true, beq_iff_eq]

theorem continuesName_of_isDigit {c : Char} (h : c.isDigit) : continuesName c :=
  continuesName_of_continuesWord (continuesWord_of_isDigit h)

theorem ne_quote_of_startsInteger {c : Char} (h : startsInteger c) : c ≠ quote := by
  rintro rfl
  exact absurd h (by decide)

theorem not_startsName_of_startsInteger {c : Char} (h : startsInteger c) : ¬startsName c := by
  intro hname
  rcases startsInteger_iff.mp h with rfl | hdigit
  · exact absurd hname (by decide)
  · have hle := toNat_le_of_isDigit hdigit
    have hlt : c.toNat < 128 := hle.trans_lt (by decide)
    rw [startsName, Bool.or_eq_true, beq_iff_eq, isAlphabetic, if_pos hlt] at hname
    rcases hname with hname | rfl
    · exact absurd ((toNat_of_isAlpha hname).1.trans hle) (by decide)
    · exact absurd hdigit (by decide)

/-- A number begins like an integer and goes on with digits and perhaps a point. -/
theorem exists_split_of_number {s r : List Char} {v : Value} (h : number s = .ok (v, r)) :
    ∃ c w, s = c :: (w ++ r) ∧ startsInteger c ∧ ∀ d ∈ w, continuesName d := by
  obtain ⟨sign, ds, w, rfl, hsign, hne, hds, hw⟩ : ∃ sign ds w, s = sign ++ (ds ++ (w ++ r)) ∧
      (sign = [] ∨ sign = ['-']) ∧ ds ≠ [] ∧ (∀ d ∈ ds, d.isDigit) ∧
      ∀ d ∈ w, continuesName d := by
    have hread := h ▸ numberRead s
    cases hread with
    | @integer sign ds _ _ _ hs hsign hne hds hv => exact ⟨sign, ds, [], hs, hsign, hne, hds, nofun⟩
    | @double sign ds fs _ x hs hsign hne hds hfs =>
      refine ⟨sign, ds, '.' :: fs, hs, hsign, hne, hds, List.forall_mem_cons.mpr ⟨by decide, ?_⟩⟩
      exact fun d hd ↦ continuesName_of_isDigit (hfs d hd)
  have hname : ∀ d ∈ ds, continuesName d := fun d hd ↦ continuesName_of_isDigit (hds d hd)
  rcases hsign with rfl | rfl
  · obtain ⟨c, cs, rfl⟩ := List.exists_cons_of_ne_nil hne
    refine ⟨c, cs ++ w, by simp, startsInteger_iff.mpr (.inr (hds c List.mem_cons_self)), ?_⟩
    exact List.forall_mem_append.mpr ⟨(List.forall_mem_cons.mp hname).2, hw⟩
  · exact ⟨'-', ds ++ w, by simp, rfl, List.forall_mem_append.mpr ⟨hname, hw⟩⟩

theorem count_quote_eq_zero {w : List Char} (h : ∀ d ∈ w, continuesName d) : w.count quote = 0 :=
  List.count_eq_zero.mpr fun hw ↦ absurd (h quote hw) (by decide)

theorem count_quote_doubleQuotes (cs : List Char) :
    (doubleQuotes cs).count quote = 2 * cs.count quote := by
  induction cs with
  | nil => rfl
  | cons c cs ih =>
    by_cases hc : c = quote
    · rw [hc, doubleQuotes_cons_quote, List.count_cons_self, List.count_cons_self,
        List.count_cons_self, ih]
      omega
    · rw [doubleQuotes_cons hc, List.count_cons_of_ne hc, List.count_cons_of_ne hc, ih]

/-- In front of a character inside a string the quotes come in pairs. -/
theorem count_quote_of_doubleQuotes {cs before behind : List Char} {c : Char} (hc : c ≠ quote)
    (h : doubleQuotes cs ++ [quote] = before ++ c :: behind) : before.count quote % 2 = 0 := by
  induction cs generalizing before with
  | nil =>
    rcases before with _ | ⟨d, before⟩
    · rfl
    · have hnil : [] = before ++ c :: behind := (List.cons.inj h).2
      simp at hnil
  | cons d cs ih =>
    rcases before with _ | ⟨d', before⟩
    · rfl
    by_cases hd : d = quote
    · simp only [hd, doubleQuotes_cons_quote, List.cons_append, List.cons.injEq] at h
      obtain ⟨rfl, h⟩ := h
      rcases before with _ | ⟨d', before⟩
      · exact absurd (List.cons.inj h).1.symm hc
      · simp only [List.cons_append, List.cons.injEq] at h
        obtain ⟨rfl, h⟩ := h
        have hbefore := ih h
        rw [List.count_cons_self, List.count_cons_self]
        omega
    · simp only [doubleQuotes_cons hd, List.cons_append, List.cons.injEq] at h
      obtain ⟨rfl, h⟩ := h
      rw [List.count_cons_of_ne hd]
      exact ih h

/-- The character in front of another one in a word or a number. -/
theorem exists_getLast?_of_split {c d : Char} {w before behind : List Char}
    (hc : c = '-' ∨ continuesName c) (hw : ∀ d ∈ w, continuesName d)
    (h : c :: w = before ++ d :: behind) (hne : before ≠ []) :
    d ≠ '-' ∧ ∃ e ∈ before.getLast?, e = '-' ∨ continuesName e := by
  obtain ⟨c', before, rfl⟩ := List.exists_cons_of_ne_nil hne
  obtain ⟨rfl, rfl⟩ := List.cons.inj h
  constructor
  · rintro rfl
    exact absurd (hw '-' (List.mem_append_right _ List.mem_cons_self)) (by decide)
  · refine ⟨_, List.getLast?_eq_some_getLast hne, ?_⟩
    rcases List.mem_cons.mp (List.getLast_mem hne) with he | he
    · rwa [he]
    · exact .inr (hw _ (List.mem_append_left _ he))

/-- What a piece takes of its text. A digit or a minus in it, outside of strings, begins a number
or stands behind a minus or a character of a name. -/
theorem Piece.exists_split {s r : List Char} (h : Piece s r) :
    ∃ taken, s = taken ++ r ∧ taken.count quote % 2 = 0 ∧
      ∀ before c behind, taken = before ++ c :: behind → startsInteger c →
        before.count quote % 2 = 0 →
        (before = [] ∧ ∃ v, Filter.number s = .ok (v, r)) ∨
          c ≠ '-' ∧ ∃ d ∈ before.getLast?, d = '-' ∨ continuesName d := by
  cases h with
  | @symbol c _ hc =>
    have hquote : c ≠ quote := by
      rintro rfl
      exact absurd hc (by decide)
    refine ⟨[c], rfl, by rw [List.count_singleton, if_neg (by simpa using hquote)], ?_⟩
    intro before d behind hsplit hd _
    rcases before with _ | ⟨c', before⟩
    · obtain rfl := (List.cons.inj hsplit).1
      simp only [isPlain, Bool.and_eq_true, bne_iff_ne, Bool.not_eq_true'] at hc
      rcases startsInteger_iff.mp hd with hd | hd
      · exact absurd hd hc.1.2
      · rw [hc.2] at hd
        cases hd
    · have hnil : [] = before ++ d :: behind := (List.cons.inj hsplit).2
      simp at hnil
  | @word c w _ hc hw =>
    have hname : continuesName c :=
      continuesName_of_continuesWord (continuesWord_of_startsName hc)
    have hall : ∀ d ∈ c :: w, continuesName d := List.forall_mem_cons.mpr ⟨hname, hw⟩
    refine ⟨c :: w, rfl, by rw [count_quote_eq_zero hall], fun before d behind hsplit hd _ ↦ ?_⟩
    refine .inr (exists_getLast?_of_split (.inr hname) hw hsplit ?_)
    rintro rfl
    obtain rfl := (List.cons.inj hsplit).1
    exact not_startsName_of_startsInteger hd hc
  | @string _ _ out h =>
    obtain ⟨rfl, -⟩ := h
    refine ⟨quote :: (doubleQuotes out.toList ++ [quote]), by simp, ?_, ?_⟩
    · rw [List.count_cons_self, List.count_append, count_quote_doubleQuotes,
        List.count_singleton_self]
      omega
    · intro before c behind hsplit hc heven
      have hquote : c ≠ quote := ne_quote_of_startsInteger hc
      rcases before with _ | ⟨d, before⟩
      · exact absurd (List.cons.inj hsplit).1.symm hquote
      · -- the quote in front of the string is still without its other half
        obtain ⟨rfl, hinside⟩ := List.cons.inj hsplit
        have hpairs := count_quote_of_doubleQuotes hquote hinside
        rw [List.count_cons_self] at heven
        omega
  | @number _ _ v h =>
    obtain ⟨c, w, rfl, hc, hw⟩ := exists_split_of_number h
    refine ⟨c :: w, rfl, ?_, fun before d behind hsplit _ _ ↦ ?_⟩
    · rw [List.count_cons_of_ne (ne_quote_of_startsInteger hc), count_quote_eq_zero hw]
    · by_cases hne : before = []
      · exact .inl ⟨hne, v, h⟩
      · have hsign : c = '-' ∨ continuesName c :=
          (startsInteger_iff.mp hc).imp_right continuesName_of_isDigit
        exact .inr (exists_getLast?_of_split hsign hw hsplit hne)

/-- Nothing in front of an integer makes it part of something else: all strings are closed there,
and without a minus of its own it stands behind none, nor behind a character of a name. -/
structure StandsApart (before integer : List Char) : Prop where
  outside : before.count quote % 2 = 0
  first : '-' ∈ integer.head? ∨ ∀ d ∈ before.getLast?, d ≠ '-' ∧ continuesName d = false

namespace StandsApart

variable {integer before taken : List Char}

theorem nil (integer : List Char) : StandsApart [] integer := ⟨rfl, .inr nofun⟩

/-- What stands in front can be left out if it has its quotes in pairs. -/
theorem of_append (h : StandsApart (taken ++ before) integer)
    (htaken : taken.count quote % 2 = 0) : StandsApart before integer := by
  refine ⟨?_, h.first.imp_right fun hfirst d hd ↦ hfirst d ?_⟩
  · have heven := h.outside
    rw [List.count_append] at heven
    omega
  · rw [List.getLast?_append, Option.mem_def.mp hd]
    rfl

end StandsApart

/-- If a text is made of pieces, a number is read from every place where an integer stands apart.
The induction is on the pieces in front of the place. -/
theorem exists_number_of_standsApart {s before w : List Char} {c : Char}
    (h : ReflTransGen Piece s []) (hs : s = before ++ c :: w) (hc : startsInteger c)
    (hbefore : StandsApart before (c :: w)) : ∃ v r, number (c :: w) = .ok (v, r) := by
  induction h using ReflTransGen.head_induction_on generalizing before with
  | refl => simp at hs
  | @head s s' hpiece _ ih =>
    obtain ⟨taken, rfl, hcount, hinside⟩ := hpiece.exists_split
    rcases List.append_eq_append_iff.mp hs with ⟨more, rfl, hs'⟩ | ⟨part, htaken, hw⟩
    · exact ih hs' (hbefore.of_append hcount)
    rcases part with _ | ⟨d, part⟩
    · have hs' : s' = [] ++ c :: w := hw.symm
      exact ih hs' (.nil _)
    · -- the place is inside the piece
      obtain ⟨rfl, -⟩ := List.cons.inj hw
      rcases hinside before c part htaken hc hbefore.outside with
        ⟨rfl, v, hnumber⟩ | ⟨hminus, d, hd, hlast⟩
      · rw [hs] at hnumber
        exact ⟨v, s', hnumber⟩
      · have hfirst : '-' ∉ (c :: w).head? := fun h ↦ hminus (Option.some.inj h)
        obtain ⟨hd', hname⟩ := hbefore.first.resolve_left hfirst d hd
        rw [hname] at hlast
        exact absurd hlast (by simp [hd'])

/-! ## Texts that are read -/

theorem goes_of_ofText {text : String} {f : Filter} (h : ofText text = .ok f) :
    ReflTransGen Piece (trim text.toList) [] := by
  rw [ofText] at h
  split at h
  · cases h
  · split at h
    · next g hg => exact filter_goesBy _ _ _ hg
    · cases h
    · cases h

/-- A text that is no filter is refused with a place in it. -/
theorem exists_parse_of_ofText {text : String} {e : Error} (h : ofText text = .error e) :
    ∃ position message, e = .parse position message := by
  rw [ofText] at h
  split at h
  · exact ⟨_, _, (Except.error.inj h).symm⟩
  · split at h
    · cases h
    · exact ⟨_, _, (Except.error.inj h).symm⟩
    · exact ⟨_, _, (Except.error.inj h).symm⟩

end Filter

end QueryChain
