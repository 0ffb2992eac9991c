import QueryChain.Proofs.Filter.Printing

/-!
# Reading lexemes

What each reader of a token makes of a spelled lexeme. A reader that belongs to the lexeme takes it
and stops behind it, whatever comes next, because a blank or the end of the text does. The other
readers refuse it, and a choice goes on to its next side.
-/

namespace QueryChain

/-! ## Choices -/

namespace Text.Reader

variable {α : Type} {p q : Reader α} {s : List Char}

/-- The reader fails on the text. -/
def Refuses (p : Reader α) (s : List Char) : Prop := ∃ e, p s = .error e

theorem orElse_of_ok {x : α × List Char} (h : p s = .ok x) : (p <|> q) s = .ok x :=
  (orElse_apply p (fun _ ↦ q) s).trans (by rw [h])

theorem Refuses.orElse (h : p.Refuses s) : (p <|> q) s = q s := by
  obtain ⟨e, h⟩ := h
  exact (orElse_apply p (fun _ ↦ q) s).trans (by rw [h])

theorem Refuses.orElse_refuses (hp : p.Refuses s) (hq : q.Refuses s) : (p <|> q).Refuses s := by
  obtain ⟨e, h⟩ := hq
  exact ⟨e, hp.orElse.trans h⟩

theorem Refuses.bind {β : Type} (h : p.Refuses s) (f : α → Reader β) : (p >>= f).Refuses s := by
  obtain ⟨e, h⟩ := h
  exact ⟨e, bind_apply_error h⟩

theorem Refuses.bind_of_ok {β : Type} {f : α → Reader β} {a : α} {r : List Char}
    (h : p s = .ok (a, r)) (hf : (f a).Refuses r) : (p >>= f).Refuses s := by
  obtain ⟨e, hf⟩ := hf
  exact ⟨e, (bind_apply_ok h).trans hf⟩

theorem bind_eq_ok {β : Type} {f : α → Reader β} {x : β × List Char} (h : (p >>= f) s = .ok x) :
    ∃ a r, p s = .ok (a, r) ∧ f a r = .ok x := by
  rw [bind_apply] at h
  rcases hs : p s with e | ⟨a, r⟩ <;> rw [hs] at h
  · cases h
  · exact ⟨a, r, rfl, h⟩

theorem orElse_eq_ok {x : α × List Char} (h : (p <|> q) s = .ok x) :
    p s = .ok x ∨ q s = .ok x := by
  rcases hs : p s with e | y
  · exact .inr ((Refuses.orElse ⟨e, hs⟩).symm.trans h)
  · exact .inl ((orElse_of_ok hs).symm.trans h)

theorem rounds_of_refuses (h : p.Refuses s) : rounds p s = ([], s) := by
  obtain ⟨e, h⟩ := h
  rw [rounds, h]

theorem rounds_of_ok {a : α} {r : List Char} (h : p s = .ok (a, r)) (hr : r.length < s.length) :
    rounds p s = (a :: (rounds p r).1, (rounds p r).2) := by
  rw [rounds, h]
  exact if_pos hr

theorem rounds_of_idle {a : α} {r : List Char} (h : p s = .ok (a, r)) (hr : ¬r.length < s.length) :
    rounds p s = ([a], r) := by
  rw [rounds, h]
  exact if_neg hr

end Text.Reader

namespace Filter

open Text

variable {i j : Item} {is js : List Item} {t : Lexeme} {k : Keyword}

/-! ## Blanks -/

theorem dropWhile_behind (h : t.Spells i.word) :
    (behind (i :: is)).dropWhile isSpace = ahead (i :: is) := by
  obtain ⟨c, r, hw, hc⟩ := h.isEdged.1
  have hspace : ¬isSpace c := fun hs ↦ by
    rw [isBlank_of_isSpace hs] at hc
    cases hc
  rw [behind_cons, List.dropWhile_append_of_pos i.isSpace_of_mem_gap, ahead, hw, List.cons_append,
    List.dropWhile_cons_of_neg hspace]

theorem spaces_behind (h : t.Spells i.word) :
    spaces (behind (i :: is)) = .ok ((), ahead (i :: is)) :=
  congrArg (fun r ↦ Except.ok ((), r)) (dropWhile_behind h)

theorem spaces1_behind (h : t.Spells i.word) :
    spaces1 (behind (i :: is)) = .ok ((), ahead (i :: is)) := by
  have hne : (behind (i :: is)).takeWhile isSpace ≠ [] := by
    obtain ⟨c, gap, hgap⟩ := List.exists_cons_of_ne_nil i.gap_ne_nil
    have hc := i.isSpace_of_mem_gap c (hgap ▸ List.mem_cons_self)
    rw [behind_cons, hgap, List.cons_append, List.takeWhile_cons_of_pos hc]
    exact List.cons_ne_nil _ _
  simp only [spaces1, Reader.takeWhile1, Reader.bind_apply, if_neg hne, dropWhile_behind h]
  rfl

theorem behind_eq (is : List Item) : behind is = [] ∨ ∃ c r, behind is = c :: r ∧ isSpace c := by
  rcases h : behind is with _ | ⟨c, r⟩
  · exact .inl rfl
  · have hc : c ∈ (behind is).head? := by simp [h]
    exact .inr ⟨c, r, rfl, isSpace_of_mem_head?_behind hc⟩

/-! ## Keywords -/

theorem keyword_ahead (h : k.Spells i.word) :
    keyword k.text (ahead (i :: is)) = .ok ((), behind is) := by
  have hword : (ahead (i :: is)).takeWhile continuesWord = i.word := by
    rw [ahead, takeWhile_append_behind fun _ ↦ continuesWord_of_isSpace, h.takeWhile_eq]
  have hrest : (ahead (i :: is)).dropWhile continuesWord = behind is := by
    rw [ahead, dropWhile_append_behind fun _ ↦ continuesWord_of_isSpace,
      List.dropWhile_eq_nil_iff.mpr h.continuesWord, List.nil_append]
  rw [keyword_of_spells (by rwa [hword]), hrest]

theorem keyword_ahead_error (h : ¬k.Spells (i.word.takeWhile continuesWord)) :
    keyword k.text (ahead (i :: is)) = .error (ahead (i :: is)) := by
  refine keyword_of_not_spells ?_
  rwa [ahead, takeWhile_append_behind fun _ ↦ continuesWord_of_isSpace]

/-- A lexeme that is not written as a keyword is not read as one. -/
theorem keyword_other (h : t.Spells i.word) (hname : ∀ m, t ≠ .name m) (hk : t.keyword? ≠ some k) :
    keyword k.text (ahead (i :: is)) = .error (ahead (i :: is)) := by
  refine keyword_ahead_error ?_
  rcases h.keyword_or_head hname with ⟨k', hk', hw⟩ | ⟨c, r, hw, hc⟩
  · rw [hw.takeWhile_eq]
    rintro hspells
    exact hk (hk'.trans (congrArg some (hw.inj hspells)))
  · rw [hw]
    exact Keyword.Spells.not_of_head hc

theorem keyword_refuses (h : t.Spells i.word) (hname : ∀ m, t ≠ .name m)
    (hk : t.keyword? ≠ some k) : (keyword k.text).Refuses (ahead (i :: is)) :=
  ⟨_, keyword_other h hname hk⟩

theorem keyword_nil : keyword k.text [] = .error [] :=
  keyword_of_not_spells Keyword.Spells.not_nil

/-! ## Symbols and names -/

theorem char_ahead {c : Char} (h : i.word = [c]) :
    Reader.char c (ahead (i :: is)) = .ok ((), behind is) := by
  rw [ahead, h, List.singleton_append, Reader.char, if_pos rfl]

theorem char_ahead_error {c d : Char} {r : List Char} (h : i.word = d :: r) (hne : d ≠ c) :
    Reader.char c (ahead (i :: is)) = .error (ahead (i :: is)) := by
  rw [ahead, h, List.cons_append, Reader.char, if_neg hne]

theorem identifier_cons (c : Char) (s : List Char) :
    identifier (c :: s) =
      if startsName c then
        Except.ok (String.ofList (c :: s.takeWhile continuesName), s.dropWhile continuesName)
      else Except.error (c :: s) :=
  rfl

theorem identifier_ahead {c : Char} {r : List Char} (h : i.word = c :: r) (hc : startsName c)
    (hr : ∀ d ∈ r, continuesName d) :
    identifier (ahead (i :: is)) = .ok (String.ofList i.word, behind is) := by
  have htake : (r ++ behind is).takeWhile continuesName = r := by
    rw [takeWhile_append_behind fun _ ↦ continuesName_of_isSpace, List.takeWhile_eq_self_iff]
    exact hr
  have hdrop : (r ++ behind is).dropWhile continuesName = behind is := by
    rw [dropWhile_append_behind fun _ ↦ continuesName_of_isSpace,
      List.dropWhile_eq_nil_iff.mpr hr, List.nil_append]
  rw [ahead, h, List.cons_append, identifier_cons, if_pos hc, htake, hdrop]

/-- A keyword could be a name. -/
theorem identifier_keyword (h : k.Spells i.word) :
    identifier (ahead (i :: is)) = .ok (String.ofList i.word, behind is) := by
  have hne : i.word ≠ [] := fun hw ↦ Keyword.Spells.not_nil (hw ▸ h)
  obtain ⟨c, r, hw⟩ := List.exists_cons_of_ne_nil hne
  refine identifier_ahead hw ?_ fun d hd ↦ continuesName_of_continuesWord (h.continuesWord d ?_)
  · have hlower : c.toLower.isLower := h.isLower_toLower c (hw ▸ List.mem_cons_self)
    rw [startsName, isAlphabetic_of_isAlpha (isAlpha_of_isLower_toLower hlower), Bool.true_or]
  · rw [hw]
    exact List.mem_cons_of_mem c hd

/-! ## Literals -/

theorem quotedRest_cons {c : Char} (hc : c ≠ quote) (r : List Char) :
    quotedRest (c :: r) = (quotedRest r).map fun (cs, rest) ↦ (c :: cs, rest) := by
  rw [quotedRest.eq_def]
  exact if_neg hc

theorem quotedRest_quote_quote (r : List Char) :
    quotedRest (quote :: quote :: r) = (quotedRest r).map fun (cs, rest) ↦ (quote :: cs, rest) := by
  rw [quotedRest.eq_def]
  rfl

theorem quotedRest_quote {rest : List Char} (h : rest.head? ≠ some quote) :
    quotedRest (quote :: rest) = .ok ([], rest) := by
  rcases rest with _ | ⟨d, rest⟩
  · rfl
  · have hd : d ≠ quote := fun hd ↦ h (congrArg some hd)
    rw [quotedRest.eq_def]
    exact (if_pos rfl).trans (if_neg hd)

theorem doubleQuotes_cons_quote (cs : List Char) :
    doubleQuotes (quote :: cs) = quote :: quote :: doubleQuotes cs := by
  rw [doubleQuotes, List.flatMap_cons, if_pos rfl]
  rfl

theorem doubleQuotes_cons {c : Char} (hc : c ≠ quote) (cs : List Char) :
    doubleQuotes (c :: cs) = c :: doubleQuotes cs := by
  rw [doubleQuotes, List.flatMap_cons, if_neg hc]
  rfl

theorem quotedRest_closed (cs : List Char) {rest : List Char} (h : rest.head? ≠ some quote) :
    quotedRest (doubleQuotes cs ++ quote :: rest) = .ok (cs, rest) := by
  induction cs with
  | nil => exact quotedRest_quote h
  | cons c cs ih =>
    by_cases hc : c = quote
    · rw [hc, doubleQuotes_cons_quote, List.cons_append, List.cons_append, quotedRest_quote_quote,
        ih]
      rfl
    · rw [doubleQuotes_cons hc, List.cons_append, quotedRest_cons hc, ih]
      rfl

theorem head?_behind_ne_quote (is : List Item) : (behind is).head? ≠ some quote := by
  intro h
  cases isSpace_of_mem_head?_behind h

theorem quotedString_ahead {s : String} (h : (Lexeme.literal (.string s)).Spells i.word) :
    quotedString (ahead (i :: is)) = .ok (s, behind is) := by
  have hw : i.word = quote :: (doubleQuotes s.toList ++ [quote]) := h
  have hahead : ahead (i :: is) = quote :: (doubleQuotes s.toList ++ quote :: behind is) := by
    rw [ahead, hw, List.cons_append, List.append_assoc, List.singleton_append]
  have hchar : Reader.char quote (ahead (i :: is)) =
      .ok ((), doubleQuotes s.toList ++ quote :: behind is) := by
    rw [hahead, Reader.char, if_pos rfl]
  rw [quotedString, Reader.bind_apply_ok hchar,
    Reader.bind_apply_ok (quotedRest_closed s.toList (head?_behind_ne_quote is)),
    String.ofList_toList]
  rfl

/-- What can come of reading a number from a text: there are no digits behind the sign, an integer
does not fit, or a number is read with a fraction or without one. -/
inductive NumberRead (s : List Char) : Except (List Char) (Value × List Char) → Prop
  | noDigits {sign r : List Char} (hs : s = sign ++ r) : NumberRead s (.error r)
  | tooLarge : NumberRead s (.error s)
  | integer {sign ds r : List Char} {n : Int} {v : Value} (hs : s = sign ++ (ds ++ r))
    (hsign : sign = [] ∨ sign = ['-']) (hne : ds ≠ []) (hds : ∀ c ∈ ds, c.isDigit)
    (hv : Value.ofInt? n = some v) : NumberRead s (.ok (v, r))
  | double {sign ds fs r : List Char} (x : Double) (hs : s = sign ++ (ds ++ '.' :: (fs ++ r)))
    (hsign : sign = [] ∨ sign = ['-']) (hne : ds ≠ []) (hds : ∀ c ∈ ds, c.isDigit)
    (hfs : ∀ c ∈ fs, c.isDigit) : NumberRead s (.ok (.double x, r))

theorem numberRead (s : List Char) : NumberRead s (number s) := by
  unfold number
  split
  next negative digits hminus =>
  obtain ⟨sign, hs, hsign⟩ : ∃ sign, s = sign ++ digits ∧ (sign = [] ∨ sign = ['-']) := by
    split at hminus <;> cases hminus
    · exact ⟨['-'], rfl, .inr rfl⟩
    · exact ⟨[], rfl, .inl rfl⟩
  by_cases hne : digits.takeWhile Char.isDigit = []
  · rw [if_pos hne]
    exact .noDigits hs
  rw [if_neg hne]
  dsimp only
  have hds : ∀ c ∈ digits.takeWhile Char.isDigit, c.isDigit :=
    fun c hc ↦ List.mem_takeWhile_imp hc
  rw [← List.takeWhile_append_dropWhile (p := Char.isDigit) (l := digits)] at hs
  split
  · next tail htail =>
    by_cases hfs : tail.takeWhile Char.isDigit = []
    · rw [if_pos hfs]
      split
      · next hv => exact .integer hs hsign hne hds hv
      · exact .tooLarge
    · rw [if_neg hfs]
      rw [htail, ← List.takeWhile_append_dropWhile (p := Char.isDigit) (l := tail)] at hs
      exact .double _ hs hsign hne hds fun c hc ↦ List.mem_takeWhile_imp hc
  · split
    · next hv => exact .integer hs hsign hne hds hv
    · exact .tooLarge

/-- The text does not go on with a digit, nor with a point and a digit. -/
def EndsInteger (rest : List Char) : Prop :=
  (∀ c ∈ rest.head?, c.isDigit = false) ∧
    ∀ r, rest = '.' :: r → ∀ c ∈ r.head?, c.isDigit = false

theorem takeWhile_isDigit_eq_nil {rest : List Char} (h : ∀ c ∈ rest.head?, c.isDigit = false) :
    rest.takeWhile Char.isDigit = [] := by
  cases rest with
  | nil => rfl
  | cons c rest => exact List.takeWhile_cons_of_neg (by simp [h c rfl])

theorem dropWhile_isDigit_eq_self {rest : List Char} (h : ∀ c ∈ rest.head?, c.isDigit = false) :
    rest.dropWhile Char.isDigit = rest := by
  have hrest := List.takeWhile_append_dropWhile (p := Char.isDigit) (l := rest)
  rwa [takeWhile_isDigit_eq_nil h, List.nil_append] at hrest

/-- Digits without a fraction are an integer, and all that there is of the number. -/
theorem number_digits (negative : Bool) {ds rest : List Char} (hne : ds ≠ [])
    (hdigits : ∀ c ∈ ds, c.isDigit) (hrest : EndsInteger rest) :
    let s := (if negative then ['-'] else []) ++ (ds ++ rest)
    let n : Int := Nat.ofDigitChars 10 ds 0
    number s =
      match Value.ofInt? (if negative then -n else n) with
      | some v => .ok (v, rest)
      | none => .error s := by
  intro s n
  have hwhole : (ds ++ rest).takeWhile Char.isDigit = ds := by
    rw [List.takeWhile_append_of_pos hdigits, takeWhile_isDigit_eq_nil hrest.1, List.append_nil]
  have htail : (ds ++ rest).dropWhile Char.isDigit = rest := by
    rw [List.dropWhile_append_of_pos hdigits, dropWhile_isDigit_eq_self hrest.1]
  -- without a minus the text begins with a digit
  have hminus (r : List Char) : ds ++ rest ≠ '-' :: r := by
    intro h
    obtain ⟨c, cs, rfl⟩ := List.exists_cons_of_ne_nil hne
    have hc := hdigits c List.mem_cons_self
    rw [(List.cons.inj h).1] at hc
    cases hc
  cases negative with
  | false =>
    simp only [s, if_neg Bool.false_ne_true, List.nil_append]
    rw [number.eq_2 _ hminus, hwhole, htail, if_neg hne]
    dsimp only
    split
    · next r =>
      rw [takeWhile_isDigit_eq_nil (hrest.2 r rfl), if_pos rfl]
      rfl
    · rfl
  | true =>
    simp only [s, if_pos, List.singleton_append]
    rw [number.eq_1, hwhole, htail, if_neg hne]
    dsimp only
    split
    · next r =>
      rw [takeWhile_isDigit_eq_nil (hrest.2 r rfl), if_pos rfl]
      rfl
    · rfl

theorem endsInteger_behind (is : List Item) : EndsInteger (behind is) := by
  refine ⟨fun c hc ↦ isDigit_of_isSpace (isSpace_of_mem_head?_behind hc), fun r hr ↦ ?_⟩
  have hpoint : '.' ∈ (behind is).head? := by
    rw [hr]
    rfl
  cases isSpace_of_mem_head?_behind hpoint

theorem number_ahead {n : Int} {v : Value} (hw : i.word = (toString n).toList)
    (hv : Value.ofInt? n = some v) : number (ahead (i :: is)) = .ok (v, behind is) := by
  have habs : (if decide (n < 0) = true then -(n.natAbs : Int) else n.natAbs) = n := by
    simp only [decide_eq_true_eq]
    split <;> omega
  have hread := number_digits (decide (n < 0)) Nat.toDigits_ne_nil
    (fun _ ↦ isDigit_of_mem_toDigits (n := n.natAbs)) (endsInteger_behind is)
  dsimp only at hread
  rw [Nat.ofDigitChars_ten_toDigits, habs, hv] at hread
  rw [ahead, hw, toList_toString, List.append_assoc]
  simpa only [decide_eq_true_eq] using hread

theorem ofInt?_int32 (n : Int32) : Value.ofInt? n.toInt = some (.int32 n) := by
  have h32 : Int32.minValue.toInt ≤ n.toInt ∧ n.toInt ≤ Int32.maxValue.toInt :=
    ⟨n.minValue_le_toInt, n.toInt_le⟩
  have hmin : Int64.minValue.toInt ≤ Int32.minValue.toInt := by decide
  have hmax : Int32.maxValue.toInt ≤ Int64.maxValue.toInt := by decide
  have h64 : Int64.minValue.toInt ≤ n.toInt ∧ n.toInt ≤ Int64.maxValue.toInt :=
    ⟨Int.le_trans hmin h32.1, Int.le_trans h32.2 hmax⟩
  have hint : (Int64.ofInt n.toInt).toInt = n.toInt := by
    rw [Int64.ofInt_int32ToInt, Int32.toInt_toInt64]
  rw [Value.ofInt?, if_pos h64, Value.ofInt64, hint, if_pos h32, Int64.ofInt_int32ToInt,
    Int32.toInt32_toInt64]

theorem ofInt?_int64 {n : Int64}
    (h : ¬(Int32.minValue.toInt ≤ n.toInt ∧ n.toInt ≤ Int32.maxValue.toInt)) :
    Value.ofInt? n.toInt = some (.int64 n) := by
  rw [Value.ofInt?, if_pos ⟨n.minValue_le_toInt, n.toInt_le⟩, Int64.ofInt_toInt, Value.ofInt64,
    if_neg h]

/-- What is no keyword is a string or a number. -/
theorem literal_of_keyword?_eq_none {v : Value} (h : (Lexeme.literal v).Spells i.word)
    (hk : (Lexeme.literal v).keyword? = none) :
    literal (ahead (i :: is)) =
      ((do let s ← quotedString; pure (.string s)) <|> number : Reader Value) (ahead (i :: is)) := by
  have hother (k : Keyword) : (keyword k.text).Refuses (ahead (i :: is)) :=
    keyword_refuses h (fun _ ↦ Lexeme.noConfusion) (by simp [hk])
  exact ((hother .true).bind _).orElse.trans
    (((hother .false).bind _).orElse.trans ((hother .null).bind _).orElse)

theorem literal_of_number {v : Value} {n : Int} (h : (Lexeme.literal v).Spells i.word)
    (hk : (Lexeme.literal v).keyword? = none) (hw : i.word = (toString n).toList)
    (hv : Value.ofInt? n = some v) : literal (ahead (i :: is)) = .ok (v, behind is) := by
  have hquote : quotedString.Refuses (ahead (i :: is)) := by
    obtain ⟨c, r, hcr, -, hc⟩ := exists_toList_toString n
    exact Reader.Refuses.bind ⟨_, char_ahead_error (hw.trans hcr) hc⟩ _
  rw [literal_of_keyword?_eq_none h hk, (hquote.bind _).orElse, number_ahead hw hv]

/-- The kinds of literals begin differently. -/
theorem literal_ahead {v : Value} (h : (Lexeme.literal v).Spells i.word) :
    literal (ahead (i :: is)) = .ok (v, behind is) := by
  cases v with
  | null =>
    have htrue : (keyword Keyword.true.text).Refuses (ahead (i :: is)) :=
      keyword_refuses h (fun _ ↦ Lexeme.noConfusion) (by decide)
    have hfalse : (keyword Keyword.false.text).Refuses (ahead (i :: is)) :=
      keyword_refuses h (fun _ ↦ Lexeme.noConfusion) (by decide)
    refine (htrue.bind _).orElse.trans ((hfalse.bind _).orElse.trans ?_)
    exact Reader.orElse_of_ok (Reader.bind_apply_ok (keyword_ahead (k := .null) h))
  | bool b =>
    cases b with
    | true => exact Reader.orElse_of_ok (Reader.bind_apply_ok (keyword_ahead (k := .true) h))
    | false =>
      have htrue : (keyword Keyword.true.text).Refuses (ahead (i :: is)) :=
        keyword_refuses h (fun _ ↦ Lexeme.noConfusion) (by decide)
      refine (htrue.bind _).orElse.trans ?_
      exact Reader.orElse_of_ok (Reader.bind_apply_ok (keyword_ahead (k := .false) h))
  | int32 n => exact literal_of_number h rfl h (ofInt?_int32 n)
  | int64 n => exact literal_of_number h rfl h.2 (ofInt?_int64 h.1)
  | string s =>
    rw [literal_of_keyword?_eq_none h rfl]
    exact Reader.orElse_of_ok (Reader.bind_apply_ok (quotedString_ahead h))
  | _ => cases h

end Filter

end QueryChain
