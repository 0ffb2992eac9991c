import Mathlib.Data.Set.Subsingleton
import Mathlib.Logic.Relation
import QueryChain.Proofs.Filter.Tokens

/-!
# Strings between quotes

A string is written down between two quotes, and each quote inside it is written twice. So a quote
is a character of the string if another one stands right behind it, and the end of the string if
not, and a text can be split in one way only: `Filter.quotedString_eq_ok_iff` says that this is how
strings are read. What cannot be read either has no quote in front or has no end.

A string can also be read in rounds, from one quote to the next. Every round takes something from
the text, so there is a last one, and what it finds is what the reader gives:
`Filter.Progress.exists_last`.
-/

namespace QueryChain.Filter

open Text Relation

variable {cs chunk rest s : List Char}

/-! ## Quotes written twice -/

/-- In every text there is a quote that ends a string, or all its quotes are written twice. -/
theorem closed_or_open (s : List Char) :
    (∃ cs rest, rest.head? ≠ some quote ∧ s = doubleQuotes cs ++ quote :: rest) ∨
      ∃ cs, s = doubleQuotes cs := by
  -- the induction takes a pair of quotes in one step
  induction s using quotedRest.induct with
  | case1 => exact .inr ⟨[], rfl⟩
  | case2 r ih =>
    rcases ih with ⟨cs, rest, hrest, rfl⟩ | ⟨cs, rfl⟩
    · exact .inl ⟨quote :: cs, rest, hrest, by rw [doubleQuotes_cons_quote]; rfl⟩
    · exact .inr ⟨quote :: cs, (doubleQuotes_cons_quote cs).symm⟩
  | case3 d r hd => exact .inl ⟨[], d :: r, mt Option.some.inj hd, rfl⟩
  | case4 => exact .inl ⟨[], [], nofun, rfl⟩
  | case5 c r hc ih =>
    rcases ih with ⟨cs, rest, hrest, rfl⟩ | ⟨cs, rfl⟩
    · exact .inl ⟨c :: cs, rest, hrest, by rw [doubleQuotes_cons hc]; rfl⟩
    · exact .inr ⟨c :: cs, (doubleQuotes_cons hc cs).symm⟩

/-! ## The inside of a string -/

theorem quotedRest_open (cs : List Char) : quotedRest (doubleQuotes cs) = .error [] := by
  induction cs with
  | nil => rfl
  | cons c cs ih =>
    by_cases hc : c = quote
    · rw [hc, doubleQuotes_cons_quote, quotedRest_quote_quote, ih]
      rfl
    · rw [doubleQuotes_cons hc, quotedRest_cons hc, ih]
      rfl

/-! ## Rounds -/

/-- How far a string was read: the string so far, and the text that is left. -/
structure Progress where
  out : List Char
  left : List Char

namespace Progress

/-- One round takes all up to the next quote. A quote right behind that one goes on with the string,
of which the two are one quote; without one the string is complete. -/
def round (p : Progress) : Progress ⊕ Except (List Char) (List Char × List Char) :=
  let chunk := p.left.takeWhile (· != quote)
  match p.left.dropWhile (· != quote) with
  | [] => .inr (.error [])
  | _ :: rest =>
    if rest.head? = some quote then .inl ⟨p.out ++ chunk ++ [quote], rest.tail⟩
    else .inr (.ok (p.out ++ chunk, rest))

/-- There is one more round, and it begins at the second place. -/
def Continues (p q : Progress) : Prop := p.round = .inl q

/-- What the reader makes of the text that is left, behind the string so far. -/
def result (p : Progress) : Except (List Char) (List Char × List Char) :=
  (quotedRest p.left).map fun (cs, rest) ↦ (p.out ++ cs, rest)

end Progress

theorem quotedRest_append (h : quote ∉ chunk) (s : List Char) :
    quotedRest (chunk ++ s) = (quotedRest s).map fun (cs, rest) ↦ (chunk ++ cs, rest) := by
  induction chunk with
  | nil => cases hs : quotedRest s <;> rw [List.nil_append, hs] <;> rfl
  | cons c chunk ih =>
    rw [List.mem_cons, not_or] at h
    rw [List.cons_append, quotedRest_cons (Ne.symm h.1), ih h.2]
    cases quotedRest s <;> rfl

namespace Progress

variable {p q : Progress} {x : Except (List Char) (List Char × List Char)}

/-- What a round can find. -/
theorem round_cases (p : Progress) :
    (quote ∉ p.left ∧ p.round = .inr (.error [])) ∨
      ∃ chunk rest, quote ∉ chunk ∧ p.left = chunk ++ quote :: rest ∧
        ((rest.head? ≠ some quote ∧ p.round = .inr (.ok (p.out ++ chunk, rest))) ∨
          ∃ rest', rest = quote :: rest' ∧ p.round = .inl ⟨p.out ++ chunk ++ [quote], rest'⟩) := by
  have hchunk : quote ∉ p.left.takeWhile (· != quote) := by
    intro h
    simpa using List.mem_takeWhile_imp h
  have hleft := List.takeWhile_append_dropWhile (p := (· != quote)) (l := p.left)
  rcases h : p.left.dropWhile (· != quote) with _ | ⟨d, rest⟩
  · rw [h, List.append_nil] at hleft
    exact .inl ⟨hleft ▸ hchunk, by rw [round, h]⟩
  · have hd : d = quote := by
      have hne : p.left.dropWhile (· != quote) ≠ [] := by simp [h]
      simpa [h] using List.head_dropWhile_not (· != quote) hne
    rw [h, hd] at hleft
    refine .inr ⟨_, rest, hchunk, hleft.symm, ?_⟩
    by_cases hrest : rest.head? = some quote
    · obtain ⟨rest', rfl⟩ := List.head?_eq_some_iff.mp hrest
      exact .inr ⟨rest', rfl, by rw [round, h]; rfl⟩
    · refine .inl ⟨hrest, ?_⟩
      rw [round, h]
      exact if_neg hrest

/-- A round before the last one takes its text and leaves the result as it is. -/
theorem Continues.keeps (h : p.Continues q) :
    q.result = p.result ∧ q.left.length < p.left.length := by
  rcases p.round_cases with
    ⟨-, hround⟩ | ⟨chunk, rest, hchunk, hleft, ⟨-, hround⟩ | ⟨rest', rfl, hround⟩⟩
  · cases hround.symm.trans h
  · cases hround.symm.trans h
  · obtain rfl := Sum.inl.inj (hround.symm.trans h)
    constructor
    · rw [result, result, hleft, quotedRest_append hchunk, quotedRest_quote_quote]
      cases quotedRest rest' <;> simp [Except.map]
    · rw [hleft]
      simp only [List.length_append, List.length_cons]
      omega

/-- The last round finds the result. -/
theorem eq_result_of_last (h : p.round = .inr x) : x = p.result := by
  rcases p.round_cases with
    ⟨hleft, hround⟩ | ⟨chunk, rest, hchunk, hleft, ⟨hrest, hround⟩ | ⟨rest', rfl, hround⟩⟩
  · rw [← Sum.inr.inj (hround.symm.trans h), result, ← List.append_nil p.left,
      quotedRest_append hleft]
    rfl
  · rw [← Sum.inr.inj (hround.symm.trans h), result, hleft, quotedRest_append hchunk,
      quotedRest_quote hrest]
    simp [Except.map]
  · cases hround.symm.trans h

theorem wellFounded_continues : WellFounded fun q p : Progress ↦ p.Continues q :=
  Subrelation.wf (fun h ↦ h.keeps.2) (measure fun p : Progress ↦ p.left.length).wf

/-- From wherever reading stands there is a last round. -/
theorem exists_last (p : Progress) : ∃ q, ReflTransGen Continues p q ∧ q.round = .inr p.result := by
  induction p using wellFounded_continues.induction with
  | h p ih =>
    rcases hp : p.round with q | x
    · obtain ⟨last, hrounds, hlast⟩ := ih q hp
      exact ⟨last, .head hp hrounds, hlast.trans (congrArg _ (Continues.keeps hp).1)⟩
    · exact ⟨p, .refl, hp.trans (congrArg _ (eq_result_of_last hp))⟩

end Progress

/-! ## Strings -/

/-- The text begins with the string between quotes, with its quotes written twice, and goes on with
the rest. A quote there would belong to the string. -/
def BeginsQuoted (s : List Char) (out : String) (rest : List Char) : Prop :=
  s = quote :: (doubleQuotes out.toList ++ quote :: rest) ∧ rest.head? ≠ some quote

/-- Every quote behind the one that begins the text is written twice, so that none is the end. -/
def IsUnterminated (s : List Char) : Prop := ∃ cs, s = quote :: doubleQuotes cs

theorem quotedString_quote (s : List Char) :
    quotedString (quote :: s) =
      (quotedRest s).map fun (cs, rest) ↦ (String.ofList cs, rest) := by
  have hchar : Reader.char quote (quote :: s) = .ok ((), s) := by
    rw [Reader.char, if_pos rfl]
  rw [quotedString, Reader.bind_apply_ok hchar]
  cases h : quotedRest s with
  | error e => exact Reader.bind_apply_error h
  | ok x => exact Reader.bind_apply_ok h

theorem quotedString_of_head?_ne (h : s.head? ≠ some quote) : quotedString s = .error s := by
  refine Reader.bind_apply_error ?_
  rcases s with _ | ⟨c, s⟩
  · rfl
  · exact if_neg fun hc ↦ h (congrArg some hc)

theorem BeginsQuoted.quotedString_eq {out : String} (h : BeginsQuoted s out rest) :
    quotedString s = .ok (out, rest) := by
  obtain ⟨rfl, hrest⟩ := h
  rw [quotedString_quote, quotedRest_closed _ hrest]
  exact congrArg (fun out ↦ Except.ok (out, rest)) String.ofList_toList

theorem IsUnterminated.quotedString_eq (h : IsUnterminated s) : quotedString s = .error [] := by
  obtain ⟨cs, rfl⟩ := h
  rw [quotedString_quote, quotedRest_open]
  rfl

/-- A text begins with no quote, or with one that has no end, or with a string. -/
theorem exists_beginsQuoted (s : List Char) :
    s.head? ≠ some quote ∨ IsUnterminated s ∨ ∃ out rest, BeginsQuoted s out rest := by
  by_cases h : s.head? = some quote
  · obtain ⟨r, rfl⟩ := List.head?_eq_some_iff.mp h
    rcases closed_or_open r with ⟨cs, rest, hrest, rfl⟩ | ⟨cs, rfl⟩
    · refine .inr (.inr ⟨String.ofList cs, rest, ?_, hrest⟩)
      rw [String.toList_ofList]
    · exact .inr (.inl ⟨cs, rfl⟩)
  · exact .inl h

theorem beginsQuoted_of_quotedString {out : String} (h : quotedString s = .ok (out, rest)) :
    BeginsQuoted s out rest := by
  rcases exists_beginsQuoted s with hs | hs | ⟨out', rest', hs⟩
  · cases (quotedString_of_head?_ne hs).symm.trans h
  · cases hs.quotedString_eq.symm.trans h
  · cases hs.quotedString_eq.symm.trans h
    exact hs

theorem refuses_quotedString_iff :
    quotedString.Refuses s ↔ s.head? ≠ some quote ∨ IsUnterminated s := by
  constructor
  · rintro ⟨e, h⟩
    rcases exists_beginsQuoted s with hs | hs | ⟨out, rest, hs⟩
    · exact .inl hs
    · exact .inr hs
    · cases hs.quotedString_eq.symm.trans h
  · rintro (h | h)
    · exact ⟨s, quotedString_of_head?_ne h⟩
    · exact ⟨[], h.quotedString_eq⟩

/-- **A string is read from exactly the texts that begin with it between quotes.** There is one way
at most in which a text does, every string has such a text, and a text without is refused, be it
that no quote begins it or that none ends it. The rounds from one quote to the next come to an end
on every text, and with the same result. -/
theorem quotedString_eq_ok_iff :
    (∀ s out rest, quotedString s = .ok (out, rest) ↔ BeginsQuoted s out rest) ∧
    (∀ s, {x : String × List Char | BeginsQuoted s x.1 x.2}.Subsingleton) ∧
    (∀ out, ∃ s, quotedString s = .ok (out, [])) ∧
    (∀ s, quotedString.Refuses s ↔ s.head? ≠ some quote ∨ IsUnterminated s) ∧
    ∀ s, ∃ last x, ReflTransGen Progress.Continues ⟨[], s⟩ last ∧ last.round = .inr x ∧
      quotedString (quote :: s) = x.map fun (cs, rest) ↦ (String.ofList cs, rest) := by
  refine ⟨fun s out rest ↦ ⟨beginsQuoted_of_quotedString, BeginsQuoted.quotedString_eq⟩,
    fun s x hx y hy ↦ ?_, fun out ↦ ?_, fun s ↦ refuses_quotedString_iff, fun s ↦ ?_⟩
  · exact Except.ok.inj (hx.quotedString_eq.symm.trans hy.quotedString_eq)
  · have hout : BeginsQuoted (quote :: (doubleQuotes out.toList ++ [quote])) out [] := ⟨rfl, nofun⟩
    exact ⟨_, hout.quotedString_eq⟩
  · obtain ⟨last, hrounds, hlast⟩ := Progress.exists_last ⟨[], s⟩
    have hresult : (⟨[], s⟩ : Progress).result = quotedRest s := by
      rw [Progress.result]
      cases quotedRest s <;> rfl
    rw [hresult] at hlast
    exact ⟨last, quotedRest s, hrounds, hlast, quotedString_quote s⟩

/-- Of six quotes in a row the last one ends the string; of five none does. -/
example :
    quotedString (.replicate 6 quote ++ [' ']) = .ok (String.ofList [quote, quote], [' ']) ∧
      quotedString (.replicate 5 quote ++ [' ']) = .error [] := by
  decide +kernel

end QueryChain.Filter
