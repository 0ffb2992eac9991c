import Mathlib.Data.List.DropRight
import Mathlib.Data.List.Infix
import QueryChain.Proofs.Filter.Grammar
import QueryChain.Proofs.Predicate.Blame

/-!
# Positions of errors

A filter that cannot be read is refused at a place: the message quotes what is left of the text
there, and the position counts the bytes in front of it. The count is a difference of two lengths,
that of the text and that of what is left of it, so it means something only if what is left is an
end of the text. `Text.Reader.IsForward` says this of a reader, for its failures as for its
successes, and it is kept by every way of putting readers together.

The readers work on a text without the blanks around it. Blanks at its end do no harm, since they
stand behind the place, but blanks in front move it: `Filter.pointsInto_iff` says that the position
is one in the text as it was given exactly if the text does not begin with a blank.
-/

namespace QueryChain

/-! ## Readers move forward -/

namespace Text.Reader

variable {α β : Type} {p q : Reader α}

/-- The text from the place on where a reader stopped, whether it succeeded or failed there. -/
def rest : Except (List Char) (α × List Char) → List Char
  | .ok (_, r) => r
  | .error e => e

theorem rest_map (f : α → β) (x : Except (List Char) (α × List Char)) :
    rest (x.map fun (a, r) ↦ (f a, r)) = rest x := by
  cases x <;> rfl

/-- Wherever the reader stops, an end of its text lies ahead. -/
def IsForward (p : Reader α) : Prop := ∀ s, rest (p s) <:+ s

namespace IsForward

theorem pure (a : α) : IsForward (Pure.pure a) := fun _ ↦ List.suffix_rfl

theorem fail : (Reader.fail : Reader α).IsForward := fun _ ↦ List.suffix_rfl

theorem bind {f : α → Reader β} (hp : p.IsForward) (hf : ∀ a, (f a).IsForward) :
    (p >>= f).IsForward := by
  intro s
  have hs := hp s
  rw [bind_apply]
  rcases h : p s with e | ⟨a, r⟩ <;> rw [h] at hs
  · exact hs
  · exact (hf a r).trans hs

theorem orElse (hp : p.IsForward) (hq : q.IsForward) : (p <|> q).IsForward := by
  intro s
  have hs := hp s
  rcases h : p s with e | x
  · rw [Refuses.orElse ⟨e, h⟩]
    exact hq s
  · rw [orElse_of_ok h]
    rwa [h] at hs

theorem char (c : Char) : (Reader.char c).IsForward := by
  intro s
  rcases s with _ | ⟨d, s⟩
  · exact List.suffix_rfl
  · rw [Reader.char]
    split
    · exact List.suffix_cons d s
    · exact List.suffix_rfl

theorem literal (t : List Char) : (Reader.literal t).IsForward := by
  intro s
  rw [Reader.literal]
  split
  · exact List.drop_suffix _ s
  · exact List.suffix_rfl

theorem takeWhile (f : Char → Bool) : (Reader.takeWhile f).IsForward :=
  fun _ ↦ List.dropWhile_suffix f

theorem takeWhile1 (f : Char → Bool) : (Reader.takeWhile1 f).IsForward := by
  intro s
  rw [Reader.takeWhile1]
  split
  · exact List.suffix_rfl
  · exact List.dropWhile_suffix f

theorem optional (hp : p.IsForward) : (Reader.optional p).IsForward := by
  intro s
  have hs := hp s
  rw [Reader.optional]
  rcases h : p s with e | ⟨a, r⟩ <;> rw [h] at hs
  · exact List.suffix_rfl
  · exact hs

theorem many (hp : p.IsForward) : (Reader.many p).IsForward := by
  refine rounds_related (R := fun s r ↦ r <:+ s) (fun _ ↦ List.suffix_rfl)
    (fun hsr hrt ↦ hrt.trans hsr) fun s a r h ↦ ?_
  have hs := hp s
  rwa [h] at hs

end IsForward

end Text.Reader

namespace Filter

open Text Reader

/-! ## The readers of a filter -/

theorem keyword_isForward (word : String) : (keyword word).IsForward := by
  intro s
  rw [keyword]
  split
  · exact List.drop_suffix _ s
  · exact List.suffix_rfl

theorem identifier_isForward : identifier.IsForward := by
  intro s
  rcases s with _ | ⟨c, s⟩
  · exact List.suffix_rfl
  · rw [identifier_cons]
    split
    · exact (List.dropWhile_suffix _).trans (List.suffix_cons c s)
    · exact List.suffix_rfl

theorem rest_quotedRest_suffix (s : List Char) : rest (quotedRest s) <:+ s := by
  fun_induction quotedRest s with
  | case1 => exact List.suffix_rfl
  | case2 r ih =>
    rw [rest_map]
    exact ih.trans ((List.suffix_cons quote r).trans (List.suffix_cons quote _))
  | case3 d r hd => exact List.suffix_cons quote _
  | case4 => exact List.suffix_cons quote _
  | case5 c r hc ih =>
    rw [rest_map]
    exact ih.trans (List.suffix_cons c r)

theorem quotedString_isForward : quotedString.IsForward :=
  (IsForward.char quote).bind fun _ ↦ IsForward.bind rest_quotedRest_suffix fun _ ↦ .pure _

theorem NumberRead.rest_suffix {s : List Char} {x : Except (List Char) (Value × List Char)}
    (h : NumberRead s x) : rest x <:+ s := by
  cases h with
  | noDigits hs => exact ⟨_, hs.symm⟩
  | tooLarge => exact List.suffix_rfl
  | @integer sign ds r _ _ hs =>
    rw [hs, ← List.append_assoc]
    exact List.suffix_append _ r
  | @double sign ds fs r x hs =>
    rw [hs, ← List.cons_append, ← List.append_assoc, ← List.append_assoc]
    exact List.suffix_append _ r

theorem number_isForward : number.IsForward := fun s ↦ (numberRead s).rest_suffix

theorem sign_isForward : sign.IsForward := by
  have hsign (t : List Char) (op : CompareOp) :
      (do Reader.literal t; pure op : Reader CompareOp).IsForward :=
    (IsForward.literal t).bind fun _ ↦ .pure _
  exact .orElse (hsign _ _) <| .orElse (hsign _ _) <| .orElse (hsign _ _) <|
    .orElse (hsign _ _) <| .orElse (hsign _ _) <| .orElse (hsign _ _) (hsign _ _)

theorem holdsOfTokens_isForward : HoldsOfTokens @IsForward where
  pure := .pure
  fail := .fail
  bind := .bind
  orElse := .orElse
  optional := .optional
  many := .many
  spaces := (IsForward.takeWhile _).bind fun _ ↦ .pure _
  spaces1 := (IsForward.takeWhile1 _).bind fun _ ↦ .pure _
  keyword _ := keyword_isForward _
  symbol c _ := .char c
  sign := sign_isForward
  identifier := identifier_isForward
  quotedString := quotedString_isForward
  number := number_isForward

theorem filter_isForward : filter.IsForward :=
  fun s ↦ holdsOfTokens_isForward.disjunction_unary (s.length + 1) s

end Filter

/-! ## Blanks at the end -/

namespace Text

variable {s r x y : List Char}

theorem trimEnd_append (x y : List Char) :
    trimEnd (x ++ y) = if trimEnd y = [] then trimEnd x else x ++ trimEnd y := by
  have hnil : (y.reverse.dropWhile isBlank).isEmpty = true ↔ trimEnd y = [] := by
    rw [List.isEmpty_iff, trimEnd, List.reverse_eq_nil_iff]
  rw [trimEnd, List.reverse_append, List.dropWhile_append]
  by_cases h : trimEnd y = []
  · rw [if_pos (hnil.mpr h), if_pos h]
    rfl
  · rw [if_neg (mt hnil.mp h), if_neg h, List.reverse_append, List.reverse_reverse]
    rfl

theorem isPrefix_trimEnd (s : List Char) : trimEnd s <+: s := List.rdropWhile_prefix isBlank s

theorem byteLength_trimEnd_le (s : List Char) : byteLength (trimEnd s) ≤ byteLength s := by
  obtain ⟨trail, h⟩ := isPrefix_trimEnd s
  conv_rhs => rw [← h, byteLength_append]
  exact Nat.le_add_right _ _

/-- What stands in front of a text costs no more than its own bytes. -/
theorem byteLength_trimEnd_append_le (x y : List Char) :
    byteLength (trimEnd (x ++ y)) ≤ byteLength x + byteLength (trimEnd y) := by
  rw [trimEnd_append]
  split
  · exact (byteLength_trimEnd_le x).trans (Nat.le_add_right _ _)
  · rw [byteLength_append]

theorem trimEnd_eq_of_append (h : trimEnd (x ++ y) = x ++ r) : trimEnd y = r := by
  rw [trimEnd_append] at h
  split at h
  · next hy =>
    have hlength : (x ++ r).length ≤ x.length := h ▸ (isPrefix_trimEnd x).length_le
    rw [List.length_append] at hlength
    rw [hy, List.eq_nil_of_length_eq_zero (by omega : r.length = 0)]
  · exact List.append_cancel_left h

theorem trim_ne_nil {text : String} (h : allBlank text = false) : trim text.toList ≠ [] := by
  intro hnil
  have hbody : ∀ c ∈ text.toList.dropWhile isBlank, isBlank c = true :=
    List.rdropWhile_eq_nil_iff.mp hnil
  have hall : ∀ c ∈ text.toList, isBlank c = true := by
    intro c hc
    rw [← List.takeWhile_append_dropWhile (p := isBlank) (l := text.toList), List.mem_append] at hc
    exact hc.elim List.mem_takeWhile_imp (hbody c)
  rw [allBlank, List.all_eq_true.mpr hall] at h
  cases h

theorem takeWhile_isBlank_eq_nil_iff : s.takeWhile isBlank = [] ↔ s.head?.any isBlank = false := by
  cases s with
  | nil => exact iff_of_true rfl rfl
  | cons c s => cases hc : isBlank c <;> simp [hc]

/-- Blanks in front stay where they are when those at the end go. -/
theorem trimEnd_eq_takeWhile_append (h : trim s ≠ []) :
    trimEnd s = s.takeWhile isBlank ++ trim s := by
  conv_lhs => rw [← List.takeWhile_append_dropWhile (p := isBlank) (l := s)]
  rw [trimEnd_append]
  exact if_neg h

theorem trimEnd_concat (s : List Char) {c : Char} (hc : isBlank c = false) :
    trimEnd (s ++ [c]) = s ++ [c] :=
  List.rdropWhile_concat_neg isBlank s c (by simp [hc])

/-- Trimming takes nothing from a part of a text that begins and ends with other characters. -/
theorem trim_append_append {w : List Char} (h : Filter.IsEdged w) (before behind : List Char) :
    trim (before ++ (w ++ behind)) = before.dropWhile isBlank ++ (w ++ trimEnd behind) := by
  obtain ⟨⟨c, r, hfront, hc⟩, d, r', hback, hd⟩ := h
  have hdrop : (before ++ (w ++ behind)).dropWhile isBlank =
      before.dropWhile isBlank ++ w ++ behind := by
    rw [List.dropWhile_append, List.append_assoc]
    split
    · next hempty =>
      rw [List.isEmpty_iff.mp hempty, hfront, List.nil_append, List.cons_append,
        List.dropWhile_cons_of_neg (by simp [hc])]
    · rfl
  have htrim : trimEnd (before.dropWhile isBlank ++ w) = before.dropWhile isBlank ++ w := by
    rw [hback, ← List.append_assoc, trimEnd_concat _ hd]
  rw [trim, hdrop, trimEnd_append, htrim, ← List.append_assoc]
  split
  · next hnil => rw [hnil, List.append_nil]
  · rfl

end Text

/-! ## Places in a text -/

namespace Filter

open Text Reader

/-- What a message about a text says in front of the part that it quotes. -/
def notices : List String := ["Unexpected trailing content:", "Expected a condition near"]

/-- The message quotes the text. -/
def Quotes (message : String) (r : List Char) : Prop :=
  ∃ notice ∈ notices, message = notice ++ " '" ++ String.ofList r ++ "'"

/-- The position is the offset in bytes of a place in the text, between two characters or at an end,
and the message quotes what stands from there on, without the blanks at its end. -/
def PointsInto (s : List Char) (position : Nat) (message : String) : Prop :=
  ∃ before behind, s = before ++ behind ∧ position = byteLength before ∧
    Quotes message (trimEnd behind)

theorem append_quoted_inj {notice : String} {r r' : List Char}
    (h : notice ++ " '" ++ String.ofList r ++ "'" = notice ++ " '" ++ String.ofList r' ++ "'") :
    r = r' := by
  have hlist := congrArg String.toList h
  simp only [String.toList_append, String.toList_ofList] at hlist
  exact List.append_cancel_left (List.append_cancel_right hlist)

/-- A message quotes one text. -/
theorem Quotes.unique {message : String} {r r' : List Char} (h : Quotes message r)
    (h' : Quotes message r') : r = r' := by
  obtain ⟨notice, hn, rfl⟩ := h
  obtain ⟨notice', hn', heq⟩ := h'
  have hfirst := congrArg (fun m : String ↦ m.toList.head?) heq
  simp only [notices, List.mem_cons, List.not_mem_nil, or_false] at hn hn'
  -- the notices differ in their first characters
  rcases hn with rfl | rfl <;> rcases hn' with rfl | rfl
  · exact append_quoted_inj heq
  · simp at hfirst
  · simp at hfirst
  · exact append_quoted_inj heq

/-- Reading stops at an end of the text, which has no more bytes than the text. -/
theorem byteLength_rest_filter_le (s : List Char) :
    byteLength (rest (filter s)) ≤ byteLength s := by
  obtain ⟨before, h⟩ := filter_isForward s
  conv_rhs => rw [← h, byteLength_append]
  exact Nat.le_add_left _ _

/-- The error of a filter that cannot be read is about the place where reading it stopped. -/
theorem exists_errorAt {text : String} {e : Error} (hblank : allBlank text = false)
    (h : ofText text = .error e) :
    ∃ notice ∈ notices,
      e = errorAt (trim text.toList) (rest (filter (trim text.toList))) notice := by
  simp only [ofText, if_neg (trim_ne_nil hblank)] at h
  split at h
  · cases h
  · next hread =>
    rw [hread]
    exact ⟨_, List.mem_cons_self, (Except.error.inj h).symm⟩
  · next hread =>
    rw [hread]
    exact ⟨_, List.mem_cons_of_mem _ List.mem_cons_self, (Except.error.inj h).symm⟩

/-- The text without the blanks around it is split at the place where reading it stopped. -/
theorem exists_split_of_error {text : String} {position : Nat} {message : String}
    (hblank : allBlank text = false)
    (h : Predicate.ofText text = .error (.parse position message)) :
    ∃ before r, trim text.toList = before ++ r ∧ position = byteLength before ∧
      Quotes message r := by
  obtain ⟨before, hsplit⟩ := filter_isForward (trim text.toList)
  have hread : ofText text = .error (.parse position message) := by
    rw [Predicate.ofText] at h
    rcases hf : ofText text with e | f <;> rw [hf] at h
    · exact congrArg _ (Except.error.inj h)
    · -- what was read and then refused has another error
      cases f.toPredicate_blames _ h
  obtain ⟨notice, hnotice, herror⟩ := exists_errorAt hblank hread
  obtain ⟨hposition, hmessage⟩ := Error.parse.inj herror
  have hlength : byteLength (trim text.toList) =
      byteLength before + byteLength (rest (filter (trim text.toList))) := by
    rw [← byteLength_append, hsplit]
  refine ⟨before, _, hsplit.symm, ?_, notice, hnotice, hmessage⟩
  rw [hposition, hlength, Nat.add_sub_cancel]

/-- A text is quoted from no earlier place than the one where it stands when the blanks at the end
are gone. -/
theorem PointsInto.le {s x r : List Char} {position : Nat} {message : String}
    (h : PointsInto s position message) (hs : trimEnd s = x ++ r) (hr : Quotes message r) :
    byteLength x ≤ position := by
  obtain ⟨before, behind, rfl, rfl, hquotes⟩ := h
  have hle := byteLength_trimEnd_append_le before behind
  rw [hs, hquotes.unique hr, byteLength_append] at hle
  exact Nat.le_of_add_le_add_right hle

theorem pointsInto_of_trimEnd {s x r : List Char} {message : String} (hs : trimEnd s = x ++ r)
    (hr : Quotes message r) : PointsInto s (byteLength x) message := by
  obtain ⟨trail, htrail⟩ := isPrefix_trimEnd s
  have hsplit : s = x ++ (r ++ trail) := by rw [← List.append_assoc, ← hs, htrail]
  refine ⟨x, r ++ trail, hsplit, rfl, ?_⟩
  rwa [trimEnd_eq_of_append (hsplit ▸ hs)]

/-- With the bytes of the blanks in front, the position is one in the text as it was given; without
them it is only if there are none. -/
theorem pointsInto_of_error {text : String} {position : Nat} {message : String}
    (hblank : allBlank text = false)
    (h : Predicate.ofText text = .error (.parse position message)) :
    PointsInto text.toList (byteLength (text.toList.takeWhile isBlank) + position) message ∧
      (PointsInto text.toList position message ↔ text.toList.head?.any isBlank = false) := by
  obtain ⟨before, r, hsplit, hposition, hquotes⟩ := exists_split_of_error hblank h
  have hends := trimEnd_eq_takeWhile_append (trim_ne_nil hblank)
  rw [hsplit, ← List.append_assoc] at hends
  have hpoints := pointsInto_of_trimEnd hends hquotes
  rw [byteLength_append, ← hposition] at hpoints
  refine ⟨hpoints, ?_⟩
  rw [← takeWhile_isBlank_eq_nil_iff]
  constructor
  · intro hgiven
    have hle := hgiven.le hends hquotes
    rw [byteLength_append, ← hposition] at hle
    have hlead := length_le_byteLength (text.toList.takeWhile isBlank)
    exact List.eq_nil_of_length_eq_zero (by omega)
  · intro hlead
    rwa [hlead, byteLength_nil, Nat.zero_add] at hpoints

/-- **An error of reading points into the text behind the blanks in front of it, and so into the
text as it was given exactly if this does not begin with a blank.** The position counts the bytes in
front of a place between two characters, and no more is ever taken away than there is. -/
theorem pointsInto_iff (text : String) (hblank : allBlank text = false) :
    byteLength (rest (filter (trim text.toList))) ≤ byteLength (trim text.toList) ∧
    ∀ position message, Predicate.ofText text = .error (.parse position message) →
      (∃ before r, trim text.toList = before ++ r ∧ position = byteLength before ∧
        Quotes message r) ∧
      PointsInto text.toList (byteLength (text.toList.takeWhile isBlank) + position) message ∧
      (PointsInto text.toList position message ↔ text.toList.head?.any isBlank = false) :=
  ⟨byteLength_rest_filter_le _, fun _ _ h ↦
    ⟨exists_split_of_error hblank h, pointsInto_of_error hblank h⟩⟩

theorem predicateOfText_of_error {text : String} {e : Error} (h : ofText text = .error e) :
    Predicate.ofText text = .error e := by
  rw [Predicate.ofText, h]
  rfl

/-- There are ten characters in front of the place, and one of them has two bytes. -/
theorem pointsInto_iff_trailing :
    let text := "Name = 'é' rest "
    let message := "Unexpected trailing content: ' rest'"
    allBlank text = false ∧ Predicate.ofText text = .error (.parse 11 message) ∧
      PointsInto text.toList 11 message := by
  intro text message
  have hblank : allBlank text = false := by decide
  have herror : Predicate.ofText text = .error (.parse 11 message) :=
    predicateOfText_of_error (by decide +kernel)
  exact ⟨hblank, herror, ((pointsInto_iff text hblank).2 _ _ herror).2.2.mpr (by decide)⟩

/-- The position is in front of the digit, and what is quoted stands behind it. -/
theorem not_pointsInto_leadingBlank :
    let text := " Id = 1 garbage"
    let message := "Unexpected trailing content: ' garbage'"
    allBlank text = false ∧ Predicate.ofText text = .error (.parse 6 message) ∧
      PointsInto text.toList 7 message ∧ ¬PointsInto text.toList 6 message := by
  intro text message
  have hblank : allBlank text = false := by decide
  have herror : Predicate.ofText text = .error (.parse 6 message) :=
    predicateOfText_of_error (by decide +kernel)
  have hbytes : byteLength (text.toList.takeWhile isBlank) + 6 = 7 := by decide
  obtain ⟨hbehind, hgiven⟩ := pointsInto_of_error hblank herror
  rw [hbytes] at hbehind
  exact ⟨hblank, herror, hbehind, fun h ↦ absurd (hgiven.mp h) (by decide)⟩

end Filter

end QueryChain
