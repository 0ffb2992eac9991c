import QueryChain.Proofs.Predicate.Built
import QueryChain.Proofs.Statement.Filtering

/-!
# Searching for strings

A search for a string is written with `LIKE`. Its pattern is the string itself, open on the sides
where something may precede or follow, and nothing in the string is escaped. So a database does not
look for the string but for a text that the string matches as a pattern, and the two are the same
exactly if the string holds no wildcard.
-/

namespace QueryChain

/-! ## Patterns -/

/-- The character stands for other characters in a pattern. -/
def isWildcard (c : Char) : Bool := c == '%' || c == '_'

/-- A text matches a pattern: `%` stands for any characters, `_` for any one character, and every
other character for itself. -/
inductive Likes : List Char → List Char → Prop
  | nil : Likes [] []
  | any {p t : List Char} (u : List Char) (h : Likes p t) : Likes ('%' :: p) (u ++ t)
  | one {p t : List Char} (c : Char) (h : Likes p t) : Likes ('_' :: p) (c :: t)
  | char {p t : List Char} {c : Char} (hc : ¬isWildcard c) (h : Likes p t) : Likes (c :: p) (c :: t)

namespace Likes

variable {p q s t u : List Char}

theorem append (hp : Likes p t) (hq : Likes q u) : Likes (p ++ q) (t ++ u) := by
  induction hp with
  | nil => exact hq
  | any v _ ih =>
    rw [List.append_assoc]
    exact .any v ih
  | one c _ ih => exact .one c ih
  | char hc _ ih => exact .char hc ih

/-- A text that matches two patterns, one behind the other, has a part for each. -/
theorem of_append (h : Likes (p ++ q) t) : ∃ u v, Likes p u ∧ Likes q v ∧ u ++ v = t := by
  induction p generalizing t with
  | nil => exact ⟨[], t, .nil, h, rfl⟩
  | cons c p ih =>
    rw [List.cons_append] at h
    cases h with
    | any w h =>
      obtain ⟨u, v, hu, hv, rfl⟩ := ih h
      exact ⟨w ++ u, v, .any w hu, hv, List.append_assoc w u v⟩
    | one d h =>
      obtain ⟨u, v, hu, hv, rfl⟩ := ih h
      exact ⟨d :: u, v, .one d hu, hv, rfl⟩
    | char hc h =>
      obtain ⟨u, v, hu, hv, rfl⟩ := ih h
      exact ⟨c :: u, v, .char hc hu, hv, rfl⟩

theorem percent (t : List Char) : Likes ['%'] t := by
  have h := any t nil
  rwa [List.append_nil] at h

/-- Every string matches itself, also where it holds a wildcard. -/
theorem self (s : List Char) : Likes s s := by
  induction s with
  | nil => exact .nil
  | cons c s ih =>
    by_cases hc : isWildcard c
    · rw [isWildcard, Bool.or_eq_true, beq_iff_eq, beq_iff_eq] at hc
      rcases hc with rfl | rfl
      · exact .any ['%'] ih
      · exact .one '_' ih
    · exact .char hc ih

/-- Without wildcards, a string is matched by nothing else. -/
theorem eq_of_plain (hs : ∀ c ∈ s, ¬isWildcard c) (h : Likes s t) : t = s := by
  induction h with
  | nil => rfl
  | any u h ih => exact absurd rfl (hs '%' List.mem_cons_self)
  | one c h ih => exact absurd rfl (hs '_' List.mem_cons_self)
  | char hc h ih => rw [ih fun c hc ↦ hs c (List.mem_cons_of_mem _ hc)]

/-- Every string is matched by a text without wildcards. -/
theorem exists_plain (s : List Char) : ∃ t, Likes s t ∧ ∀ c ∈ t, ¬isWildcard c := by
  induction s with
  | nil => exact ⟨[], .nil, fun c hc ↦ absurd hc List.not_mem_nil⟩
  | cons c s ih =>
    obtain ⟨t, ht, hplain⟩ := ih
    by_cases hc : isWildcard c
    · rw [isWildcard, Bool.or_eq_true, beq_iff_eq, beq_iff_eq] at hc
      rcases hc with rfl | rfl
      · exact ⟨t, .any [] ht, hplain⟩
      · exact ⟨'a' :: t, .one 'a' ht, List.forall_mem_cons.mpr ⟨by decide, hplain⟩⟩
    · exact ⟨c :: t, .char hc ht, List.forall_mem_cons.mpr ⟨hc, hplain⟩⟩

end Likes

/-! ## Where a string is found -/

namespace StringMatch

/-- The string occurs in the text, at the place that is asked for. -/
def Finds : StringMatch → List Char → List Char → Prop
  | contains, s, t => s <:+: t
  | startsWith, s, t => s <+: t
  | endsWith, s, t => s <:+ t

variable {kind : StringMatch} {s t : List Char}

theorem Finds.isInfix (h : kind.Finds s t) : s <:+: t := by
  cases kind with
  | contains => exact h
  | startsWith => exact List.IsPrefix.isInfix h
  | endsWith => exact List.IsSuffix.isInfix h

theorem finds_self (kind : StringMatch) (s : List Char) : kind.Finds s s := by
  cases kind with
  | contains => exact List.infix_rfl
  | startsWith => exact List.prefix_rfl
  | endsWith => exact List.suffix_rfl

/-- The pattern for a string is matched by the texts in which the string finds a match of its
own. -/
theorem likes_pattern_iff (kind : StringMatch) (s : String) (t : List Char) :
    Likes (kind.pattern s).toList t ↔ ∃ u, Likes s.toList u ∧ kind.Finds u t := by
  have hpercent : "%".toList = ['%'] := rfl
  cases kind with
  | contains =>
    rw [pattern, String.toList_append, String.toList_append, hpercent]
    constructor
    · intro h
      obtain ⟨v, w, hv, -, rfl⟩ := h.of_append
      obtain ⟨x, u, -, hu, rfl⟩ := hv.of_append
      exact ⟨u, hu, x, w, rfl⟩
    · rintro ⟨u, hu, x, w, rfl⟩
      exact ((Likes.percent x).append hu).append (.percent w)
  | startsWith =>
    rw [pattern, String.toList_append, hpercent]
    constructor
    · intro h
      obtain ⟨u, w, hu, -, rfl⟩ := h.of_append
      exact ⟨u, hu, w, rfl⟩
    · rintro ⟨u, hu, w, rfl⟩
      exact hu.append (.percent w)
  | endsWith =>
    rw [pattern, String.toList_append, hpercent]
    constructor
    · intro h
      obtain ⟨x, u, -, hu, rfl⟩ := h.of_append
      exact ⟨u, hu, x, rfl⟩
    · rintro ⟨u, hu, x, rfl⟩
      exact (Likes.percent x).append hu

/-- A pattern finds nothing but the string exactly if the string has no wildcard. -/
theorem likes_pattern_iff_finds (kind : StringMatch) (s : String) :
    (∀ t : String, Likes (kind.pattern s).toList t.toList ↔ kind.Finds s.toList t.toList) ↔
      ∀ c ∈ s.toList, ¬isWildcard c := by
  constructor
  · intro h c hc
    -- a text without wildcards matches, so the string must occur in it, wildcards and all
    obtain ⟨t, ht, hplain⟩ := Likes.exists_plain s.toList
    have hlikes : Likes (kind.pattern s).toList (String.ofList t).toList := by
      rw [String.toList_ofList, likes_pattern_iff]
      exact ⟨t, ht, finds_self kind t⟩
    have hfinds := (h (String.ofList t)).mp hlikes
    rw [String.toList_ofList] at hfinds
    exact hplain c (List.IsInfix.subset hfinds.isInfix hc)
  · intro hs t
    rw [likes_pattern_iff]
    constructor
    · rintro ⟨u, hu, hfinds⟩
      rwa [hu.eq_of_plain hs] at hfinds
    · intro hfinds
      exact ⟨s.toList, .self _, hfinds⟩

end StringMatch

namespace Predicate

/-- **A search finds a string exactly as far as it has no wildcard.** A search binds one pattern.
Every text in which the string occurs matches it; and no other text does exactly if no character of
the string is a wildcard. -/
theorem matching_bound (kind : StringMatch) {name : String} (hname : Text.allBlank name = false)
    (s : String) (d : Dialect) (bound : List Value) :
    ∃ p text pattern, matching kind name s = .ok p ∧
      toCondition d bound [p] = (.ok text, bound ++ [.string pattern]) ∧
      (∀ t : String, kind.Finds s.toList t.toList → Likes pattern.toList t.toList) ∧
      ((∀ t : String, Likes pattern.toList t.toList ↔ kind.Finds s.toList t.toList) ↔
        ∀ c ∈ s.toList, ¬isWildcard c) := by
  have hcheck : checkName "member" name = .ok () := checkName_eq_ok.mpr hname
  have hemit : emitAll [like kind name s] = .write [.member name, .like,
      .constant (.value (.string (kind.pattern s)))] := by
    change emitNamed name _ = _
    rw [emitNamed, hcheck]
    rfl
  refine ⟨like kind name s, _, kind.pattern s, ?_, toCondition_of_emitAll bound hemit, ?_,
    kind.likes_pattern_iff_finds s⟩
  · rw [matching, hcheck]
    rfl
  · intro t hfinds
    exact (kind.likes_pattern_iff s _).mpr ⟨s.toList, .self _, hfinds⟩

/-- The end of a path, behind a parameter. -/
theorem matching_bound_endsWith : Text.allBlank "Path" = false ∧
    ∃ p, matching .endsWith "Path" ".txt" = .ok p ∧
      toCondition .postgres [.null] [p] = (.ok "Path LIKE $2", [.null, .string "%.txt"]) ∧
      Likes "%.txt".toList "a.txt".toList ∧ ¬Likes "%.txt".toList "a.txt~".toList := by
  have hname : Text.allBlank "Path" = false := by decide
  obtain ⟨p, text, pattern, hp, hcondition, -, hexact⟩ :=
    matching_bound .endsWith hname ".txt" .postgres [.null]
  obtain rfl : Predicate.like .endsWith "Path" ".txt" = p := Except.ok.inj hp
  have hstore : toCondition .postgres [.null] [.like .endsWith "Path" ".txt"] =
      (.ok "Path LIKE $2", [.null, .string "%.txt"]) := by decide +kernel
  obtain rfl : "%.txt" = pattern := by
    rw [hstore] at hcondition
    simpa using congrArg Prod.snd hcondition
  have hplain : ∀ c ∈ ['.', 't', 'x', 't'], ¬isWildcard c := by
    simp [isWildcard]
  have hfinds := hexact.mpr hplain
  refine ⟨hname, _, hp, hstore, (hfinds "a.txt").mpr ?_, (hfinds "a.txt~").not.mpr ?_⟩
  · exact ⟨['a'], rfl⟩
  · rw [StringMatch.Finds]
    decide

/-- The search for an underscore finds a text without one. -/
theorem matching_underscore :
    ∃ p, matching .contains "A" "_" = .ok p ∧
      toCondition .sqlServer [] [p] = (.ok "A LIKE @param0", [.string "%_%"]) ∧
      Likes "%_%".toList "a".toList ∧ ¬StringMatch.contains.Finds "_".toList "a".toList := by
  refine ⟨_, by rfl, by decide +kernel, .any [] (.one 'a' (.any [] .nil)), ?_⟩
  rw [StringMatch.Finds]
  decide

end Predicate

end QueryChain
