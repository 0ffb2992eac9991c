import Mathlib.Algebra.Group.Int.Defs
import Mathlib.Algebra.Group.Nat.Defs
import QueryChain.Proofs.Filter.Pieces
import QueryChain.Proofs.Filter.Position
import QueryChain.Proofs.Value.Exchange

/-!
# Integers in filter texts

An integer is a run of digits of any length, perhaps with a minus in front, and what it denotes is
the number that the digits have by their places. It is read as that number, in 32 bits where these
suffice and in 64 bits otherwise. A number that does not fit 64 bits either is no literal, and since
an integer that stands apart can be read as nothing else, no filter text holds one:
`Filter.IntegerLiteral.number_exact`.
-/

namespace QueryChain

namespace Filter

open Text

/-! ## Integers and their values -/

/-- The number that digits denote by their places. -/
def magnitude : List Char → Nat
  | [] => 0
  | c :: ds => (c.toNat - '0'.toNat) * 10 ^ ds.length + magnitude ds

theorem ofDigitChars_eq_magnitude (ds : List Char) : Nat.ofDigitChars 10 ds 0 = magnitude ds := by
  induction ds with
  | nil => rfl
  | cons c ds ih =>
    rw [Nat.ofDigitChars_cons, Nat.ofDigitChars_eq_ofDigitChars_zero, ih, magnitude, Nat.mul_zero,
      Nat.zero_add, Nat.mul_comm]

/-- The number fits a signed integer of so many bits. -/
def FitsSigned (bits : Nat) (n : Int) : Prop := -2 ^ (bits - 1) ≤ n ∧ n < 2 ^ (bits - 1)

instance (bits : Nat) (n : Int) : Decidable (FitsSigned bits n) :=
  inferInstanceAs (Decidable (_ ∧ _))

/-- An integer as it is written: one digit at least, and a minus in front or none. -/
structure IntegerLiteral where
  negative : Bool
  digits : List Char
  digits_ne_nil : digits ≠ []
  isDigit_of_mem : ∀ c ∈ digits, c.isDigit

namespace IntegerLiteral

variable (i : IntegerLiteral)

/-- The minus of a negative integer. -/
def sign : List Char := if i.negative then ['-'] else []

def text : List Char := i.sign ++ i.digits

/-- The number that the integer denotes. -/
def value : Int := if i.negative then -magnitude i.digits else magnitude i.digits

theorem exists_text_eq : ∃ c w, i.text = c :: w ∧ startsInteger c := by
  rw [text, sign]
  split
  · exact ⟨'-', i.digits, rfl, rfl⟩
  · obtain ⟨c, ds, hds⟩ := List.exists_cons_of_ne_nil i.digits_ne_nil
    have hc := i.isDigit_of_mem c (hds ▸ List.mem_cons_self)
    exact ⟨c, ds, hds, startsInteger_iff.mpr (.inr hc)⟩

theorem isEdged_text : IsEdged i.text := by
  obtain ⟨c, w, hcw, -⟩ := i.exists_text_eq
  refine .of_forall (hcw ▸ List.cons_ne_nil c w) fun d hd ↦ ?_
  rcases List.mem_append.mp hd with hd | hd
  · rw [sign] at hd
    split at hd
    · obtain rfl := List.mem_singleton.mp hd
      decide
    · cases hd
  · exact isBlank_of_continuesName (continuesName_of_isDigit (i.isDigit_of_mem d hd))

variable {i} {rest : List Char}

/-! ## Reading an integer -/

theorem number_text (hrest : EndsInteger rest) :
    number (i.text ++ rest) =
      match Value.ofInt? i.value with
      | some v => .ok (v, rest)
      | none => .error (i.text ++ rest) := by
  have hread := number_digits i.negative i.digits_ne_nil i.isDigit_of_mem hrest
  dsimp only at hread
  rw [ofDigitChars_eq_magnitude] at hread
  rw [text, sign, List.append_assoc]
  exact hread

theorem number_of_isInteger {v : Value} (hrest : EndsInteger rest) (hv : v.IsInteger i.value) :
    number (i.text ++ rest) = .ok (v, rest) := by
  rw [number_text hrest, Value.ofInt?_eq_some_iff.mpr hv]

theorem number_of_not_fits (hrest : EndsInteger rest) (h : ¬FitsSigned 64 i.value) :
    number (i.text ++ rest) = .error (i.text ++ rest) := by
  have hnone : Value.ofInt? i.value = none :=
    if_neg fun hrange ↦ h ⟨hrange.1, Int.lt_add_one_of_le hrange.2⟩
  rw [number_text hrest, hnone]

/-- A literal that begins like an integer is a number. -/
theorem literal_text (rest : List Char) : literal (i.text ++ rest) = number (i.text ++ rest) := by
  obtain ⟨c, w, hcw, hc⟩ := i.exists_text_eq
  have hlower : ¬c.toLower.isLower := by
    rcases startsInteger_iff.mp hc with rfl | hdigit
    · decide
    · exact not_isLower_toLower_of_isDigit hdigit
  rw [hcw, List.cons_append]
  have hkeyword (k : Keyword) : (keyword k.text).Refuses (c :: (w ++ rest)) :=
    ⟨_, keyword_of_not_spells (Keyword.Spells.not_of_head hlower)⟩
  have hstring : quotedString.Refuses (c :: (w ++ rest)) :=
    refuses_quotedString_iff.mpr (.inl fun h ↦ ne_quote_of_startsInteger hc (Option.some.inj h))
  exact ((hkeyword .true).bind _).orElse.trans <| ((hkeyword .false).bind _).orElse.trans <|
    ((hkeyword .null).bind _).orElse.trans (hstring.bind _).orElse

end IntegerLiteral

/-! ## Texts with integers -/

theorem EndsInteger.of_isPrefix {x y : List Char} (h : EndsInteger y) (hxy : x <+: y) :
    EndsInteger x := by
  obtain ⟨z, rfl⟩ := hxy
  refine ⟨fun c hc ↦ h.1 c ?_, ?_⟩
  · rw [List.head?_append, Option.mem_def.mp hc]
    rfl
  · rintro r rfl c hc
    refine h.2 (r ++ z) rfl c ?_
    rw [List.head?_append, Option.mem_def.mp hc]
    rfl

theorem count_quote_takeWhile_isBlank (s : List Char) :
    (s.takeWhile isBlank).count quote = 0 := by
  refine List.count_eq_zero.mpr fun h ↦ ?_
  exact absurd (List.mem_takeWhile_imp h) (by decide)

/-- Where an integer stands apart that does not fit 64 bits, no filter is read. -/
theorem IntegerLiteral.ofText_of_not_fits {i : IntegerLiteral} {rest : List Char}
    (hrest : EndsInteger rest) (h : ¬FitsSigned 64 i.value) {text : String} {before : List Char}
    (htext : text.toList = before ++ (i.text ++ rest))
    (hbefore : StandsApart before (i.text ++ rest)) :
    ∃ position message, Predicate.ofText text = .error (.parse position message) := by
  obtain ⟨c, w, hcw, hc⟩ := i.exists_text_eq
  rcases hread : ofText text with e | f
  · obtain ⟨position, message, rfl⟩ := exists_parse_of_ofText hread
    exact ⟨position, message, predicateOfText_of_error hread⟩
  · have hends : EndsInteger (trimEnd rest) := hrest.of_isPrefix (isPrefix_trimEnd rest)
    have htrim : trim text.toList = before.dropWhile isBlank ++ c :: (w ++ trimEnd rest) := by
      rw [htext, trim_append_append i.isEdged_text, hcw, List.cons_append]
    have hapart : StandsApart (before.dropWhile isBlank) (c :: (w ++ trimEnd rest)) := by
      rw [hcw] at hbefore
      rw [← List.takeWhile_append_dropWhile (p := isBlank) (l := before)] at hbefore
      have hdropped := hbefore.of_append (by rw [count_quote_takeWhile_isBlank])
      exact ⟨hdropped.outside, hdropped.first⟩
    obtain ⟨v, r, hnumber⟩ := exists_number_of_standsApart (goes_of_ofText hread) htrim hc hapart
    rw [← List.cons_append, ← hcw, number_of_not_fits hends h] at hnumber
    cases hnumber

/-- **An integer keeps its value.** It is read whatever stands behind it, as long as that is not
more of the number: as the number that it denotes, in 32 bits if it fits these and in 64 bits
otherwise. If it does not fit 64 bits either nothing is read, neither there nor of a filter text in
which the integer stands apart. -/
theorem IntegerLiteral.number_exact (i : IntegerLiteral) {rest : List Char}
    (hrest : EndsInteger rest) :
    literal (i.text ++ rest) = number (i.text ++ rest) ∧
    (FitsSigned 32 i.value →
      ∃ n : Int32, n.toInt = i.value ∧ number (i.text ++ rest) = .ok (.int32 n, rest)) ∧
    (¬FitsSigned 32 i.value → FitsSigned 64 i.value →
      ∃ n : Int64, n.toInt = i.value ∧ number (i.text ++ rest) = .ok (.int64 n, rest)) ∧
    (¬FitsSigned 64 i.value → number (i.text ++ rest) = .error (i.text ++ rest) ∧
      ∀ (text : String) (before : List Char), text.toList = before ++ (i.text ++ rest) →
        StandsApart before (i.text ++ rest) →
        ∃ position message, Predicate.ofText text = .error (.parse position message)) := by
  refine ⟨literal_text rest, fun h ↦ ?_, fun hwide h ↦ ?_, fun h ↦ ⟨number_of_not_fits hrest h, ?_⟩⟩
  · have hn : (Int32.ofInt i.value).toInt = i.value := Int32.toInt_ofInt_of_le h.1 h.2
    exact ⟨_, hn, number_of_isInteger hrest hn⟩
  · have hn : (Int64.ofInt i.value).toInt = i.value := Int64.toInt_ofInt_of_le h.1 h.2
    refine ⟨_, hn, number_of_isInteger hrest ⟨hn, fun hfits ↦ hwide ?_⟩⟩
    exact ⟨hfits.1, Int.lt_add_one_of_le hfits.2⟩
  · exact fun text before htext hbefore ↦ ofText_of_not_fits hrest h htext hbefore

/-- The digits denote 2 to the power of 63, which fits 64 bits with a minus only. -/
theorem IntegerLiteral.number_exact_bound :
    let digits := "009223372036854775808".toList
    let i : IntegerLiteral := ⟨false, digits, by decide, List.all_eq_true.mp rfl⟩
    let j : IntegerLiteral := ⟨true, digits, by decide, List.all_eq_true.mp rfl⟩
    let text := "Id IN (1, 009223372036854775808)"
    EndsInteger [')'] ∧ ¬FitsSigned 64 i.value ∧
      StandsApart "Id IN (1, ".toList (i.text ++ [')']) ∧
      number (i.text ++ [')']) = .error (i.text ++ [')']) ∧
      (∃ position message, Predicate.ofText text = .error (.parse position message)) ∧
      ¬FitsSigned 32 j.value ∧ FitsSigned 64 j.value ∧
      ∃ n : Int64, n.toInt = j.value ∧ number (j.text ++ [')']) = .ok (.int64 n, [')']) := by
  intro digits i j text
  have hends : EndsInteger [')'] := by
    refine ⟨fun c hc ↦ ?_, fun r hr ↦ ?_⟩
    · obtain rfl := Option.some.inj hc
      decide
    · cases hr
  have hi : ¬FitsSigned 64 i.value := by decide +kernel
  have hwide : ¬FitsSigned 32 j.value := by decide +kernel
  have hj : FitsSigned 64 j.value := by decide +kernel
  have hapart : StandsApart "Id IN (1, ".toList (i.text ++ [')']) := by
    refine ⟨by decide, .inr fun d hd ↦ ?_⟩
    obtain rfl := Option.some.inj hd
    decide
  obtain ⟨-, -, -, hout⟩ := i.number_exact hends
  obtain ⟨-, -, hwhole, -⟩ := j.number_exact hends
  exact ⟨hends, hi, hapart, (hout hi).1, (hout hi).2 text _ (by decide +kernel) hapart, hwide, hj,
    hwhole hwide hj⟩

end Filter

end QueryChain
