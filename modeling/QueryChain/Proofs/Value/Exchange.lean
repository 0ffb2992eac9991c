import QueryChain.Value.Json

/-!
# Values in and out of JSON

Integers are the only scalars whose type has to be chosen: `Value.ofInt?_eq_some_iff` says that a
number of 64 bits with a sign becomes the narrower of two types that holds it, and other numbers
become none. Everything else has one type to go to.

A value that came from JSON goes back as it came, with one exception. A number too large for a sign
in 64 bits is still an integer of JSON, but it is imported as the double nearest to it:
`Value.importsExactly_iff` says that this is the only loss. In the other direction nothing more is
lost than the export itself loses: what a value was exported as is imported, and exported as the
same again.
-/

namespace QueryChain

/-- A scalar of JSON: an integer is one of 64 bits, with or without a sign, and a double is finite.
-/
def Json.IsScalar : Json → Prop
  | null | bool _ | string _ => True
  | integer n => Int64.minValue.toInt ≤ n ∧ n < UInt64.size
  | double x => x.isFinite
  | array _ | object _ => False

namespace Value

variable {param : String} {n : Int} {v : Value}

/-! ## Integers -/

/-- The number fits 32 bits. -/
def FitsInt32 (n : Int) : Prop := Int32.minValue.toInt ≤ n ∧ n ≤ Int32.maxValue.toInt

/-- The value is the integer, in 32 bits exactly if these suffice. -/
def IsInteger (n : Int) : Value → Prop
  | int32 m => m.toInt = n
  | int64 m => m.toInt = n ∧ ¬FitsInt32 n
  | _ => False

theorem toInt_toInt32 {m : Int64} (h : FitsInt32 m.toInt) : m.toInt32.toInt = m.toInt := by
  rw [Int64.toInt_toInt32]
  exact Int.bmod_eq_of_le h.1 (Int.lt_add_one_of_le h.2)

theorem isInteger_ofInt64 (m : Int64) : IsInteger m.toInt (ofInt64 m) := by
  rw [ofInt64]
  split
  · next h => exact toInt_toInt32 h
  · next h => exact ⟨rfl, h⟩

theorem ofInt?_toInt (m : Int64) : ofInt? m.toInt = some (ofInt64 m) := by
  rw [ofInt?, if_pos ⟨m.minValue_le_toInt, m.toInt_le⟩, Int64.ofInt_toInt]

theorem exists_toInt (h : Int64.minValue.toInt ≤ n ∧ n ≤ Int64.maxValue.toInt) :
    ∃ m : Int64, m.toInt = n :=
  ⟨.ofInt n, Int64.toInt_ofInt_of_le h.1 (Int.lt_add_one_of_le h.2)⟩

theorem asInt64?_of_isInteger (h : v.IsInteger n) : ∃ m, v.asInt64? = some m ∧ m.toInt = n := by
  cases v with
  | int32 m => exact ⟨m.toInt64, rfl, m.toInt_toInt64.trans h⟩
  | int64 m => exact ⟨m, rfl, h.1⟩
  | _ => exact h.elim

theorem IsInteger.unique {w : Value} (hv : v.IsInteger n) (hw : w.IsInteger n) : v = w := by
  have hfits (m : Int32) (h : m.toInt = n) : FitsInt32 n := h ▸ ⟨m.minValue_le_toInt, m.toInt_le⟩
  cases v <;> try exact hv.elim
  all_goals cases w <;> try exact hw.elim
  case int32.int32 m m' => exact congrArg int32 (Int32.toInt_inj.mp (hv.trans hw.symm))
  case int64.int64 m m' => exact congrArg int64 (Int64.toInt_inj.mp (hv.1.trans hw.1.symm))
  case int32.int64 m m' => exact absurd (hfits m hv) hw.2
  case int64.int32 m m' => exact absurd (hfits m' hw) hv.2

/-- A number of 64 bits with a sign becomes the narrower value that is this number, and any other
becomes none. -/
theorem ofInt?_eq_some_iff : ofInt? n = some v ↔ v.IsInteger n := by
  constructor
  · intro h
    by_cases hrange : Int64.minValue.toInt ≤ n ∧ n ≤ Int64.maxValue.toInt
    · obtain ⟨m, rfl⟩ := exists_toInt hrange
      rw [ofInt?_toInt] at h
      exact Option.some.inj h ▸ isInteger_ofInt64 m
    · rw [ofInt?, if_neg hrange] at h
      cases h
  · intro h
    obtain ⟨m, -, rfl⟩ := asInt64?_of_isInteger h
    rw [ofInt?_toInt, (isInteger_ofInt64 m).unique h]

theorem ofInt?_eq_none (h : Int64.maxValue.toInt < n) : ofInt? n = none :=
  if_neg fun hrange ↦ Int.not_le.mpr h hrange.2

/-! ## Out and in again -/

theorem toJson_of_asInt64? {m : Int64} (h : v.asInt64? = some m) : v.toJson = .integer m.toInt := by
  cases v with
  | byte n | int16 n | int32 n | int64 n =>
    cases h
    rfl
  | _ => cases h

theorem toJson_of_isFinite {x : Double} (h : x.isFinite = true) :
    (double x).toJson = .double x :=
  if_pos h

theorem toJson_of_not_isFinite {x : Double} (h : x.isFinite = false) : (double x).toJson = .null :=
  if_neg (by simp [h])

theorem toJson_of_isInteger (h : v.IsInteger n) : v.toJson = .integer n := by
  obtain ⟨m, hm, rfl⟩ := asInt64?_of_isInteger h
  exact toJson_of_asInt64? hm

theorem fromJson_of_isInteger (param : String) (h : v.IsInteger n) :
    fromJson param (.integer n) = .ok v := by
  rw [fromJson, ofInt?_eq_some_iff.mpr h]
  rfl

theorem fromJson_of_lt (param : String) (h : Int64.maxValue.toInt < n) :
    fromJson param (.integer n) = .ok (.double (.ofInt n)) := by
  rw [fromJson, ofInt?_eq_none h]
  rfl

/-- What a value is exported as is imported, and exported as the same again. -/
theorem exists_fromJson_toJson (param : String) (v : Value) :
    ∃ w, fromJson param v.toJson = .ok w ∧ w.toJson = v.toJson ∧
      ∀ n, v.toJson = .integer n → w.IsInteger n := by
  rcases hint : v.asInt64? with _ | m
  · -- no integer: the scalar has the type of the value, or is null or a text
    cases v with
    | byte n | int16 n | int32 n | int64 n => cases hint
    | null => exact ⟨.null, rfl, rfl, fun n h ↦ nomatch h⟩
    | bool b => exact ⟨.bool b, rfl, rfl, fun n h ↦ nomatch h⟩
    | string s => exact ⟨.string s, rfl, rfl, fun n h ↦ nomatch h⟩
    | decimal d => exact ⟨.string _, rfl, rfl, fun n h ↦ nomatch h⟩
    | dateTime t => exact ⟨.string _, rfl, rfl, fun n h ↦ nomatch h⟩
    | guid g => exact ⟨.string _, rfl, rfl, fun n h ↦ nomatch h⟩
    | double x =>
      rcases hx : x.isFinite with _ | _
      · rw [toJson_of_not_isFinite hx]
        exact ⟨.null, rfl, rfl, fun n h ↦ nomatch h⟩
      · rw [toJson_of_isFinite hx]
        exact ⟨.double x, rfl, toJson_of_isFinite hx, fun n h ↦ nomatch h⟩
  · have hint' := isInteger_ofInt64 m
    rw [toJson_of_asInt64? hint]
    refine ⟨ofInt64 m, fromJson_of_isInteger param hint', toJson_of_isInteger hint', fun n h ↦ ?_⟩
    exact Json.integer.inj h ▸ hint'

/-! ## In and out again -/

/-- The scalar is refused, or it is imported as a value that is exported as the scalar again. -/
def ImportsExactly (param : String) (j : Json) : Prop :=
  (∃ typeName, fromJson param j = .error (.unsupportedType param typeName)) ∨
    ∃ v, fromJson param j = .ok v ∧ v.toJson = j

theorem not_importsExactly_of_lt (param : String) (h : Int64.maxValue.toInt < n) :
    ¬ImportsExactly param (.integer n) := by
  have hdouble := fromJson_of_lt param h
  rintro (⟨_, herror⟩ | ⟨v, hv, hback⟩)
  · cases hdouble.symm.trans herror
  · cases hdouble.symm.trans hv
    -- a double is exported as a double or as null
    rcases hx : (Double.ofInt n).isFinite with _ | _
    · cases (toJson_of_not_isFinite hx).symm.trans hback
    · cases (toJson_of_isFinite hx).symm.trans hback

theorem importsExactly_of_isScalar {j : Json} (hj : j.IsScalar)
    (h : ∀ n, j = .integer n → n ≤ Int64.maxValue.toInt) : ImportsExactly param j := by
  refine .inr ?_
  cases j with
  | null => exact ⟨.null, rfl, rfl⟩
  | bool b => exact ⟨.bool b, rfl, rfl⟩
  | string s => exact ⟨.string s, rfl, rfl⟩
  | double x => exact ⟨.double x, rfl, toJson_of_isFinite hj⟩
  | integer n =>
    obtain ⟨m, rfl⟩ := exists_toInt ⟨hj.1, h n rfl⟩
    have hint := isInteger_ofInt64 m
    exact ⟨ofInt64 m, fromJson_of_isInteger param hint, toJson_of_isInteger hint⟩
  | array items | object entries => exact hj.elim

/-- **A scalar is imported without loss, unless it is an integer too large for a sign in 64 bits,
and what was exported is always imported without loss.** The integer becomes the double nearest to
it. Arrays and objects are refused. -/
theorem importsExactly_iff (param : String) :
    (∀ j : Json, j.IsScalar →
      (ImportsExactly param j ↔ ∀ n, j = .integer n → n ≤ Int64.maxValue.toInt)) ∧
    (∀ n, Int64.maxValue.toInt < n → fromJson param (.integer n) = .ok (.double (.ofInt n))) ∧
    (∀ items, fromJson param (.array items) = .error (.unsupportedType param "array")) ∧
    (∀ entries, fromJson param (.object entries) = .error (.unsupportedType param "object")) ∧
    ∀ v : Value, ∃ w, fromJson param v.toJson = .ok w ∧ w.toJson = v.toJson ∧
      ∀ n, v.toJson = .integer n → w.IsInteger n := by
  refine ⟨fun j hj ↦ ⟨fun hexact n hn ↦ ?_, importsExactly_of_isScalar hj⟩,
    fun n h ↦ fromJson_of_lt param h, fun _ ↦ rfl, fun _ ↦ rfl, exists_fromJson_toJson param⟩
  refine Int.not_lt.mp fun hlt ↦ ?_
  subst hn
  exact not_importsExactly_of_lt param hlt hexact

/-- The largest integer with a sign is imported as it is, and the next one is not. -/
theorem importsExactly_iff_maxSigned :
    (Json.integer 9223372036854775807).IsScalar ∧ (Json.integer 9223372036854775808).IsScalar ∧
      ImportsExactly "value" (.integer 9223372036854775807) ∧
      ¬ImportsExactly "value" (.integer 9223372036854775808) := by
  have hbelow : (Json.integer 9223372036854775807).IsScalar := ⟨by decide, by decide⟩
  have habove : (Json.integer 9223372036854775808).IsScalar := ⟨by decide, by decide⟩
  refine ⟨hbelow, habove, ((importsExactly_iff "value").1 _ hbelow).mpr ?_, fun h ↦ ?_⟩
  · rintro n ⟨⟩
    decide
  · exact absurd (((importsExactly_iff "value").1 _ habove).mp h _ rfl) (by decide)

/-- The largest integer without a sign comes back as a double that is one larger. -/
theorem not_importsExactly_maxUnsigned :
    let j : Json := .integer 18446744073709551615
    let x : Double := .ofInt 18446744073709551616
    j.IsScalar ∧ fromJson "value" j = .ok (.double x) ∧ (Value.double x).toJson = .double x ∧
      ¬ImportsExactly "value" j := by
  intro j x
  have hlarge : Int64.maxValue.toInt < 18446744073709551615 := by decide
  have hnearest : Double.ofInt 18446744073709551615 = x := by decide +kernel
  refine ⟨⟨by decide, by decide⟩, ?_, toJson_of_isFinite (by decide +kernel),
    not_importsExactly_of_lt "value" hlarge⟩
  rw [fromJson_of_lt "value" hlarge, hnearest]

end Value

end QueryChain
