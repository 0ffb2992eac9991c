import QueryChain.Json.Basic
import QueryChain.Text.Hexadecimal
import QueryChain.Text.Reader

/-!
# Reading JSON

The grammar is strict: no comments, no trailing commas, no leading zeros, and no more than 127
levels of arrays and objects.

A number without a point or an exponent is an integer if 64 bits hold it, with or without a sign;
`-0` and longer integers are doubles. A double is read with a significand of 64 bits: digits that no
longer fit are dropped, the significand is rounded to a double, and one power of ten then scales it.
This rounds twice, so the last bit may differ from that of the nearest double. A number beyond the
largest double is malformed.
-/

namespace QueryChain.Json

open Text

/-- The blanks that JSON allows between tokens. -/
def isSpace (c : Char) : Bool := c == ' ' || c == '\n' || c == '\r' || c == '\t'

def skipSpace : Reader Unit := do let _ ← Reader.takeWhile isSpace; pure ()

/-! ## Numbers -/

/-- Appends digits to a number while 64 bits hold the result. Gives the number and how many digits
were taken. -/
def fill (n : Nat) : List Char → Nat × Nat
  | [] => (n, 0)
  | d :: ds =>
    let m := 10 * n + (d.toNat - '0'.toNat)
    if m < UInt64.size then
      let (r, taken) := fill m ds
      (r, taken + 1)
    else (n, 0)

/-- The double `10 ^ n`, rounded to nearest. -/
def powerOfTen (n : Nat) : Double := .ofDecimal false 1 n

/-- Multiplies a double by a power of ten, in steps no larger than `10 ^ 308`; no result is an
overflow. -/
def scaleBy (x : Double) (exponent : Int) : Option Double :=
  if exponent.natAbs ≤ 308 then
    if 0 ≤ exponent then
      let y := x.mul (powerOfTen exponent.natAbs)
      if y.isFinite then some y else none
    else some (x.div (powerOfTen exponent.natAbs))
  else if x.magnitude = 0 then some x
  else if 0 ≤ exponent then none
  else scaleBy (x.div (powerOfTen 308)) (exponent + 308)
termination_by exponent.natAbs
decreasing_by omega

/-- The number with the given digits; a point or an exponent makes it a double. -/
def number? (negative : Bool) (whole : List Char) (fraction : Option (List Char))
    (exponent : Option Int) : Option Json :=
  let (n, taken) := fill 0 whole
  if fraction = none ∧ exponent = none ∧ taken = whole.length ∧
      ¬(negative ∧ (n = 0 ∨ 1 <<< 63 < n)) then
    some (.integer (if negative then -(n : Int) else n))
  else
    let (m, taken') := fill n (fraction.getD [])
    let power : Int := (whole.length : Int) - taken - taken' + exponent.getD 0
    (scaleBy (.ofInt m) power).map fun x ↦ .double (if negative then x.neg else x)

/-- The digits before the point: a lone zero, or a run that starts with another digit. -/
def wholePart : Reader (List Char) := do
  let ds ← Reader.takeWhile1 Char.isDigit
  match ds with
  | '0' :: _ :: _ => Reader.fail
  | _ => pure ds

def fractionPart : Reader (List Char) := do
  Reader.char '.'
  Reader.takeWhile1 Char.isDigit

def exponentPart : Reader Int := do
  Reader.char 'e' <|> Reader.char 'E'
  let sign ← Reader.optional
    ((do Reader.char '-'; pure true) <|> (do Reader.char '+'; pure false))
  let ds ← Reader.takeWhile1 Char.isDigit
  let n : Int := Nat.ofDigitChars 10 ds 0
  pure (if sign = some true then -n else n)

/-- A part that must be complete once its first character is there. -/
def committed {α : Type} (starts : List Char) (p : Reader α) : Reader (Option α) := fun s ↦
  match s with
  | c :: _ =>
    if c ∈ starts then (do let a ← p; pure (some a) : Reader (Option α)) s else .ok (none, s)
  | [] => .ok (none, [])

def number : Reader Json := do
  let sign ← Reader.optional (Reader.char '-')
  let whole ← wholePart
  let fraction ← committed ['.'] fractionPart
  let exponent ← committed ['e', 'E'] exponentPart
  match number? sign.isSome whole fraction exponent with
  | some j => pure j
  | none => Reader.fail

/-! ## Strings -/

/-- The number that four hexadecimal digits denote, and the text after them. -/
def unit16? : List Char → Option (Nat × List Char)
  | a :: b :: c :: d :: r => (hexNumber? [a, b, c, d]).map (·, r)
  | _ => none

/-- The character of an escape after its `\u`, and the text after it. The halves of a surrogate
pair are only taken together. -/
def unicodeEscape? (s : List Char) : Option (Char × List Char) :=
  (unit16? s).bind fun (high, r) ↦
    if 0xDC00 ≤ high ∧ high ≤ 0xDFFF then none
    else if 0xD800 ≤ high ∧ high ≤ 0xDBFF then
      match r with
      | '\\' :: 'u' :: r' =>
        (unit16? r').bind fun (low, r'') ↦
          if 0xDC00 ≤ low ∧ low ≤ 0xDFFF then
            some (Char.ofNat (0x10000 + (high - 0xD800) * 0x400 + (low - 0xDC00)), r'')
          else none
      | _ => none
    else some (Char.ofNat high, r)

/-- The character that a letter after a backslash stands for. -/
def shortEscape? (c : Char) : Option Char :=
  match c with
  | '"' => some '"'
  | '\\' => some '\\'
  | '/' => some '/'
  | 'b' => some (Char.ofNat 8)
  | 'f' => some (Char.ofNat 12)
  | 'n' => some '\n'
  | 'r' => some '\r'
  | 't' => some '\t'
  | _ => none

/-- One character of a string, escaped or not. The closing quote is none. -/
def stringChar : Reader Char
  | '\\' :: 'u' :: r =>
    match unicodeEscape? r with
    | some x => .ok x
    | none => .error r
  | '\\' :: c :: r =>
    match shortEscape? c with
    | some d => .ok (d, r)
    | none => .error r
  | c :: r => if c = '"' ∨ c = '\\' ∨ c.toNat < 32 then .error (c :: r) else .ok (c, r)
  | [] => .error []

def stringLiteral : Reader String := do
  Reader.char '"'
  let cs ← Reader.many stringChar
  Reader.char '"'
  pure (String.ofList cs)

/-! ## Values -/

def scalar : Reader Json :=
  (do Reader.literal "null".toList; pure .null) <|>
  (do Reader.literal "true".toList; pure (.bool true)) <|>
  (do Reader.literal "false".toList; pure (.bool false)) <|>
  (do let s ← stringLiteral; pure (.string s)) <|>
  number

/-- Values between brackets; the brackets may hold nothing. -/
def arrayOf (item : Reader Json) : Reader Json := do
  Reader.char '['
  skipSpace
  let items ← Reader.optional (Reader.separated (Reader.char ',') item)
  Reader.char ']'
  pure (.array (items.getD []))

/-- A key, a colon and a value. -/
def entryOf (item : Reader Json) : Reader (String × Json) := do
  skipSpace
  let key ← stringLiteral
  skipSpace
  Reader.char ':'
  let value ← item
  pure (key, value)

/-- Entries between braces; the braces may hold nothing. -/
def objectOf (item : Reader Json) : Reader Json := do
  Reader.char '\x7b'
  skipSpace
  let entries ← Reader.optional (Reader.separated (Reader.char ',') (entryOf item))
  Reader.char '\x7d'
  pure (ofEntries (entries.getD []))

/-- A value with blanks around it, in which arrays and objects nest at most `depth` levels deep. -/
def value : Nat → Reader Json
  | 0 => do
    skipSpace
    let j ← scalar
    skipSpace
    pure j
  | depth + 1 => do
    skipSpace
    let j ← arrayOf (value depth) <|> objectOf (value depth) <|> scalar
    skipSpace
    pure j

/-- How deep arrays and objects may nest. -/
def maxDepth : Nat := 127

/-- The JSON value that a text is. -/
def ofText? (s : String) : Option Json := (value maxDepth).run? s

end QueryChain.Json
