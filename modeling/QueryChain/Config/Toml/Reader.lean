import QueryChain.Config.Toml.Value
import QueryChain.Text.Hexadecimal
import QueryChain.Text.Reader

/-!
# Reading TOML line by line

A line of a document is blank, is the header of a table, or sets a value for a key; a comment may
stand at its end. All four forms of strings are read, with their escapes, and integers in four
bases. A value may take several lines, if it is a string in triple quotes or an array.

A value that no setting can have is refused where it begins: a number with a point, a date, a truth
value, an array with something in it, a dotted key in braces. So is the header of an array of
tables.
-/

namespace QueryChain.Toml

open Text

/-- What a line does. -/
inductive Line
  /-- It starts the table at a path. -/
  | header (path : List String)
  /-- It sets a value for a key, in the table that the keys in front of it lead to. -/
  | entry (path : List String) (key : String) (value : Value)

/-! ## Characters -/

/-- A blank inside a line. -/
def isSpace (c : Char) : Bool := c == ' ' || c == '\t'

def spaces : Reader Unit := do let _ ← Reader.takeWhile isSpace; pure ()

/-- A character that may stand in a comment or, unescaped, in a string. -/
def isPlain (c : Char) : Bool := c == '\t' || (32 ≤ c.toNat && c.toNat != 127)

/-- The end of a line. -/
def newline : Reader Unit := Reader.literal ['\n'] <|> Reader.literal ['\r', '\n']

/-- A plain character other than the given ones. -/
def plainExcept (excluded : List Char) : Reader (List Char)
  | c :: r => if isPlain c && !excluded.contains c then .ok ([c], r) else .error (c :: r)
  | [] => .error []

/-! ## Strings -/

/-- The double quote, which lets a string have escapes. -/
def doubleQuote : Char := '\x22'

/-- The single quote, which keeps a string as it is. -/
def singleQuote : Char := '\x27'

/-- The character with the code point that a number of hexadecimal digits denote. -/
def codePoint (width : Nat) : Reader (List Char) := fun s ↦
  match hexNumber? (s.take width) with
  | some n =>
    if (s.take width).length = width ∧ n.isValidChar then .ok ([Char.ofNat n], s.drop width)
    else .error s
  | none => .error s

/-- The character that a letter after a backslash stands for. -/
def shortEscape? (c : Char) : Option Char :=
  match c with
  | 'b' => some (Char.ofNat 8)
  | 't' => some '\t'
  | 'n' => some '\n'
  | 'f' => some (Char.ofNat 12)
  | 'r' => some '\r'
  | '"' => some '"'
  | '\\' => some '\\'
  | _ => none

def escape : Reader (List Char)
  | '\\' :: 'u' :: r => codePoint 4 r
  | '\\' :: 'U' :: r => codePoint 8 r
  | '\\' :: c :: r =>
    match shortEscape? c with
    | some d => .ok ([d], r)
    | none => .error r
  | s => .error s

/-- A backslash at the end of a line takes away the blanks and line ends up to the next text. -/
def escapedNewline : Reader (List Char) := do
  Reader.char '\\'
  spaces
  newline
  let _ ← Reader.many ((do let _ ← Reader.takeWhile1 isSpace; pure ()) <|> newline)
  pure []

/-- Parts of a string between two quotes. -/
def between (q : Char) (part : Reader (List Char)) : Reader String := do
  Reader.char q
  let parts ← Reader.many part
  Reader.char q
  pure (String.ofList parts.flatten)

/-- One or two quotes inside a string that ends in three of them. -/
def looseQuotes (q : Char) : Reader (List Char) := fun s ↦
  let run := s.takeWhile (· == q)
  if run = [] ∨ 3 ≤ run.length then .error s else .ok (run, s.dropWhile (· == q))

/-- The three quotes at the end; up to two quotes in front of them belong to the string. -/
def closingQuotes (q : Char) : Reader (List Char) := fun s ↦
  let run := (s.takeWhile (· == q)).length
  if run < 3 then .error s
  else
    let extra := min (run - 3) 2
    .ok (List.replicate extra q, s.drop (3 + extra))

/-- Parts of a string between three quotes, in which lines may end. A line end right after the
opening quotes is left out. -/
def betweenTriple (q : Char) (part : Reader (List Char)) : Reader String := do
  Reader.literal [q, q, q]
  let _ ← Reader.optional newline
  let parts ← Reader.many (part <|> (do newline; pure ['\n']) <|> looseQuotes q)
  let last ← closingQuotes q
  pure (String.ofList (parts.flatten ++ last))

def basicString : Reader String :=
  between doubleQuote (plainExcept [doubleQuote, '\\'] <|> escape)

def literalString : Reader String := between singleQuote (plainExcept [singleQuote])

def string : Reader String :=
  betweenTriple doubleQuote (plainExcept [doubleQuote, '\\'] <|> escapedNewline <|> escape) <|>
  betweenTriple singleQuote (plainExcept [singleQuote]) <|>
  basicString <|>
  literalString

/-! ## Integers -/

/-- Digits of a base, with single underscores between them. -/
def digits (base : Nat) : Reader Nat := do
  let isDigit (c : Char) : Bool := (hexValue? c).any (· < base)
  let groups ← Reader.separated (Reader.char '_') (Reader.takeWhile1 isDigit)
  pure (groups.flatten.foldl (fun n c ↦ base * n + (hexValue? c).getD 0) 0)

/-- Digits after the mark of their base. -/
def marked (mark : List Char) (base : Nat) : Reader Int := do
  Reader.literal mark
  let n ← digits base
  pure (n : Int)

/-- A decimal integer has no zero in front. -/
def decimal : Reader Int := fun s ↦
  let (negative, r) := match s with
    | '-' :: r => (true, r)
    | '+' :: r => (false, r)
    | r => (false, r)
  match r with
  | '0' :: d :: _ => if d.isDigit || d == '_' then .error s else .ok (0, r.drop 1)
  | _ => (do let n ← digits 10; pure (if negative then -(n : Int) else n) : Reader Int) r

/-- An integer of 64 bits. -/
def integer : Reader Int := do
  let n ← marked ['0', 'x'] 16 <|> marked ['0', 'o'] 8 <|> marked ['0', 'b'] 2 <|> decimal
  if Int64.minValue.toInt ≤ n ∧ n ≤ Int64.maxValue.toInt then pure n else Reader.fail

/-! ## Keys -/

/-- A character of a key without quotes. -/
def isKeyChar (c : Char) : Bool := c.isAlphanum || c == '_' || c == '-'

/-- A key without points, and the blanks around it. -/
def key : Reader String := do
  spaces
  let k ← (do let cs ← Reader.takeWhile1 isKeyChar; pure (String.ofList cs)) <|>
    basicString <|> literalString
  spaces
  pure k

/-- Keys with points between them. -/
def keys : Reader (List String) := Reader.separated (Reader.char '.') key

/-! ## Values -/

def comment : Reader Unit := do
  Reader.char '#'
  let _ ← Reader.takeWhile isPlain
  pure ()

/-- An array with nothing in it but blanks, comments and line ends. -/
def emptyArray : Reader Value := do
  Reader.char '['
  let _ ← Reader.many
    ((do let _ ← Reader.takeWhile1 isSpace; pure ()) <|> (do comment; newline) <|> newline)
  Reader.char ']'
  pure .emptyArray

/-- A table in braces, which stands on one line apart from its values. Its keys are different. -/
def inlineTable (value : Reader Value) : Reader Value := do
  Reader.char '\x7b'
  let entries ← Reader.optional (Reader.separated (Reader.char ',') (do
    let k ← key
    Reader.char '='
    spaces
    let v ← value
    spaces
    pure (k, v)))
  spaces
  Reader.char '\x7d'
  let entries := entries.getD []
  if (entries.map Prod.fst).Nodup then pure (.table .inline entries) else Reader.fail

/-- A value with at most `depth` tables in braces around its innermost parts. -/
def valueWithin : Nat → Reader Value
  | 0 => Reader.fail
  | depth + 1 =>
    (do let s ← string; pure (.string s)) <|>
    (do let n ← integer; pure (.integer n)) <|>
    emptyArray <|>
    inlineTable (valueWithin depth)

/-- A value. Every table takes a character, so the length of the text bounds their depth. -/
def value : Reader Value := fun s ↦ valueWithin (s.length + 1) s

/-! ## Lines -/

def header : Reader Line := do
  Reader.char '['
  let path ← keys
  Reader.char ']'
  spaces
  pure (.header path)

def entry : Reader Line := do
  let path ← keys
  Reader.char '='
  spaces
  let v ← value
  spaces
  match path.getLast? with
  | some k => pure (.entry path.dropLast k v)
  | none => Reader.fail

/-- A line holds one header or entry at most, and perhaps a comment. -/
def line : Reader (Option Line) := do
  spaces
  let l ← Reader.optional (header <|> entry)
  let _ ← Reader.optional comment
  pure l

/-- The lines of a document, which may begin with a byte order mark. -/
def lines : Reader (List Line) := do
  let _ ← Reader.optional (Reader.char '\ufeff')
  let ls ← Reader.separated newline line
  pure (ls.filterMap id)

end QueryChain.Toml
