import QueryChain.Number.Layout

/-!
# JSON values and their text

Numbers are kept apart as integers and doubles, because a literal without a point or an exponent is
an integer and stays one. The entries of an object are ordered by key: `Json.ofEntries` is the way
to build one, and of two entries with one key it keeps the later.
-/

namespace QueryChain

/-- A JSON value. -/
inductive Json
  | null
  | bool (b : Bool)
  | integer (n : Int)
  | double (x : Double)
  | string (s : String)
  | array (items : List Json)
  | object (entries : List (String × Json))

namespace Json

/-- Puts an entry into a list that is ordered by key, in place of an entry with the same key. -/
def insertEntry (key : String) (value : Json) : List (String × Json) → List (String × Json)
  | [] => [(key, value)]
  | (k, v) :: rest =>
    if key < k then (key, value) :: (k, v) :: rest
    else if key = k then (key, value) :: rest
    else (k, v) :: insertEntry key value rest

/-- The object with the given entries, ordered by the code points of their keys. -/
def ofEntries (entries : List (String × Json)) : Json :=
  .object (entries.foldl (fun sorted e ↦ insertEntry e.1 e.2 sorted) [])

/-- A double as JSON; what is not finite has no numeral there. -/
def ofDouble (x : Double) : Json := if x.isFinite then .double x else .null

/-! ## Text -/

/-- A digit of a number below sixteen, in lower case. -/
def hexDigit (n : Nat) : Char := Nat.digitChar n

/-- One character inside a JSON string. Only the quote, the backslash and the control characters
are escaped. -/
def escape (c : Char) : List Char :=
  if c = '"' then ['\\', '"']
  else if c = '\\' then ['\\', '\\']
  else if c = '\n' then ['\\', 'n']
  else if c = '\r' then ['\\', 'r']
  else if c = '\t' then ['\\', 't']
  else if c.toNat = 8 then ['\\', 'b']
  else if c.toNat = 12 then ['\\', 'f']
  else if c.toNat < 32 then ['\\', 'u', '0', '0', hexDigit (c.toNat / 16), hexDigit (c.toNat % 16)]
  else [c]

/-- A string between quotes. -/
def quote (s : String) : String :=
  String.ofList ('"' :: (s.toList.flatMap escape ++ ['"']))

/-- The line break and the indentation in front of a part at the given depth. -/
def lineBreak (depth : Nat) : String :=
  String.ofList ('\n' :: List.replicate (2 * depth) ' ')

mutual

/-- The text without any blanks. -/
def compact : Json → String
  | null => "null"
  | bool b => if b then "true" else "false"
  | integer n => toString n
  | double x => Layout.exchange.text x
  | string s => quote s
  | array items => "[" ++ ",".intercalate (compactItems items) ++ "]"
  | object entries => "\x7b" ++ ",".intercalate (compactEntries entries) ++ "\x7d"

def compactItems : List Json → List String
  | [] => []
  | v :: rest => compact v :: compactItems rest

def compactEntries : List (String × Json) → List String
  | [] => []
  | (k, v) :: rest => (quote k ++ ":" ++ compact v) :: compactEntries rest

end

mutual

/-- The text with every part on a line of its own, indented by two blanks for each level. An empty
array or object stays on its line. -/
def pretty (depth : Nat) : Json → String
  | array [] => "[]"
  | array (v :: rest) =>
    "[" ++ ",".intercalate (prettyItems (depth + 1) (v :: rest)) ++ lineBreak depth ++ "]"
  | object [] => "\x7b\x7d"
  | object (e :: rest) =>
    "\x7b" ++ ",".intercalate (prettyEntries (depth + 1) (e :: rest)) ++ lineBreak depth ++ "\x7d"
  | v => compact v

def prettyItems (depth : Nat) : List Json → List String
  | [] => []
  | v :: rest => (lineBreak depth ++ pretty depth v) :: prettyItems depth rest

def prettyEntries (depth : Nat) : List (String × Json) → List String
  | [] => []
  | (k, v) :: rest =>
    (lineBreak depth ++ quote k ++ ": " ++ pretty depth v) :: prettyEntries depth rest

end

end Json

end QueryChain
