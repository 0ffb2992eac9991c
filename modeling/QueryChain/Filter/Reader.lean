import QueryChain.Filter.Basic
import QueryChain.Text.Bytes
import QueryChain.Text.Letters
import QueryChain.Text.Reader

/-!
# Reading filters

The grammar, in which keywords are read in either case and blanks may stand between any two tokens:

```text
or        ::= and ("OR" and)*
and       ::= unary ("AND" unary)*
unary     ::= "NOT" unary | "(" or ")" | member test
test      ::= "IS" ["NOT"] "NULL"
            | ["NOT"] "IN" "(" literal ("," literal)* ")"
            | ("CONTAINS" | "~" | "STARTSWITH" | "ENDSWITH") string
            | (">=" | "<=" | "<>" | "!=" | "=" | ">" | "<") literal
literal   ::= "TRUE" | "FALSE" | "NULL" | string | number
```

Choices are tried in this order and the first that fits is taken. A keyword must not go on as a
word, so `ORDERS` is a member, and so is `NOT` where a test follows it. In a string a quote is
written twice. An integer must fit 64 bits; digits on both sides of a point make a double.
-/

namespace QueryChain.Filter

open Text

/-! ## Tokens -/

/-- The blanks between tokens. -/
def isSpace (c : Char) : Bool := c == ' ' || c == '\t' || c == '\r' || c == '\n'

def spaces : Reader Unit := do let _ ← Reader.takeWhile isSpace; pure ()

/-- One blank at least. -/
def spaces1 : Reader Unit := do let _ ← Reader.takeWhile1 isSpace; pure ()

/-- The character can go on a word. -/
def continuesWord (c : Char) : Bool := isAlphanumeric c || c == '_'

/-- The text goes on with the given lower-case letters, in either case. -/
def startsFolded (word s : List Char) : Bool := (s.take word.length).map Char.toLower == word

/-- A keyword, given in lower case, that is not the beginning of a longer word. -/
def keyword (word : String) : Reader Unit := fun s ↦
  let rest := s.drop word.toList.length
  if startsFolded word.toList s && !rest.head?.any continuesWord then .ok ((), rest) else .error s

/-- A member name: a letter or underscore, then letters, digits, underscores and points. -/
def identifier : Reader String := fun s ↦
  match s with
  | c :: r =>
    if isAlphabetic c || c == '_' then
      let inName (d : Char) : Bool := isAlphanumeric d || d == '_' || d == '.'
      .ok (String.ofList (c :: r.takeWhile inName), r.dropWhile inName)
    else .error s
  | [] => .error []

/-- The quote around a string. -/
def quote : Char := '\x27'

/-- The inside of a string and the text after its closing quote. -/
def quotedRest : List Char → Except (List Char) (List Char × List Char)
  | [] => .error []
  | c :: r =>
    if c = quote then
      match r with
      | d :: r' => if d = quote then (quotedRest r').map fun (cs, rest) ↦ (quote :: cs, rest)
        else .ok ([], d :: r')
      | [] => .ok ([], [])
    else (quotedRest r).map fun (cs, rest) ↦ (c :: cs, rest)

/-- A string between quotes; a quote inside is written twice. -/
def quotedString : Reader String := do
  Reader.char quote
  let cs ← (quotedRest : Reader (List Char))
  pure (String.ofList cs)

/-- A number: an optional minus, digits, and perhaps a point with digits on both sides. -/
def number : Reader Value := fun s ↦
  let (negative, r) := match s with
    | '-' :: r => (true, r)
    | r => (false, r)
  let whole := r.takeWhile Char.isDigit
  let rest := r.dropWhile Char.isDigit
  if whole = [] then .error r
  else
    let integer : Except (List Char) (Value × List Char) :=
      let n : Int := Nat.ofDigitChars 10 whole 0
      match Value.ofInt? (if negative then -n else n) with
      | some v => .ok (v, rest)
      | none => .error s
    match rest with
    | '.' :: tail =>
      let fraction := tail.takeWhile Char.isDigit
      if fraction = [] then integer
      else
        .ok (.double (Numeral.toDouble negative ⟨whole, fraction, 0⟩), tail.dropWhile Char.isDigit)
    | _ => integer

def literal : Reader Value :=
  (do keyword "true"; pure (.bool true)) <|>
  (do keyword "false"; pure (.bool false)) <|>
  (do keyword "null"; pure .null) <|>
  (do let s ← quotedString; pure (.string s)) <|>
  number

/-! ## Tests -/

/-- The word `NOT` before another keyword. -/
def negation? : Reader Bool := do
  let n ← Reader.optional (do keyword "not"; spaces1)
  pure n.isSome

def nullTest : Reader Test := do
  keyword "is"
  spaces1
  let negative ← negation?
  keyword "null"
  pure (if negative then .isNotNull else .isNull)

/-- A comma with blanks around it. -/
def comma : Reader Unit := do
  spaces
  Reader.char ','
  spaces

def setTest : Reader Test := do
  let negative ← negation?
  keyword "in"
  spaces
  Reader.char '('
  spaces
  let values ← Reader.separated comma literal
  spaces
  Reader.char ')'
  pure (if negative then .isNotIn values else .isIn values)

def matchWord : Reader StringMatch :=
  (do keyword "contains"; pure .contains) <|>
  (do Reader.char '~'; pure .contains) <|>
  (do keyword "startswith"; pure .startsWith) <|>
  (do keyword "endswith"; pure .endsWith)

def matchTest : Reader Test := do
  let kind ← matchWord
  spaces
  let s ← quotedString
  pure (.matching kind s)

def sign : Reader CompareOp :=
  (do Reader.literal ['>', '=']; pure .ge) <|>
  (do Reader.literal ['<', '=']; pure .le) <|>
  (do Reader.literal ['<', '>']; pure .ne) <|>
  (do Reader.literal ['!', '=']; pure .ne) <|>
  (do Reader.literal ['=']; pure .eq) <|>
  (do Reader.literal ['>']; pure .gt) <|>
  (do Reader.literal ['<']; pure .lt)

def comparison : Reader Test := do
  let op ← sign
  spaces
  let v ← literal
  pure (.compare op v)

/-- A member and its test. -/
def condition : Reader Filter := do
  let member ← identifier
  spaces
  let t ← nullTest <|> setTest <|> matchTest <|> comparison
  pure (.test member t)

/-! ## Connectives -/

/-- A connective with blanks around it. -/
def connective (word : String) : Reader Unit := do
  spaces
  keyword word
  spaces

/-- Operands under `AND`, and those under `OR`, which binds looser. Both group to the left. -/
def disjunction (operand : Reader Filter) : Reader Filter :=
  Reader.chain (connective "or") .or (Reader.chain (connective "and") .and operand)

/-- An operand with at most `depth` negations and parentheses around its members. -/
def unary : Nat → Reader Filter
  | 0 => Reader.fail
  | depth + 1 =>
    (do keyword "not"; spaces; let f ← unary depth; pure (.not f)) <|>
    (do
      Reader.char '('
      spaces
      let f ← disjunction (unary depth)
      spaces
      Reader.char ')'
      pure f) <|>
    condition

/-- A filter. Every negation and every parenthesis takes a character, so the length of the text
bounds their depth. -/
def filter : Reader Filter := fun s ↦ disjunction (unary (s.length + 1)) s

/-! ## Whole texts -/

/-- The error for the place in `whole` where only `rest` is left. -/
def errorAt (whole rest : List Char) (message : String) : Error :=
  .parse (byteLength whole - byteLength rest) (message ++ " '" ++ String.ofList rest ++ "'")

/-- The filter that a text is, apart from blanks at both ends. Positions in errors count from the
first character that is not blank. -/
def ofText (text : String) : Except Error Filter :=
  let s := trim text.toList
  if s = [] then .error (.parse 0 "Empty filter expression")
  else match filter s with
    | .ok (f, []) => .ok f
    | .ok (_, rest) => .error (errorAt s rest "Unexpected trailing content:")
    | .error rest => .error (errorAt s rest "Expected a condition near")

end QueryChain.Filter

/-- The predicate that a filter text stands for. -/
def QueryChain.Predicate.ofText (text : String) : Except Error Predicate := do
  (← Filter.ofText text).toPredicate
