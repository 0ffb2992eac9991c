import QueryChain.CommandLine.Listing
import QueryChain.Dialect
import QueryChain.Query.Operator

/-!
# Arguments of the command

The words of a command line are first cut into items: the name of a source, a flag, or an option
with its value. A value is part of the word of its option or is the word after it; only in the first
case may it begin with a dash. Flags of one letter can be joined, and the last letter of such a word
may be an option. After the word `--` every word is a name.

The items are then collected. An option that can be given several times keeps all its values; any
other option or flag may be given once.
-/

namespace QueryChain.CommandLine

/-- An option that takes a value. -/
inductive ValueOption
  | functionArgument
  | filter
  | orderBy
  | skip
  | take
  | select
  | format
  | dialect
  | databaseUrl
  | config
deriving DecidableEq

/-- An option that takes no value. -/
inductive Flag
  | count
  | first
  | firstOrDefault
  | dryRun
deriving DecidableEq

/-- What an option of either kind is called. -/
inductive OptionName
  | value (o : ValueOption)
  | flag (f : Flag)
deriving DecidableEq

namespace OptionName

/-- The option with a name that follows two dashes. -/
def ofLong? (name : String) : Option OptionName :=
  [("function-arg", value .functionArgument), ("where", value .filter),
    ("order-by", value .orderBy), ("skip", value .skip), ("take", value .take),
    ("select", value .select), ("count", flag .count), ("first", flag .first),
    ("first-or-default", flag .firstOrDefault), ("dry-run", flag .dryRun),
    ("format", value .format), ("dialect", value .dialect), ("database-url", value .databaseUrl),
    ("config", value .config)].lookup name

/-- The option with a letter that follows one dash. -/
def ofShort? (letter : Char) : Option OptionName :=
  [('w', value .filter), ('o', value .orderBy), ('s', value .select), ('d', flag .dryRun),
    ('f', value .format), ('c', value .config)].lookup letter

end OptionName

/-! ## Items -/

/-- A part of a command line. -/
inductive Item
  | name (text : String)
  | flag (f : Flag)
  | option (o : ValueOption) (value : String)
deriving DecidableEq

/-- The text of a name. -/
def Item.name? : Item → Option String
  | name text => some text
  | _ => none

/-- The items of letters that follow one dash, and the option that waits for its value at the end.
-/
def joinedItems? : List Char → Option (List Item × Option ValueOption)
  | [] => some ([], none)
  | c :: rest =>
    match OptionName.ofShort? c, rest with
    | none, _ => none
    | some (.flag f), rest => (joinedItems? rest).map fun r ↦ (.flag f :: r.1, r.2)
    | some (.value o), [] => some ([], some o)
    | some (.value o), '=' :: v => some ([.option o (String.ofList v)], none)
    | some (.value o), v => some ([.option o (String.ofList v)], none)

/-- The item of a word that follows two dashes, or the option that waits for its value. -/
def longItem? (word : List Char) : Option (List Item × Option ValueOption) :=
  let name := String.ofList (word.takeWhile (· != '='))
  match OptionName.ofLong? name, word.dropWhile (· != '=') with
  | some (.flag f), [] => some ([.flag f], none)
  | some (.value o), [] => some ([], some o)
  | some (.value o), _ :: v => some ([.option o (String.ofList v)], none)
  | _, _ => none

/-- The word can stand alone: it is no option. A single dash is none. -/
def isPlain (word : String) : Bool :=
  match word.toList with
  | '-' :: _ :: _ => false
  | _ => true

/-- The items of a command line; `waiting` is the option whose value comes next. -/
def items? (waiting : Option ValueOption) : List String → Option (List Item)
  | [] => if waiting.isNone then some [] else none
  | word :: rest =>
    if isPlain word then
      let item := match waiting with
        | some o => Item.option o word
        | none => Item.name word
      (items? none rest).map (item :: ·)
    else if waiting.isSome then none
    else if word = "--" then some (rest.map Item.name)
    else
      let parsed := match word.toList with
        | '-' :: '-' :: long => longItem? long
        | '-' :: letters => joinedItems? letters
        | _ => none
      match parsed with
      | none => none
      | some (found, next) => (items? next rest).map (found ++ ·)

/-! ## Arguments -/

/-- What a command line asks for. -/
structure Arguments where
  source : String
  functionArguments : List String := []
  filters : List String := []
  orderKeys : List String := []
  skip : Option Int64 := none
  take : Option Int64 := none
  fields : List String := []
  terminal : Option Terminal := none
  dryRun : Bool := false
  format : Option Format := none
  dialect : Option Dialect := none
  databaseUrl : Option String := none
  config : Option String := none

namespace Arguments

/-- The number that a text stands for: digits, with or without a sign. -/
def integer? (s : String) : Option Int64 :=
  let (negative, ds) := Numeral.splitSign s.toList
  if ds.isEmpty || !ds.all Char.isDigit then none
  else
    let n : Int := Nat.ofDigitChars 10 ds 0
    let m := if negative then -n else n
    if Int64.minValue.toInt ≤ m ∧ m ≤ Int64.maxValue.toInt then some (Int64.ofInt m) else none

/-- A value for something that has none so far. -/
def once {α : Type} (old : Option α) (new : α) : Option (Option α) :=
  if old.isNone then some (some new) else none

/-- The arguments after one more flag. One terminal can be asked for at most. -/
def setFlag (a : Arguments) : Flag → Option Arguments
  | .count => (once a.terminal (.count none)).map ({ a with terminal := · })
  | .first => (once a.terminal (.first none)).map ({ a with terminal := · })
  | .firstOrDefault => (once a.terminal (.firstOrDefault none)).map ({ a with terminal := · })
  | .dryRun => if a.dryRun then none else some { a with dryRun := true }

/-- The arguments after one more option. -/
def setOption (a : Arguments) (value : String) : ValueOption → Option Arguments
  | .functionArgument => some { a with functionArguments := a.functionArguments ++ [value] }
  | .filter => some { a with filters := a.filters ++ [value] }
  | .orderBy => some { a with orderKeys := a.orderKeys ++ [value] }
  | .select => some { a with fields := a.fields ++ value.splitOn "," }
  | .skip => do pure { a with skip := ← once a.skip (← integer? value) }
  | .take => do pure { a with take := ← once a.take (← integer? value) }
  | .format => do pure { a with format := ← once a.format (← Format.ofName? value) }
  | .dialect => do pure { a with dialect := ← once a.dialect (← (Dialect.ofName value).toOption) }
  | .databaseUrl => do pure { a with databaseUrl := ← once a.databaseUrl value }
  | .config =>
    if value.isEmpty then none else do pure { a with config := ← once a.config value }

/-- The arguments after one more item. -/
def add (a : Arguments) : Item → Option Arguments
  | .name _ => some a
  | .flag f => a.setFlag f
  | .option o value => a.setOption value o

/-- The arguments that a command line gives, which must name one source. -/
def ofWords? (words : List String) : Option Arguments := do
  let items ← items? none words
  match items.filterMap Item.name? with
  | [source] => items.foldlM add { source }
  | _ => none

end Arguments

end QueryChain.CommandLine
