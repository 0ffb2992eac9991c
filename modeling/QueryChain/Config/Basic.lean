import QueryChain.Config.Files
import QueryChain.Config.Toml.Document
import QueryChain.Dialect

/-!
# Settings

Every setting can be left out and then has its default. A file may name each setting once and
nothing else. It is looked for at the given path, which must exist; without one, first in the
working directory and then in the user's directory for settings, and if there is none the defaults
hold.
-/

namespace QueryChain

/-- The settings of a run. -/
structure Config where
  databaseUrl : Option String := none
  dialect : Dialect := .sqlServer
  /-- What is logged unless the environment says otherwise. -/
  logLevel : String := "warn"
  /-- How many connections may be open at once. -/
  maxConnections : UInt32 := 5
deriving DecidableEq

namespace Config

/-- The message about a malformed file. -/
def malformed : String := "TOML parse error"

/-- The dialect with the given name, which has one spelling here. -/
def dialectNamed? (name : String) : Option Dialect :=
  [Dialect.sqlServer, Dialect.postgres].find? fun d ↦ d.name == name

/-- The dialect that a value stands for: a string with its name, or a table that has its name as the
only key, with nothing behind it. -/
def dialect? : Toml.Value → Option Dialect
  | .string name => dialectNamed? name
  | .table _ [(name, v)] => if v.isEmpty then dialectNamed? name else none
  | _ => none

/-- Sets one setting; a setting that does not exist, or a value that it cannot have, is none. -/
def set (c : Config) : String × Toml.Value → Option Config
  | ("database_url", .string s) => some { c with databaseUrl := some s }
  | ("dialect", v) => (dialect? v).map fun d ↦ { c with dialect := d }
  | ("log_level", .string s) => some { c with logLevel := s }
  | ("max_connections", .integer n) =>
    if 0 ≤ n ∧ n < UInt32.size then some { c with maxConnections := UInt32.ofNat n.toNat } else none
  | _ => none

/-- The settings of a text. -/
def ofToml? (s : String) : Option Config := (Toml.entries? s).bind (·.foldlM set {})

/-- The settings of a text, or an error. -/
def ofToml (s : String) : Except Error Config :=
  match ofToml? s with
  | some c => .ok c
  | none => .error (.config malformed)

/-- The name of the file in the working directory. -/
def fileName : String := "shadowq.toml"

/-- Where settings are looked for if no path is given. -/
def searchPaths (userDirectory : Option String) : List String :=
  fileName :: (userDirectory.map (· ++ "/shadowq/config.toml")).toList

/-- The settings in a file. -/
def ofFile (files : Files) (path : String) : Except Error Config :=
  match files.read path with
  | .error reason => .error (.io reason)
  | .ok text =>
    match ofToml? text with
    | some c => .ok c
    | none => .error (.config (path ++ ": " ++ malformed))

/-- The first settings found. -/
def load (files : Files) (userDirectory path : Option String) : Except Error Config :=
  match path with
  | some p => ofFile files p
  | none =>
    match (searchPaths userDirectory).find? files.has with
    | some p => ofFile files p
    | none => .ok {}

end Config

end QueryChain
