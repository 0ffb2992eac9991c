import QueryChain.Config.Files

/-!
# Trees of files

A file system held in memory: texts at the leaves and directories around them. A path is walked name
by name from a place in the tree. Every further step has to start at a directory, the last one
included, so that a text has no path with a slash behind it.
-/

namespace QueryChain

/-- A text, or a directory with named trees in it. -/
inductive FileTree where
  | text (content : String)
  | directory (entries : List (String × FileTree))

namespace FileTree

/-- The trees in a directory; a text holds none. -/
def entries : FileTree → List (String × FileTree)
  | text _ => []
  | directory es => es

/-- A tree with another one at the end of a sequence of names. The directories that lead there are
made where they are missing. -/
def insert (t new : FileTree) : List String → FileTree
  | [] => new
  | name :: names =>
    let old := (t.entries.lookup name).getD (directory [])
    directory ((name, old.insert new names) :: t.entries.filter (·.1 != name))

/-! ## Places -/

/-- A place in a tree: what stands there, and the directories around it, the innermost first. -/
structure Place where
  here : FileTree
  around : List FileTree := []

namespace Place

/-- The place one step outwards. The root stands in itself. -/
def out (p : Place) : Place :=
  match p.around with
  | [] => p
  | d :: ds => ⟨d, ds⟩

/-- How many bytes a name may have. -/
def maxName : Nat := 255

/-- The place one step further on. The empty name and `.` stay, `..` goes outwards, and all other
names go into the directory. -/
def step (p : Place) (name : String) : Except String Place :=
  match p.here with
  | .text _ => .error Files.notDirectory
  | .directory es =>
    if name = "" ∨ name = "." then .ok p
    else if name = ".." then .ok p.out
    else if maxName < name.utf8ByteSize then .error Files.nameTooLong
    else
      match es.lookup name with
      | some t => .ok ⟨t, p.here :: p.around⟩
      | none => .error Files.missing

end Place

/-! ## The view -/

/-- How many bytes a path may have. -/
def maxPath : Nat := 4095

/-- The place where a path leads. It starts at the root if it starts with a slash, and otherwise at
the end of the working directory's names. The empty path leads nowhere. -/
def place (root : FileTree) (working : List String) (path : String) : Except String Place :=
  if path = "" then .error Files.missing
  else if maxPath < path.utf8ByteSize then .error Files.nameTooLong
  else
    let names := path.splitOn "/"
    (if path.startsWith "/" then names else working ++ names).foldlM Place.step ⟨root, []⟩

/-- What a run in a working directory sees of a tree. -/
def files (root : FileTree) (working : List String) : Files where
  has path := (root.place working path).isOk
  read path := do
    match (← root.place working path).here with
    | .text content => .ok content
    | .directory _ => .error Files.isDirectory

end FileTree

end QueryChain
