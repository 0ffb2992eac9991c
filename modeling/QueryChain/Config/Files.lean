/-!
# Files

What a run sees of the file system: which paths exist, and what is read there.
-/

namespace QueryChain

/-- A view of the file system. -/
structure Files where
  /-- Something stands at the path. -/
  has : String → Bool
  /-- The text at the path, or why there is none. -/
  read : String → Except String String

namespace Files

/-- The reason when nothing stands at a path. -/
def missing : String := "No such file or directory (os error 2)"

/-- The reason when a path leads through a file. -/
def notDirectory : String := "Not a directory (os error 20)"

/-- The reason when a directory stands at a path. -/
def isDirectory : String := "Is a directory (os error 21)"

/-- The reason when a path, or a name in it, has too many bytes. -/
def nameTooLong : String := "File name too long (os error 36)"

end Files

end QueryChain
