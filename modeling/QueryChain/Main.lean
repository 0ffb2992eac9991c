import QueryChain.CommandLine.Run

/-!
# The command

Gathers what a run finds around it, runs, and prints. Every decision is made by
`QueryChain.CommandLine.run`.
-/

namespace QueryChain.CommandLine

/-- The reason that an error of the system gives. -/
def reasonOf : IO.Error → String
  | .noFileOrDirectory .. => Files.missing
  | .inappropriateType none .. => Files.isDirectory
  | .inappropriateType (some _) .. => Files.notDirectory
  | .invalidArgument _ _ "name too long" => Files.nameTooLong
  | e => e.toString

/-- The text at a path, or why there is none. -/
def readText (path : String) : IO (Except String String) := do
  try
    return .ok (← IO.FS.readFile path)
  catch e => return .error (reasonOf e)

/-- The files at the paths that a run may read. -/
def readFiles (paths : List String) : IO Files := do
  let texts ← paths.mapM fun p ↦ do return (p, ← readText p)
  let read (p : String) : Except String String := (texts.lookup p).getD (.error Files.missing)
  let has (p : String) : Bool :=
    match read p with
    | .ok _ => true
    | .error reason => reason ∉ [Files.missing, Files.notDirectory, Files.nameTooLong]
  return ⟨has, read⟩

/-- The user's directory for settings. -/
def userDirectory : IO (Option String) := do
  match ← IO.getEnv "XDG_CONFIG_HOME", ← IO.getEnv "HOME" with
  | some directory, home =>
    if directory.startsWith "/" then return some directory else return home.map (· ++ "/.config")
  | none, home => return home.map (· ++ "/.config")

/-- Runs the command with the given words and prints what it says. -/
def perform (words : List String) : IO UInt32 := do
  let directory ← userDirectory
  let explicit := ((Arguments.ofWords? words).bind Arguments.config).toList
  let files ← readFiles (explicit ++ Config.searchPaths directory)
  let stdout ← IO.getStdout
  let outcome := run ⟨files, directory, ← IO.getEnv "SHADOWQ_DATABASE_URL", ← stdout.isTty⟩ words
  stdout.putStr outcome.stdout
  (← IO.getStderr).putStr outcome.stderr
  return outcome.code

end QueryChain.CommandLine

/-- The command. -/
def main (words : List String) : IO UInt32 := QueryChain.CommandLine.perform words
