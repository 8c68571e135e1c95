import GridQuery.CommandLine.Run

/-! # The program

Reads what a command needs, runs it and prints its outcome. -/

namespace GridQuery.CommandLine

def readStatus (path : String) : IO FileStatus := do
  try
    pure (.text (← IO.FS.readFile path))
  catch
    | .noFileOrDirectory .. => pure .missing
    | .inappropriateType .. => pure .directory
    | .permissionDenied .. => pure (.unreadable true "Permission denied (os error 13)")
    | e => pure (.unreadable true (toString e))

def userDirectory : IO (Option String) := do
  match ← IO.getEnv "XDG_CONFIG_HOME" with
  | some path => if path.startsWith "/" then return some path
  | none => pure ()
  match ← IO.getEnv "HOME" with
  | some home => return if home.isEmpty then none else some (home ++ "/.config")
  | none => return none

/-- Runs a command line with the files it names. -/
def runWithFiles (words : List String) : IO Outcome := do
  let configVariable ← IO.getEnv "GRIDSQL_CONFIG"
  let userConfig := (← userDirectory).map (· ++ "/gridsql/config.toml")
  let needed := match parse words with
    | .ok i => paths i configVariable userConfig
    | .error _ => []
  let files ← needed.mapM fun path => do pure (path, ← readStatus path)
  let status (path : String) : FileStatus := (files.lookup path).getD .missing
  pure (run { configVariable, userConfig, status } words)

end GridQuery.CommandLine

def main (words : List String) : IO UInt32 := do
  let outcome ← GridQuery.CommandLine.runWithFiles words
  (← IO.getStdout).putStr outcome.out
  (← IO.getStderr).putStr outcome.err
  pure outcome.code
