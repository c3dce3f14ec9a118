import GridRobot.Console.Command

/-!
The program itself: it reads the files that the arguments name, runs the command, and prints what that
leaves. For every prompt that is still to be answered a line is read and the command taken up again.
-/
namespace GridRobot.Main

/-- What is locked: the path of a file leads nowhere if something is to come after it. -/
def locked (path : String) : IO Stored := do
  try
    let _ ← IO.FS.readBinFile (path ++ "/.")
    return .lockedDirectory
  catch
    | .permissionDenied .. => return .lockedDirectory
    | _ => return .lockedFile

def stored (path : String) : IO (Option Stored) := do
  try
    let bytes ← IO.FS.readBinFile path
    return some (.file bytes.toList)
  catch
    | .noFileOrDirectory .. => return none
    | .permissionDenied .. => some <$> locked path
    | _ => return some .directory

def bundledPath : String := "levels.json"

def bundled : Stored := .file Catalog.bundledText.toUTF8.toList

def filesAt (paths : List String) : IO Files := do
  let entries ← paths.mapM fun path => return (path, ← stored path)
  return fun path => match entries.lookup path with
    | some found => found
    | none => if path == bundledPath then some bundled else none

def memory : Nat := Nat.pow 2 35

def printLines (lines : List String) : IO Unit := lines.forM IO.println

/-- Answers prompts with lines of the standard input; `shown` lines are printed already. -/
partial def interact (here : Console.Surroundings) (arguments : List String) (shown : Nat) :
    IO Console.Outcome := do
  let outcome := Console.run here arguments
  if here.entries.length < outcome.prompts.count then
    printLines ((outcome.out.take outcome.prompts.lines).drop shown)
    IO.print "debug> "
    (← IO.getStdout).flush
    let line ← (← IO.getStdin).getLine
    if line.isEmpty then
      printLines (outcome.out.drop outcome.prompts.lines)
      return outcome
    else
      interact { here with entries := here.entries ++ [.line line] } arguments outcome.prompts.lines
  else
    printLines (outcome.out.drop shown)
    return outcome

def exitCode : Console.Status → UInt32
  | .code n | .exit n => UInt32.ofNat n
  | .failed _ => 1

def run (arguments : List String) : IO UInt32 := do
  let names := ["BASE_DELAY_MS", "DEFAULT_SPEED", "MAX_CALL_DEPTH", "LEVELS_FILE", "VERBOSE_LOGGING"]
  let environment ← names.mapM fun name => return (name, ← IO.getEnv name)
  match Settings.ofEnvironment fun name => (environment.lookup name).join with
  | .error fault =>
    IO.eprintln fault.message
    return 1
  | .ok settings =>
    let named := match Console.readArguments arguments settings.defaultSpeed with
      | .ok (options, program) => program :: options.levels.toList
      | .error _ => []
    let paths := named ++ settings.levelsFile.toList
    let files ← filesAt (paths.flatMap fun path => Files.outer path ++ [path])
    let seed ← IO.rand 0 (UInt64.size - 1)
    let outcome ← interact
      { settings, allocation := .within memory, levelsPath := bundledPath, files, draws := .ofSeed (UInt64.ofNat seed), entries := [] } arguments 0
    outcome.errors.forM IO.eprintln
    match outcome.status with
    | .failed error => IO.eprintln error.message
    | _ => pure ()
    return exitCode outcome.status

end GridRobot.Main

def main (arguments : List String) : IO UInt32 := GridRobot.Main.run arguments
