import GridRobot.Console.Arguments
import GridRobot.Session
import GridRobot.World

/-!
The command line: a level and a program file are loaded and run, straight through or step by step with
a command for every instruction. The exit code is 0 if the run reaches the goal, else 1.
-/
namespace GridRobot.Console

/-- What a user types at a prompt; the end of the input counts as an interruption. -/
inductive Entry
  | line (text : String)
  | interrupt

inductive CommandError
  | catalog (fault : CatalogFault)
  | session (error : SessionError)
  /-- The speed is given with nothing for a value. -/
  | speed (fault : OrderFault)

namespace CommandError

def message : CommandError → String
  | .catalog fault => fault.message
  | .session error => error.message
  | .speed fault => fault.message

end CommandError

inductive Status
  | code (n : Nat)
  | exit (n : Nat)
  | failed (error : CommandError)

structure Prompts where
  count : Nat := 0
  lines : Nat := 0

structure Outcome where
  status : Status
  out : List String := []
  errors : List String := []
  prompts : Prompts := {}

def stepHelp : List String := [
  "",
  "=== Step Mode ===",
  "  s  - step one instruction",
  "  c  - continue without pausing",
  "  r  - reset the level and start stepping again",
  "  q  - quit",
  "  w  - show the world",
  "=================",
  ""]

def worldLines (s : Session) : List String :=
  [s.world.picture, "Registers: " ++ s.world.registers.text "  "]

def printResult (s : Session) : Session × Nat :=
  match s.engine.result? with
  | none => (s.print ["[CLI] No result - run did not finish"], 1)
  | some result =>
    (s.print (worldLines s ++ ["[CLI] " ++ result.summary]), if result.ending = .success then 0 else 1)

def conclude (s : Session) : Session × Except SessionError Nat :=
  match s.wait with
  | .error error => (s, .error error)
  | .ok _ =>
    let (s, code) := printResult s
    (s, .ok code)

def runStraight (speed : Json) (s : Session) : Session × Except SessionError Nat :=
  match s.run (some speed) (.bool false) with
  | (s, .error error) => (s, .error error)
  | (s, .ok false) => (s, .ok 1)
  | (s, .ok true) => conclude s.join

inductive StepCommand
  | step
  | continue
  | reset
  | quit
  | world
  | help
  | unknown (text : String)

def StepCommand.ofLine (line : String) : StepCommand :=
  let word := Text.lowercase (String.ofList (Text.trimBoth Text.isBlank line.toList))
  if ["", "s", "step"].contains word then .step
  else if ["c", "continue"].contains word then .continue
  else if ["r", "reset"].contains word then .reset
  else if ["q", "quit", "exit"].contains word then .quit
  else if ["w", "world"].contains word then .world
  else if word == "help" then .help
  else .unknown word

def StepCommand.ofEntry : Entry → StepCommand
  | .line text => .ofLine text
  | .interrupt => .quit

def restart (speed : Json) (s : Session) : Session × Except SessionError Unit :=
  match s.reset with
  | (s, .error error) => (s, .error error)
  | (s, .ok ()) =>
    let (s, answer) := (s.print (worldLines s)).step (some speed)
    (s, answer.map fun _ => ())

def StepCommand.perform (speed : Json) (s : Session) : StepCommand → Session × Except SessionError Bool
  | .step =>
    let (s, answer) := s.step none
    (s.join, answer.map fun _ => true)
  | .continue => (s.continueRun.1.join, .ok true)
  | .reset =>
    let (s, answer) := restart speed s
    (s.join, answer.map fun _ => true)
  | .quit => (s.cancel, .ok false)
  | .world => (s.print (worldLines s), .ok true)
  | .help => (s.print stepHelp, .ok true)
  | .unknown text => (s.print ["Unknown command '" ++ text ++ "'. Type 'help'."], .ok true)

def Prompts.next (prompts : Prompts) (s : Session) : Prompts := ⟨prompts.count + 1, s.engine.printed.length⟩

def stepLoop (speed : Json) (prompts : Prompts) (s : Session) (entries : List Entry) :
    Prompts × Session × Except SessionError Unit :=
  match s.pending? with
  | none => (prompts, s, .ok ())
  | some suspension =>
    let s := s.print ["[" ++ toString suspension.index ++ "] > " ++ suspension.node.describe]
    match entries with
    | [] => (prompts.next s, s.cancel, .ok ())
    | entry :: rest =>
      match (StepCommand.ofEntry entry).perform speed s with
      | (after, .error error) => (prompts.next s, after, .error error)
      | (after, .ok true) => stepLoop speed (prompts.next s) after rest
      | (after, .ok false) => (prompts.next s, after, .ok ())

def runStepping (speed : Json) (entries : List Entry) (s : Session) :
    Prompts × Session × Except SessionError Nat :=
  match s.step (some speed) with
  | (s, .error error) => ({}, s, .error error)
  | (s, .ok false) => ({}, s, .ok 1)
  | (s, .ok true) =>
    match stepLoop speed {} (s.join.print stepHelp) entries with
    | (prompts, s, .error error) => (prompts, s, .error error)
    | (prompts, s, .ok ()) => (prompts, conclude s)

def isReported : SessionError → Bool
  | .file (.decoding _) | .file .nullCharacter => false
  | .program (.decoding _) | .program (.node (.typeTag _)) => false
  | .file _ | .program _ | .engine _ => true
  | _ => false

structure Surroundings where
  settings : Settings
  allocation : Allocation
  /-- The level file when none is named. -/
  levelsPath : String
  files : Files
  draws : Draws
  entries : List Entry

/-- The id of the level to run on: the one that the options give, or the program's own. An option without
a value asks for a level that is nowhere. -/
def wantedLevel (options : Options) (file : ProgramFile) : Json :=
  match options.level with
  | none => file.level.toJson
  | some none => .arr []
  | some (some n) => .int n

def runProgram (here : Surroundings) (options : Options) (speed : Json) (program : String) (s : Session) :
    Prompts × Session × Except SessionError Nat :=
  match s.loadFile here.files program with
  | (s, .error error) =>
    if isReported error then
      ({}, s.print ["[CLI] ERROR Could not load " ++ program ++ ": " ++ error.message], .ok 1)
    else ({}, s, .error error)
  | (s, .ok file) =>
    match s.loadLevel (wantedLevel options file) with
    | (s, .error error) => ({}, s, .error error)
    | (s, .ok _) =>
      let s := s.print (worldLines s)
      if options.step then runStepping speed here.entries s else ({}, runStraight speed s)

def levelsFile (here : Surroundings) (options : Options) : String :=
  match options.levels with
  | none | some "" => here.settings.levelsFile.getD here.levelsPath
  | some path => path

def play (here : Surroundings) (options : Options) (speed : Json) (program : String) : Outcome :=
  let verbose := here.settings.verbose
  let (loading, loaded) := Catalog.load verbose here.files (levelsFile here options)
  match loaded with
  | .error fault => { status := .failed (.catalog fault), out := loading }
  | .ok catalog =>
    let observer := Observer.console "Engine" (options.verbose || verbose)
    let (starting, started) := Session.start here.allocation catalog (.int 1) here.draws [observer]
      (.num (.float here.settings.baseDelay)) (.ofInt here.settings.maxCallDepth) verbose
    match started with
    | .error fault => { status := .failed (.session (.world fault)), out := loading ++ starting }
    | .ok s =>
      let (prompts, s, answer) := runProgram here options speed program s
      let status := match answer with
        | .ok code => Status.code code
        | .error error => .failed (.session error)
      { status, prompts := { prompts with lines := loading.length + prompts.lines }
        out := loading ++ s.engine.printed.reverse }

def run (here : Surroundings) (arguments : List String) : Outcome :=
  match readArguments arguments here.settings.defaultSpeed with
  | .error .help => { status := .exit 0, out := help here.settings.defaultSpeed }
  | .error (.error error) => { status := .exit 2, errors := error.report }
  | .ok (options, program) => match options.speed with
    | none => { status := .failed (.speed ⟨.atMost, (Json.arr []).kindName, (Json.int 0).kindName⟩) }
    | some speed =>
      if speed.isNonPositive then
        { status := .code 1, out := ["[CLI] ERROR --speed must be positive, got " ++ speed.brief] }
      else play here options (.num (.float speed)) program

end GridRobot.Console
