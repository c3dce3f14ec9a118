import GridRobot.Level.Catalog
import GridRobot.Program.File
import GridRobot.Run.Host

/-!
A session holds a level, a program and one engine, and drives runs in the background. Every operation is followed until
the run has ended, waits for somebody to step, or sits in its delay. Nothing can be edited while a run is active. The
worker that drives runs, and its signals, are in `Controller`.
-/
namespace GridRobot

structure Session where
  allocation : Allocation
  catalog : Catalog
  level : Level
  engine : Engine
  verbose : Bool := false
  program : Body := []
  functions : Body := []
  /-- The run waits at a suspension for a step. -/
  waiting : Bool := false
  /-- What broke the last run. -/
  fault : Option RunFault := none

inductive SessionError
  | engine (error : EngineError)
  | nestedDefinition
  | table (fault : KeyFault)
  | program (error : ImportError)
  | file (fault : FileFault)
  | world (fault : WorldFault)
  | register (fault : RegisterFault)
  | run (fault : RunFault)

namespace SessionError

def message : SessionError → String
  | .engine e => e.message
  | .nestedDefinition => "Function definitions cannot be nested inside a body"
  | .table f => f.message
  | .program e => e.message
  | .file f => f.message
  | .world f => f.message
  | .register f => f.message
  | .run f => f.message

end SessionError

namespace Session

abbrev Answer (α : Type) := Session × Except SessionError α

def world (s : Session) : World := s.engine.world

def isRunning (s : Session) : Bool := s.engine.isActive

def print (lines : List String) (s : Session) : Session := { s with engine := s.engine.print lines }

def logAs (text : String) (severity : Severity) (s : Session) : Session :=
  { s with engine := s.engine.logAs (.message (.str text)) severity }

/-- A new session on a level of a catalog, with the lines printed so far. -/
def start (allocation : Allocation) (catalog : Catalog) (wanted : Json) (draws : Draws) (observers : List Observer)
    (baseDelay : Json) (callLimit : CallLimit) (verbose : Bool) : List String × Except WorldFault Session :=
  let (lines, level) := catalog.get wanted
  (lines, (level.world allocation).map fun world =>
    { allocation, catalog, level, verbose,
      engine := { world, draws, observers, baseDelay, callLimit, printed := lines.reverse } })

def pending? (s : Session) : Option Suspension := if s.waiting then s.engine.pending? else none

def broken (fault : RunFault) (s : Session) : Session :=
  { s with waiting := false, fault := some fault }.print ["[Debugger] ERROR run crashed: " ++ fault.message]

def ended (s : Session) : Session :=
  match s.engine.fault? with
  | some fault => s.broken fault
  | none => { s with waiting := false, fault := none }

/-- Lets the active run go on by itself: to its end, to a suspension that waits for a step, or, unless
delays are waited out, into a delay. A cancelled run does not wait. A delay that is too long leaves the
run where it is. -/
def drive (patient : Bool) (s : Session) : Session :=
  match _pending : s.engine.advance.pending? with
  | none => { s with engine := s.engine.advance }.ended
  | some suspension =>
    match s.engine.advance.sleep (.num (.float suspension.delay)) with
    | .error fault => { s with engine := s.engine.advance }.broken fault
    | .ok cancelled =>
      let waits := suspension.isInteractive || (suspension.delay.isPositive && !patient)
      if waits && !cancelled then
        { s with engine := s.engine.advance, waiting := suspension.isInteractive }
      else drive patient { s with engine := s.engine.advance }
termination_by s.engine.budget
decreasing_by exact Engine.budget_advance_lt _pending

/-- Whether a run is under way that nothing drives any more. -/
def isStranded (s : Session) : Bool := s.isRunning && s.fault.isSome

/-- Waits out the delays of a run that nobody steps through. -/
def join (s : Session) : Session :=
  if s.isRunning && !s.waiting && !s.isStranded then s.drive true else s

def release (s : Session) : Session := { s with waiting := false }.drive false

def rebuildWorld (s : Session) : Answer Unit :=
  match s.level.world s.allocation with
  | .error fault => (s, .error (.world fault))
  | .ok world => match s.engine.setWorld world with
    | .error error => (s, .error (.engine error))
    | .ok engine => ({ s with engine }, .ok ())

def logGiven (label : String) (value : Json) (s : Session) : Session :=
  if value.isTruthy then s.logAs (label ++ value.text) .info else s

/-- Switches the level; the program stays. -/
def loadLevel (wanted : Json) (s : Session) : Answer Level :=
  if s.isRunning then (s, .error (.engine .alreadyRunning))
  else
    let (lines, level) := s.catalog.get wanted
    match ({ s with level }.print lines).rebuildWorld with
    | (s, .error error) => (s, .error error)
    | (s, .ok ()) =>
      let s := s.logAs ("Level " ++ toString level.id ++ ": " ++ level.name ++ " loaded") .success
      ((s.logGiven "Objective: " level.description).logGiven "Hint: " level.hint, .ok level)

def nextLevel (s : Session) : Answer (Option Level) :=
  match s.catalog.nextId s.level.id with
  | none => (s.logAs "ALL LEVELS COMPLETED! You are THE ONE." .success, .ok none)
  | some id =>
    let (s, answer) := s.loadLevel (.int id)
    (s, answer.map some)

def setProgram (main functions : Body) (s : Session) : Answer Unit :=
  if s.isRunning then (s, .error (.engine .alreadyRunning))
  else if Instruction.hasNestedDefinition main || Instruction.hasNestedDefinition functions then
    (s, .error .nestedDefinition)
  else ({ s with program := main, functions }, .ok ())

def importProgram (source : Source) (s : Session) : Answer ProgramFile :=
  if s.isRunning then (s, .error (.engine .alreadyRunning))
  else
    let (lines, read) := ProgramFile.import? s.verbose source
    let s := s.print lines
    match read with
    | .error error => (s.logAs ("Import failed: " ++ error.message) .error, .error (.program error))
    | .ok file =>
      let s := { s with program := file.main, functions := file.functions }
      let s := file.warnings.foldl (fun s warning => s.logAs warning .warning) s
      let s := s.logAs
        ("Program imported successfully from level " ++ file.level.text ++ ": " ++ file.levelName) .success
      (if file.exportDate.isEmpty then s
        else s.logAs ("Originally exported on " ++ file.exportDate) .info, .ok file)

def loadFile (files : Files) (path : String) (s : Session) : Answer ProgramFile :=
  if s.isRunning then (s, .error (.engine .alreadyRunning))
  else match files.readText path with
  | .error fault => (s, .error (.file fault))
  | .ok text => s.importProgram (.text text)

def exportProgram (files : Files) (path stamp date : String) (s : Session) : Session × String × String :=
  let level := Json.int s.level.id
  let isDirectory := match files path with
    | some .directory | some .lockedDirectory => true
    | _ => false
  let target := ProgramFile.target path isDirectory level stamp
  let text := programText s.program s.functions level (.str s.level.name) (.str date)
  let s := s.print (ProgramFile.exportedLines s.verbose target)
  (s.logAs "Program exported successfully" .success, target, text)

def clearProgram (s : Session) : Answer Unit :=
  if s.isRunning then (s, .error (.engine .alreadyRunning))
  else ({ s with program := [] }.logAs "Program cleared" .info, .ok ())

def clearFunctions (s : Session) : Answer Unit :=
  if s.isRunning then (s, .error (.engine .alreadyRunning))
  else ({ s with functions := [] }.logAs "Functions cleared" .info, .ok ())

/-- Sets up a run, which nobody drives yet, or tells that there is nothing to run. -/
def prepare (speed : Option Json) (interactive : Json) (s : Session) : Answer Bool :=
  if s.isRunning then
    ({ s with engine := s.engine.log .alreadyRunning }, .error (.engine .alreadyRunning))
  else if s.program.isEmpty && s.functions.isEmpty then
    (s.logAs "ERROR: No instructions to execute" .error, .ok false)
  else match FunctionTable.ofDefinitions s.functions with
  | .error fault => (s, .error (.table fault))
  | .ok table =>
    let s := table.foldl (fun s entry => s.logAs ("Function '" ++ entry.1.text ++ "' defined") .info) s
    match s.engine.begin s.program table (speed.getD (.num (.float defaultSpeed))) interactive with
    | (engine, .error error) => ({ s with engine }, .error (.engine error))
    | (engine, .ok ()) => ({ s with engine, waiting := false, fault := none }, .ok true)

def run (speed : Option Json) (interactive : Json) (s : Session) : Answer Bool :=
  match s.prepare speed interactive with
  | (s, .ok true) => (s.drive false, .ok true)
  | unprepared => unprepared

def step (speed : Option Json) (s : Session) : Answer Bool :=
  if !s.isRunning then s.run speed (.bool true)
  else if !s.waiting then (s, .ok false)
  else ({ s with engine := s.engine.setInteractive (.bool true) }.release, .ok true)

def continueRun (s : Session) : Session × Bool :=
  if !s.waiting then (s, false)
  else
    let s := { s with engine := s.engine.setInteractive (.bool false) }
    ((s.print (if s.verbose then ["[Debugger] Continuing without stepping"] else [])).release, true)

def cancel (s : Session) : Session :=
  let s := { s with engine := s.engine.cancel }
  if s.isRunning && !s.isStranded then s.release else s

def restore (s : Session) : Answer Unit :=
  match { s with engine := s.engine.setInteractive (.bool false) }.rebuildWorld with
  | (s, .error error) => (s, .error error)
  | (s, .ok ()) => (s.logAs "Level reset" .info, .ok ())

/-- Stops the active run and puts the level back to its start, unless the run is stranded. -/
def reset (s : Session) : Answer Unit :=
  if s.isRunning then
    let s := s.cancel
    match s.fault with
    | some fault => (s, .error (.run fault))
    | none => s.restore
  else s.restore

def wait (s : Session) : Except SessionError (Option RunResult) :=
  match s.fault with
  | some fault => .error (.run fault)
  | none => .ok (if s.isRunning then none else s.engine.result?)

def setRegister (name value : Json) (s : Session) : Answer Unit :=
  match s.world.registers.write name value with
  | .error fault => (s, .error (.register fault))
  | .ok registers => ({ s with engine.world.registers := registers }, .ok ())

def observe (observer : Observer) (s : Session) : Session := { s with engine := s.engine.observe observer }

end Session

end GridRobot
