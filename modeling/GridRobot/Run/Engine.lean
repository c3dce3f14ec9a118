import GridRobot.Run.Evaluation
import GridRobot.Run.Observer

/-!
The engine runs a program against a world, one instruction at a time. It suspends in front of every instruction;
`advance` executes the one it is suspended at and goes on to the next. What remains of the program is a stack of frames,
which may grow as high as nesting and the limit on calls let it: there is no other limit to break a run. A request to
cancel is heard in front of an instruction, after its suspension, and before each round of a loop.
-/
namespace GridRobot

/-- A pause in front of an instruction, with how long to wait if nobody steps through the run. Somebody does
if `interactive`, which is any value, counts as true. -/
structure Suspension where
  node : Instruction
  interactive : Json
  delay : Binary64
  index : Nat

def Suspension.isInteractive (s : Suspension) : Bool := s.interactive.isTruthy

/-- What is left to do, innermost first. -/
inductive Frame
  /-- The rest of a body. -/
  | block (rest : Body)
  /-- Rounds of a counted loop, of which some are done. -/
  | repeating (loop : Repetition) (done : Nat) (body : Body)
  /-- A conditional loop, in front of its test. -/
  | looping (condition : Condition) (body : Body) (done : Nat)
  /-- The return from a function. -/
  | calling (name : Json)

namespace Frame

def isCall : Frame → Bool
  | .calling _ => true
  | _ => false

def callDepth (frames : List Frame) : Nat := frames.countP isCall

end Frame

inductive Phase
  | idle
  /-- A run under way: at a suspension, or nowhere yet, and what comes after. -/
  | active (pending : Option Suspension) (frames : List Frame)
  | completed (result : RunResult)

inductive EngineError
  | alreadyRunning
  | speed (given : String)
  | order (fault : OrderFault)
  | noCallback
deriving DecidableEq

namespace EngineError

def message : EngineError → String
  | .alreadyRunning => "A program is already running"
  | .speed given => "speed must be positive, got " ++ given
  | .order fault => fault.message
  | .noCallback => "interactive runs need an on_suspend callback"

end EngineError

def defaultSpeed : Binary64 := ⟨0x4014000000000000⟩

structure Engine where
  world : World
  draws : Draws
  observers : List Observer
  /-- The pause in front of an instruction at speed 1, in seconds. -/
  baseDelay : Json
  callLimit : CallLimit
  /-- Whether somebody steps through the run; any value that counts as true says so. -/
  interactive : Json := .bool false
  speed : Json := .num (.float defaultSpeed)
  cancelled : Bool := false
  functions : FunctionTable := []
  executed : Nat := 0
  phase : Phase := .idle
  /-- Everything that was reported, latest first. -/
  events : List Event := []
  /-- The lines that were printed, latest first. -/
  printed : List String := []

namespace Engine

def print (e : Engine) (lines : List String) : Engine := { e with printed := lines.reverse ++ e.printed }

def emit (event : Event) (e : Engine) : Engine :=
  let reactions := e.observers.map fun observer => observer.react event
  { e with
    events := event :: e.events
    observers := reactions.map Reaction.observer
    printed := (reactions.flatMap Reaction.lines).reverse ++ e.printed
    cancelled := e.cancelled || reactions.any Reaction.stop }

def logAs (note : Note) (severity : Severity) (e : Engine) : Engine := e.emit (.logged note severity)

def log (note : Note) (e : Engine) : Engine := e.logAs note note.severity

def logAll (notes : List Note) (e : Engine) : Engine := notes.foldl (fun e note => e.log note) e

def isInteractive (e : Engine) : Bool := e.interactive.isTruthy

def isActive (e : Engine) : Bool :=
  match e.phase with
  | .active .. => true
  | _ => false

def pending? (e : Engine) : Option Suspension :=
  match e.phase with
  | .active pending _ => pending
  | _ => none

def result? (e : Engine) : Option RunResult :=
  match e.phase with
  | .completed result => some result
  | _ => none

def fault? (e : Engine) : Option RunFault :=
  match e.phase with
  | .completed ⟨.crashed fault, _, _⟩ => some fault
  | _ => none

inductive State
  | idle | running | paused | completed
deriving DecidableEq

def State.text : State → String
  | .idle => "idle"
  | .running => "running"
  | .paused => "paused"
  | .completed => "completed"

/-- A run is paused while it waits for somebody to step. -/
def state (e : Engine) : State :=
  match e.phase with
  | .idle => .idle
  | .completed _ => .completed
  | .active (some suspension) _ => if suspension.isInteractive then .paused else .running
  | .active none _ => .running

def finish (ending : Ending) (e : Engine) : Engine :=
  let result : RunResult := ⟨ending, e.world, e.executed⟩
  { e with phase := .completed result }.emit (.ended result)

def abort (e : Engine) : Engine := (e.log .aborted).finish .aborted

def stop (halt : Halt) (e : Engine) : Engine := (e.log halt.note).finish halt.ending

def fail (failure : RunFailure) (e : Engine) : Engine := e.stop (.failure failure)

def crash (fault : RunFault) (e : Engine) : Engine := e.stop (.fault fault)

def conclude (e : Engine) : Engine :=
  if e.world.atGoal then (e.log .goalReached).finish .success
  else (e.log .goalMissed).finish .goalMissed

def delay (e : Engine) : Except PauseFault Binary64 :=
  if e.isInteractive then .ok (Binary64.zero false) else Pause.atSpeed e.speed e.baseDelay

def enter (node : Instruction) (frames : List Frame) (e : Engine) : Engine :=
  if e.cancelled then e.abort
  else
    let e := { e with executed := e.executed + 1 }.emit (.entered node)
    let e := if e.isInteractive then e.log (.pausedAt node) else e
    match e.delay with
    | .error fault => e.crash (.pause fault)
    | .ok delay => { e with phase := .active (some ⟨node, e.interactive, delay, e.executed⟩) frames }

def test (condition : Condition) (e : Engine) : Engine × Except RunFault Bool :=
  let evaluation := condition.evaluate e.world e.draws
  ({ e with draws := evaluation.draws }.logAll evaluation.notes, evaluation.value)

end Engine

/-- How far the frames can take a run before it suspends: the rounds that loops have left. -/
def Frame.rounds : Frame → Nat
  | .block _ | .calling _ => 1
  | .repeating loop done _ => 2 * (loop.rounds - done) + 1
  | .looping _ _ done => 2 * (maxIterations - done) + 1

def Frame.allRounds : List Frame → Nat
  | [] => 0
  | frame :: outer => frame.rounds + allRounds outer

namespace Engine

def proceed (e : Engine) (frames : List Frame) : Engine :=
  match frames with
  | [] => e.conclude
  | .block [] :: outer => e.proceed outer
  | .block (node :: rest) :: outer => e.enter node (.block rest :: outer)
  | .calling name :: outer => (e.log (.returned name)).proceed outer
  | .repeating loop done body :: outer =>
    if done < loop.rounds then
      if e.cancelled then e.abort
      else (e.log (.iteration (done + 1) loop.text)).proceed
        (.block body :: .repeating loop (done + 1) body :: outer)
    else e.proceed outer
  | .looping condition body done :: outer =>
    if e.cancelled then e.abort
    else match e.test condition with
    | (e, .error fault) => e.crash fault
    | (e, .ok value) =>
      if done < maxIterations then
        if value then (e.log (.whileIteration condition (done + 1))).proceed
          (.block body :: .looping condition body (done + 1) :: outer)
        else e.proceed outer
      else e.fail .loopLimit
termination_by Frame.allRounds frames
decreasing_by all_goals (simp only [Frame.allRounds, Frame.rounds]; omega)

inductive Progress
  | onward (e : Engine) (frames : List Frame)
  | ended (e : Engine)

def showWorld (e : Engine) : Engine := e.emit (.worldChanged e.world)

def showRegisters (e : Engine) : Engine := e.emit (.registersChanged e.world.registers)

def write (register : Register) (value : Int) (e : Engine) : Engine :=
  { e with world := e.world.assign register value }

def announceLoop (condition : Condition) (e : Engine) : Engine :=
  match condition with
  | .sensor .always => e.log .endlessLoop
  | _ => e

/-- Executes one instruction. Control structures only put frames on the stack. -/
def perform (node : Instruction) (frames : List Frame) (e : Engine) : Progress :=
  match node with
  | .move => match e.world.move with
    | .error collision => .ended ((e.log (.blocked collision.cell)).fail (.collision collision.cell))
    | .ok world => .onward ({ e with world }.log (.moved world.robot.cell)).showWorld frames
  | .turnLeft => .onward ({ e with world := e.world.turnLeft }.log .turnedLeft).showWorld frames
  | .turnRight => .onward ({ e with world := e.world.turnRight }.log .turnedRight).showWorld frames
  | .assign r value => match value.toInteger with
    | .error fault => .ended (e.crash (.value fault))
    | .ok n => .onward ((e.write r n).log (.assigned r value)).showRegisters frames
  | .increment r =>
    let value := e.world.registers.get r + 1
    .onward ((e.write r value).log (.incremented r value)).showRegisters frames
  | .decrement r =>
    let value := e.world.registers.get r - 1
    .onward ((e.write r value).log (.decremented r value)).showRegisters frames
  | .repeatTimes count body => match Repetition.announced count with
    | .error fault => .ended (e.crash fault)
    | .ok shown => match Repetition.ofAnnounced shown with
      | .error fault => .ended ((e.log (.repeating shown.text)).crash fault)
      | .ok loop => .onward (e.log (.repeating shown.text)) (.repeating loop 0 body :: frames)
  | .ifThen condition body => match e.test condition with
    | (e, .error fault) => .ended (e.crash fault)
    | (e, .ok value) =>
      .onward (e.log (.ifChecked condition value)) (if value then .block body :: frames else frames)
  | .ifElse condition thenBody elseBody => match e.test condition with
    | (e, .error fault) => .ended (e.crash fault)
    | (e, .ok value) =>
      .onward ((e.log (.ifElseChecked condition value)).log (if value then .thenBranch else .elseBranch))
        (.block (if value then thenBody else elseBody) :: frames)
  | .whileDo condition body => .onward (e.announceLoop condition) (.looping condition body 0 :: frames)
  | .call name => match e.functions.look name with
    | .error fault => .ended (e.crash (.name fault))
    | .ok none => .onward (e.log (.undefinedFunction name)) frames
    | .ok (some body) =>
      if e.callLimit.depth ≤ Frame.callDepth frames then .ended (e.stop (e.callLimit.halt name))
      else .onward (e.log (.calling name)) (.block body :: .calling name :: frames)
  | .define name _ => .onward (e.log (.ignoredDefinition name)) frames
  | .unknown .. | .blank => .onward (e.log (.unknownInstruction node)) frames

/-- Executes the instruction at which the run is suspended, and goes on to the next. Without a run
nothing happens. -/
def advance (e : Engine) : Engine :=
  match e.phase with
  | .active none frames => e.proceed frames
  | .active (some suspension) frames =>
    if e.cancelled then e.abort
    else match e.perform suspension.node frames with
    | .onward e frames => e.proceed frames
    | .ended e => e
  | .idle | .completed _ => e

def begin (program : Body) (functions : FunctionTable) (speed interactive : Json) (e : Engine) :
    Engine × Except EngineError Unit :=
  if e.isActive then (e.log .alreadyRunning, .error .alreadyRunning)
  else match Relation.atMost.check speed (.int 0) with
  | .error fault => (e, .error (.order fault))
  | .ok true => (e, .error (.speed speed.text))
  | .ok false =>
    ({ e with
      speed, interactive, cancelled := false, functions, executed := 0
      phase := .active none [.block program] }.log .started, .ok ())

def cancel (e : Engine) : Engine := { e with cancelled := true }

def setWorld (world : World) (e : Engine) : Except EngineError Engine :=
  if e.isActive then .error .alreadyRunning else .ok { e with world }

def observe (observer : Observer) (e : Engine) : Engine := { e with observers := e.observers ++ [observer] }

/-- One `advance` as its caller sees it: the next suspension, nothing at the end, or what broke the
run. -/
def resume (e : Engine) : Engine × Except RunFault (Option Suspension) :=
  if e.isActive then
    let next := e.advance
    match next.fault? with
    | some fault => (next, .error fault)
    | none => (next, .ok next.pending?)
  else (e, .ok none)

def messages (severity : Option Severity) (e : Engine) : List Json :=
  e.events.reverse.filterMap fun
    | .logged note given => if severity.all given.same then some note.content else none
    | _ => none

def entered (e : Engine) : List Instruction :=
  e.events.reverse.filterMap fun
    | .entered node => some node
    | _ => none

end Engine

end GridRobot
