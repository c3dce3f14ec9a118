import GridRobot.Run.Host

/-!
The engine as a machine of separate parts. The state, the pending suspension, the runner, the result and the count of
active calls are set one by one, by whatever has to do with them; a walk that is left before its time leaves the calls
that are active and then reports. Conditions are tested against a world of their own reference. `Engine` has one phase
in place of all this, and does the same.
-/
namespace GridRobot

/-- A walk through a program: in front of everything, or at the instruction where it was suspended last, with what
comes after. -/
structure Walk where
  node? : Option Instruction := none
  frames : List Frame

inductive Exit
  | cancelled
  | halted (halt : Halt)

structure Machine where
  /-- The worlds that there have been, each at its place, -/
  worlds : Nat → World
  /-- and how many of the places are taken. -/
  places : Nat := 1
  /-- Where the world is that instructions act on, -/
  own : Nat := 0
  /-- and the world that conditions are tested against. -/
  tested : Nat := 0
  draws : Draws
  observers : List Observer
  baseDelay : Json
  maxCallDepth : Json
  interactive : Json := .bool false
  speed : Json := .num (.float defaultSpeed)
  cancelled : Bool := false
  functions : FunctionTable := []
  callDepth : Int := 0
  executed : Nat := 0
  state : Engine.State := .idle
  pending : Option Suspension := none
  result : Option RunResult := none
  runner : Option Walk := none
  events : List Event := []
  printed : List String := []

namespace Machine

def world (m : Machine) : World := m.worlds m.own

/-- Changes the world that instructions act on, which everybody sees who refers to it. -/
def putWorld (world : World) (m : Machine) : Machine :=
  { m with worlds := fun place => if place = m.own then world else m.worlds place }

def emit (event : Event) (m : Machine) : Machine :=
  let reactions := m.observers.map fun observer => observer.react event
  { m with
    events := event :: m.events
    observers := reactions.map Reaction.observer
    printed := (reactions.flatMap Reaction.lines).reverse ++ m.printed
    cancelled := m.cancelled || reactions.any Reaction.stop }

def logAs (note : Note) (severity : Severity) (m : Machine) : Machine := m.emit (.logged note severity)

def log (note : Note) (m : Machine) : Machine := m.logAs note note.severity

def logAll (notes : List Note) (m : Machine) : Machine := notes.foldl (fun m note => m.log note) m

def isInteractive (m : Machine) : Bool := m.interactive.isTruthy

def isActive (m : Machine) : Bool := m.state == .running || m.state == .paused

def finish (ending : Ending) (m : Machine) : Machine :=
  let result : RunResult := ⟨ending, m.world, m.executed⟩
  { m with result := some result, pending := none, state := .completed }.emit (.ended result)

inductive Turn
  | suspended (s : Suspension) (walk : Walk) (m : Machine)
  | stopped (m : Machine)
  | raised (fault : RunFault) (m : Machine)

/-- Leaves every call that is active, innermost first. -/
def unwind : List Frame → Machine → Machine
  | [], m => m
  | .calling _ :: outer, m => { m with callDepth := m.callDepth - 1 }.unwind outer
  | _ :: outer, m => m.unwind outer

/-- The walk is left from within these frames. A fault is raised once more when it is reported. -/
def leave (exit : Exit) (frames : List Frame) (m : Machine) : Turn :=
  let m := m.unwind frames
  match exit with
  | .cancelled => .stopped ((m.log .aborted).finish .aborted)
  | .halted (.failure failure) => .stopped ((m.log (.failed failure)).finish (.failed failure))
  | .halted (.fault fault) => .raised fault ((m.log (.crashed fault)).finish (.crashed fault))

def conclude (m : Machine) : Turn :=
  if m.world.atGoal then .stopped ((m.log .goalReached).finish .success)
  else .stopped ((m.log .goalMissed).finish .goalMissed)

def delay (m : Machine) : Except PauseFault Binary64 :=
  if m.isInteractive then .ok (Binary64.zero false) else Pause.atSpeed m.speed m.baseDelay

def announce (node : Instruction) (m : Machine) : Machine :=
  let m := { m with executed := m.executed + 1 }.emit (.entered node)
  if m.isInteractive then m.log (.pausedAt node) else m

def enter (node : Instruction) (frames : List Frame) (m : Machine) : Turn :=
  if m.cancelled then m.leave .cancelled frames
  else
    let m := m.announce node
    match m.delay with
    | .error fault => m.leave (.halted (.fault (.pause fault))) frames
    | .ok delay => .suspended ⟨node, m.interactive, delay, m.executed⟩ ⟨some node, frames⟩ m

def test (condition : Condition) (m : Machine) : Machine × Except RunFault Bool :=
  let evaluation := condition.evaluate (m.worlds m.tested) m.draws
  ({ m with draws := evaluation.draws }.logAll evaluation.notes, evaluation.value)

def proceed (m : Machine) (frames : List Frame) : Turn :=
  match frames with
  | [] => m.conclude
  | .block [] :: outer => m.proceed outer
  | .block (node :: rest) :: outer => m.enter node (.block rest :: outer)
  | .calling name :: outer => ({ m with callDepth := m.callDepth - 1 }.log (.returned name)).proceed outer
  | .repeating loop done body :: outer =>
    if done < loop.rounds then
      if m.cancelled then m.leave .cancelled (.repeating loop done body :: outer)
      else (m.log (.iteration (done + 1) loop.text)).proceed
        (.block body :: .repeating loop (done + 1) body :: outer)
    else m.proceed outer
  | .looping condition body done :: outer =>
    if m.cancelled then m.leave .cancelled (.looping condition body done :: outer)
    else match m.test condition with
    | (m, .error fault) => m.leave (.halted (.fault fault)) (.looping condition body done :: outer)
    | (m, .ok value) =>
      if done < maxIterations then
        if value then (m.log (.whileIteration condition (done + 1))).proceed
          (.block body :: .looping condition body (done + 1) :: outer)
        else m.proceed outer
      else m.leave (.halted (.failure .loopLimit)) (.looping condition body done :: outer)
termination_by Frame.allRounds frames
decreasing_by all_goals (simp only [Frame.allRounds, Frame.rounds]; omega)

inductive Progress
  | onward (m : Machine) (frames : List Frame)
  | left (exit : Exit) (m : Machine)

def showWorld (m : Machine) : Machine := m.emit (.worldChanged m.world)

def showRegisters (m : Machine) : Machine := m.emit (.registersChanged m.world.registers)

def write (register : Register) (value : Int) (m : Machine) : Machine := m.putWorld (m.world.assign register value)

def announceLoop (condition : Condition) (m : Machine) : Machine :=
  match condition with
  | .sensor .always => m.log .endlessLoop
  | _ => m

def perform (node : Instruction) (frames : List Frame) (m : Machine) : Progress :=
  match node with
  | .move => match m.world.move with
    | .error collision => .left (.halted (.failure (.collision collision.cell))) (m.log (.blocked collision.cell))
    | .ok world => .onward ((m.putWorld world).log (.moved world.robot.cell)).showWorld frames
  | .turnLeft => .onward ((m.putWorld m.world.turnLeft).log .turnedLeft).showWorld frames
  | .turnRight => .onward ((m.putWorld m.world.turnRight).log .turnedRight).showWorld frames
  | .assign r value => match value.toInteger with
    | .error fault => .left (.halted (.fault (.value fault))) m
    | .ok n => .onward ((m.write r n).log (.assigned r value)).showRegisters frames
  | .increment r =>
    let value := m.world.registers.get r + 1
    .onward ((m.write r value).log (.incremented r value)).showRegisters frames
  | .decrement r =>
    let value := m.world.registers.get r - 1
    .onward ((m.write r value).log (.decremented r value)).showRegisters frames
  | .repeatTimes count body => match Repetition.announced count with
    | .error fault => .left (.halted (.fault fault)) m
    | .ok shown => match Repetition.ofAnnounced shown with
      | .error fault => .left (.halted (.fault fault)) (m.log (.repeating shown.text))
      | .ok loop => .onward (m.log (.repeating shown.text)) (.repeating loop 0 body :: frames)
  | .ifThen condition body => match m.test condition with
    | (m, .error fault) => .left (.halted (.fault fault)) m
    | (m, .ok value) =>
      .onward (m.log (.ifChecked condition value)) (if value then .block body :: frames else frames)
  | .ifElse condition thenBody elseBody => match m.test condition with
    | (m, .error fault) => .left (.halted (.fault fault)) m
    | (m, .ok value) =>
      .onward ((m.log (.ifElseChecked condition value)).log (if value then .thenBranch else .elseBranch))
        (.block (if value then thenBody else elseBody) :: frames)
  | .whileDo condition body => .onward (m.announceLoop condition) (.looping condition body 0 :: frames)
  | .call name => match m.functions.look name with
    | .error fault => .left (.halted (.fault (.name fault))) m
    | .ok none => .onward (m.log (.undefinedFunction name)) frames
    | .ok (some body) => match Relation.atLeast.check (.int m.callDepth) m.maxCallDepth with
      | .error fault => .left (.halted (.fault (.order fault))) m
      | .ok true => .left (.halted (.failure (.callDepth name.text m.maxCallDepth.text))) m
      | .ok false =>
        let m := m.log (.calling name)
        .onward { m with callDepth := m.callDepth + 1 } (.block body :: .calling name :: frames)
  | .define name _ => .onward (m.log (.ignoredDefinition name)) frames
  | .unknown .. | .blank => .onward (m.log (.unknownInstruction node)) frames

def next (walk : Walk) (m : Machine) : Turn :=
  match walk.node? with
  | none => m.proceed walk.frames
  | some node =>
    if m.cancelled then m.leave .cancelled walk.frames
    else match m.perform node walk.frames with
    | .onward m frames => m.proceed frames
    | .left exit m => m.leave exit walk.frames

/-- Puts the walk aside once it is over, and otherwise notes where it is suspended. -/
def settle : Turn → Machine × Except RunFault (Option Suspension)
  | .stopped m => ({ m with runner := none }, .ok none)
  | .raised fault m => ({ m with runner := none }, .error fault)
  | .suspended s walk m =>
    let m := { m with runner := some walk, pending := some s }
    (if s.isInteractive then { m with state := .paused } else m, .ok (some s))

def advance (m : Machine) : Machine × Except RunFault (Option Suspension) :=
  match m.runner with
  | none => (m, .ok none)
  | some walk => settle ({ m with pending := none, state := .running }.next walk)

def begin (program : Body) (functions : FunctionTable) (speed interactive : Json) (m : Machine) :
    Machine × Except EngineError Unit :=
  if m.isActive then (m.log .alreadyRunning, .error .alreadyRunning)
  else match Relation.atMost.check speed (.int 0) with
  | .error fault => (m, .error (.order fault))
  | .ok true => (m, .error (.speed speed.text))
  | .ok false =>
    ({ m with
      speed, interactive, result := none, pending := none, cancelled := false, functions, callDepth := 0
      executed := 0, state := .running, runner := some { frames := [.block program] } }.log .started, .ok ())

def cancel (m : Machine) : Machine := { m with cancelled := true }

/-- A new world takes a place of its own, and all who test or act turn to it. -/
def setWorld (world : World) (m : Machine) : Except EngineError Machine :=
  if m.isActive then .error .alreadyRunning
  else
    .ok { m with
      worlds := fun place => if place = m.places then world else m.worlds place
      places := m.places + 1, own := m.places, tested := m.places }

def setInteractive (value : Json) (m : Machine) : Machine := { m with interactive := value }

def observe (observer : Observer) (m : Machine) : Machine := { m with observers := m.observers ++ [observer] }

def apply (m : Machine) : HostAction → Machine
  | .continue => m.setInteractive (.bool false)
  | .cancel => m.cancel
  | .step | .fail => m

def sleep (seconds : Json) (m : Machine) : Except RunFault Bool :=
  if m.cancelled then .ok true
  else match seconds.number? with
  | none => .error (.order ⟨.greater, seconds.kindName, (Json.int 0).kindName⟩)
  | some n => if Pause.isTooLong n then .error (.pause .tooLong) else .ok false

/-- One round of a host that drives a run: an `advance`, and what it does about the suspension there. It keeps what it
still means to do, and the suspensions it has seen. -/
def round : List HostAction × List Suspension × Machine →
    (List HostAction × List Suspension × Machine) ⊕ (Machine × Except HostError (List Suspension))
  | (actions, seen, m) => match m.advance with
  | (m, .error fault) => .inr (m, .error (.fault fault))
  | (m, .ok none) => .inr (m, .ok seen.reverse)
  | (m, .ok (some s)) =>
    if s.isInteractive then match actions with
      | [] => .inl ([], s :: seen, m)
      | .fail :: _ => .inr (m, .error .host)
      | action :: rest => .inl (rest, s :: seen, m.apply action)
    else if s.delay.isPositive then match m.sleep (.num (.float s.delay)) with
      | .error fault => .inr (m, .error (.fault fault))
      | .ok _ => .inl (actions, seen, m)
    else .inl (actions, seen, m)

/-- Rounds until the run is over or somebody gives up. That it comes to that is not in the loop. -/
def drive (actions : List HostAction) (seen : List Suspension) (m : Machine) :
    Option (Machine × Except HostError (List Suspension)) :=
  haveI : Nonempty (Machine × Except HostError (List Suspension)) := ⟨m, .ok []⟩
  repeatM (fun place => some (round place)) (actions, seen, m)

theorem drive_eq (actions : List HostAction) (seen : List Suspension) (m : Machine) :
    m.drive actions seen = match round (actions, seen, m) with
      | .inl (actions, seen, m) => m.drive actions seen
      | .inr answer => some answer := by
  haveI : Nonempty (Machine × Except HostError (List Suspension)) := ⟨m, .ok []⟩
  refine (repeatM_eq_of_monadTail (actions, seen, m)).trans ?_
  unfold repeatM.body
  dsimp only [bind, Option.bind, pure]
  cases round (actions, seen, m) with
  | inl place => rfl
  | inr answer => rfl

def run (program : Body) (functions : FunctionTable) (speed interactive : Json) (actions : Option (List HostAction))
    (m : Machine) : Option (Machine × Except HostError (List Suspension × Option RunResult)) :=
  if interactive.isTruthy && actions.isNone then some (m, .error (.engine .noCallback))
  else match m.begin program functions speed interactive with
  | (m, .error error) => some (m, .error (.engine error))
  | (m, .ok ()) => (m.drive (actions.getD []) []).map fun (m, answer) => (m, answer.map fun seen => (seen, m.result))

def entered (m : Machine) : List Instruction :=
  m.events.reverse.filterMap fun
    | .entered node => some node
    | _ => none

end Machine

end GridRobot
