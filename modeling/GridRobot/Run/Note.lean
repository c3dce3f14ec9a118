import GridRobot.Program.Instruction
import GridRobot.Run.Pause

/-!
What a run has to say: how it can fail and end, and the notes that it logs on the way.
-/
namespace GridRobot

/-- How serious a note is. The host may bring a severity of its own, which is any value. -/
inductive Severity
  | info
  | success
  | warning
  | error
  | other (value : Json)

namespace Severity

def toJson : Severity → Json
  | .info => .str "info"
  | .success => .str "success"
  | .warning => .str "warning"
  | .error => .str "error"
  | .other value => value

def text (severity : Severity) : String := severity.toJson.text

def same (a b : Severity) : Bool := a.toJson.equals b.toJson

def ofJson (value : Json) : Severity :=
  ([info, success, warning, error].find? fun severity => severity.toJson.same value).getD (.other value)

end Severity

def maxIterations : Nat := 100

inductive RunFailure
  | collision (cell : Cell)
  | loopLimit
  | callDepth (name limit : String)
deriving DecidableEq

namespace RunFailure

def reason : RunFailure → String
  | .collision _ => "CollisionDetected"
  | .loopLimit => "LoopLimitExceeded"
  | .callDepth .. => "CallDepthExceeded"

def message : RunFailure → String
  | .collision c => "Collision detected at (" ++ toString c.x ++ ", " ++ toString c.y ++ ")"
  | .loopLimit => "While loop exceeded maximum iterations (" ++ toString maxIterations ++ ")"
  | .callDepth name limit =>
    "Call to '" ++ name ++ "' exceeded maximum call depth (" ++ limit ++ ")"

end RunFailure

/-- What breaks a run: the random numbers have run out, a pause cannot be computed or waited out, or the
program or its surroundings hold a value that does not serve. -/
inductive RunFault
  | drawsExhausted
  | pause (fault : PauseFault)
  /-- A register is given what is no integer. -/
  | value (fault : Json.IntegerFault)
  /-- Values are compared that have no order. -/
  | order (fault : OrderFault)
  /-- A count of this kind is no number of rounds. -/
  | count (kind : String)
  /-- A function is called by a name that is no key. -/
  | name (fault : KeyFault)
deriving DecidableEq

namespace RunFault

def reason : RunFault → String
  | .drawsExhausted => "RuntimeError"
  | .pause fault => fault.reason
  | .value fault => fault.reason
  | .order _ | .count _ | .name _ => "TypeError"

def message : RunFault → String
  | .drawsExhausted => "rng exhausted"
  | .pause fault => fault.message
  | .value fault => fault.message
  | .order fault => fault.message
  | .count kind => "'" ++ kind ++ "' object cannot be interpreted as an integer"
  | .name fault => fault.message

end RunFault

inductive Halt
  | failure (failure : RunFailure)
  | fault (fault : RunFault)
deriving DecidableEq

inductive Note
  | started
  | alreadyRunning
  | aborted
  | failed (failure : RunFailure)
  | crashed (fault : RunFault)
  | goalReached
  | goalMissed
  | pausedAt (node : Instruction)
  | blocked (cell : Cell)
  | moved (cell : Cell)
  | turnedLeft
  | turnedRight
  | assigned (register : Register) (value : Json)
  | incremented (register : Register) (value : Int)
  | decremented (register : Register) (value : Int)
  | ignoredDefinition (name : Json)
  | unknownInstruction (node : Instruction)
  | repeating (count : String)
  | iteration (index : Nat) (count : String)
  | ifChecked (condition : Condition) (value : Bool)
  | ifElseChecked (condition : Condition) (value : Bool)
  | thenBranch
  | elseBranch
  | endlessLoop
  | whileIteration (condition : Condition) (index : Nat)
  | undefinedFunction (name : Json)
  | calling (name : Json)
  | returned (name : Json)
  | negated (inner : Condition) (value : Bool)
  | tossed (value : Bool)
  | emptyCondition
  | unknownCondition (tag : String)
  | message (content : Json)

namespace Note

def truth (value : Bool) : String := if value then "True" else "False"

def place (c : Cell) : String := "(" ++ toString c.x ++ ", " ++ toString c.y ++ ")"

def text : Note → String
  | .started => "EXECUTING PROGRAM..."
  | .alreadyRunning => "Program already running"
  | .aborted => "Execution aborted"
  | .failed failure => "ERROR: " ++ failure.message
  | .crashed fault => "Internal error: " ++ fault.message
  | .goalReached => "SUCCESS! Level completed!"
  | .goalMissed => "Program ended. Goal not reached."
  | .pausedAt node => "[DEBUG] Paused at: " ++ node.describe
  | .blocked cell => "  Cannot move - obstacle at " ++ place cell
  | .moved cell => "  Moved to " ++ place cell
  | .turnedLeft => "  Turned left"
  | .turnedRight => "  Turned right"
  | .assigned r value => "  " ++ r.name ++ " = " ++ value.text
  | .incremented r value => "  " ++ r.name ++ "++ (now " ++ toString value ++ ")"
  | .decremented r value => "  " ++ r.name ++ "-- (now " ++ toString value ++ ")"
  | .ignoredDefinition name => "Function definition '" ++ name.text ++ "' inside a program is ignored"
  | .unknownInstruction node => "Unknown instruction: " ++ node.describe
  | .repeating count => "Repeating " ++ count ++ " times"
  | .iteration index count => "  Iteration " ++ toString index ++ "/" ++ count
  | .ifChecked c value => "IF " ++ c.describe ++ ": " ++ truth value
  | .ifElseChecked c value => "IF-ELSE " ++ c.describe ++ ": " ++ truth value
  | .thenBranch => "  Executing THEN branch"
  | .elseBranch => "  Executing ELSE branch"
  | .endlessLoop => "WHILE TRUE detected - will run until max iterations or program stops"
  | .whileIteration c index => "WHILE " ++ c.describe ++ ": iteration " ++ toString index
  | .undefinedFunction name => "Function '" ++ name.text ++ "' not defined"
  | .calling name => "Calling function '" ++ name.text ++ "'"
  | .returned name => "Function '" ++ name.text ++ "' completed"
  | .negated inner value => "  NOT " ++ inner.describe ++ ": " ++ truth value
  | .tossed value => "  RANDOM? returned " ++ truth value
  | .emptyCondition => "Empty condition slot - evaluating as false"
  | .unknownCondition tag => "Unknown condition '" ++ tag ++ "' - evaluating as false"
  | .message content => content.text

def content : Note → Json
  | .message content => content
  | note => .str note.text

def severity : Note → Severity
  | .started | .goalReached => .success
  | .alreadyRunning | .failed _ | .crashed _ | .goalMissed | .blocked _ => .error
  | .aborted | .ignoredDefinition _ | .unknownInstruction _ | .undefinedFunction _
  | .emptyCondition | .unknownCondition _ => .warning
  | _ => .info

end Note

inductive Ending
  | success
  | goalMissed
  | aborted
  | failed (failure : RunFailure)
  | crashed (fault : RunFault)
deriving DecidableEq

namespace Ending

def outcome : Ending → String
  | .success => "success"
  | .aborted => "aborted"
  | _ => "failure"

def reason? : Ending → Option String
  | .success | .aborted => none
  | .goalMissed => some "GoalNotReached"
  | .failed failure => some failure.reason
  | .crashed fault => some fault.reason

def message? : Ending → Option String
  | .failed failure => some failure.message
  | .crashed fault => some fault.message
  | _ => none

end Ending

namespace Halt

def note : Halt → Note
  | .failure f => .failed f
  | .fault f => .crashed f

def ending : Halt → Ending
  | .failure f => .failed f
  | .fault f => .crashed f

end Halt

structure RunResult where
  ending : Ending
  world : World
  executed : Nat
deriving DecidableEq

namespace RunResult

def summary (result : RunResult) : String :=
  match result.ending with
  | .success => "SUCCESS (" ++ toString result.executed ++ " instructions)"
  | .aborted => "ABORTED after " ++ toString result.executed ++ " instructions"
  | ending =>
    let detail := match ending.message? with
      | some message => ": " ++ message
      | none => ""
    "FAILURE " ++ ending.reason?.getD "" ++ detail

end RunResult

end GridRobot
