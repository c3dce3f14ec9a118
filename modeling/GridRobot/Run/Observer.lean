import GridRobot.Run.Note

/-!
What a run reports, and who listens. An observer responds to an event with lines to print, with a failure of its own,
which is only reported, or with the wish to stop the run. It goes by the event and by its history: the instructions,
registers and worlds that it was told of before. Notes and ends of runs are responded to, but they are no part of that
history and stop nothing, so an observer that stops a run on account of what is logged is not among these.
-/
namespace GridRobot

inductive Event
  | entered (node : Instruction)
  | logged (note : Note) (severity : Severity)
  | registersChanged (registers : Registers)
  | worldChanged (world : World)
  | ended (result : RunResult)

inductive Hook
  | entered | logged | registersChanged | worldChanged | ended
deriving DecidableEq

namespace Hook

def name : Hook → String
  | .entered => "on_instruction_enter"
  | .logged => "on_log"
  | .registersChanged => "on_register_change"
  | .worldChanged => "on_world_change"
  | .ended => "on_run_end"

def ofName? (name : String) : Option Hook :=
  [entered, logged, registersChanged, worldChanged, ended].find? fun hook => hook.name == name

end Hook

def Event.hook : Event → Hook
  | .entered _ => .entered
  | .logged .. => .logged
  | .registersChanged _ => .registersChanged
  | .worldChanged _ => .worldChanged
  | .ended _ => .ended

def Event.isStep : Event → Bool
  | .entered _ | .registersChanged _ | .worldChanged _ => true
  | .logged .. | .ended _ => false

structure Threshold where
  register : Json
  value : Option Json

/-- What an observer does about an event: it prints, and then may fail. -/
structure Response where
  lines : List String := []
  failure : Option String := none
  stop : Bool := false

structure Observer where
  name : String := "EngineObserver"
  respond : List Event → Event → Response
  /-- Its history, the last event in front. -/
  heard : List Event := []

inductive WatchFault
  | missing (register : Json)
  | noValue
  | key (fault : KeyFault)
  | order (fault : OrderFault)

def WatchFault.message : WatchFault → String
  | .missing register => register.literal
  | .noValue => "'value'"
  | .key fault => fault.message
  | .order fault => fault.message

def Registers.reach (rs : Registers) (threshold : Threshold) : Except WatchFault Bool :=
  match Register.find threshold.register, threshold.value with
  | .error (.key fault), _ => .error (.key fault)
  | .error _, _ => .error (.missing threshold.register)
  | .ok _, none => .error .noValue
  | .ok r, some value => (Relation.atLeast.check (.int (rs.get r)) value).mapError .order

structure Reaction where
  observer : Observer
  lines : List String
  stop : Bool

namespace Observer

def consoleLines (tag : String) (verbose : Bool) : Event → List String
  | .entered node => if verbose then ["[" ++ tag ++ "] > " ++ node.describe] else []
  | .logged note severity => match severity with
    | .warning => ["[" ++ tag ++ "] WARN " ++ note.text]
    | .error => ["[" ++ tag ++ "] ERROR " ++ note.text]
    | .success => ["[" ++ tag ++ "] " ++ note.text]
    | _ => if verbose then ["[" ++ tag ++ "] " ++ note.text] else []
  | .ended result => ["[" ++ tag ++ "] Run finished: " ++ result.summary]
  | _ => []

def failureLine (name : String) (hook : Hook) (message : String) : String :=
  "[Engine] WARN observer " ++ name ++ "." ++ hook.name ++ " failed: " ++ message

def react (observer : Observer) (event : Event) : Reaction :=
  let response := observer.respond observer.heard event
  { observer := if event.isStep then { observer with heard := event :: observer.heard } else observer
    lines := response.lines ++ (response.failure.map (failureLine observer.name event.hook)).toList
    stop := event.isStep && response.stop }

def silent : Observer where
  respond _ _ := {}

def console (tag : String) (verbose : Bool) : Observer where
  name := "ConsoleObserver"
  respond _ event := { lines := consoleLines tag verbose event }

def faulty (name message : String) (hooks : List Hook) : Observer where
  name := name
  respond _ event := { failure := if hooks.contains event.hook then some message else none }

def entry (heard : List Event) : Nat := heard.countP (fun event => event.hook == .entered) + 1

/-- Stops the run when the given number of instructions is entered, or a register reaches a value. -/
def watchdog (name : String) (wanted : Option Json) (threshold : Option Threshold) : Observer where
  name := name
  respond heard
    | .entered _ => { stop := wanted.any fun wanted => (Json.int (entry heard : Int)).same wanted }
    | .registersChanged registers => match threshold.map registers.reach with
      | none => {}
      | some (.ok stop) => { stop }
      | some (.error fault) => { failure := some fault.message }
    | _ => {}

end Observer

end GridRobot
