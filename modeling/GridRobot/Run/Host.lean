import GridRobot.Run.Budget

/-!
Driving a run to its end. A host advances the engine until nothing is left; at interactive
suspensions it may decide how to go on. That each loop ends follows from the budget of the run.
-/
namespace GridRobot

inductive HostAction
  | step
  | continue
  | cancel
  | fail
deriving DecidableEq

inductive HostError
  | engine (error : EngineError)
  | fault (fault : RunFault)
  | host
deriving DecidableEq

namespace HostError

def message : HostError → String
  | .engine e => e.message
  | .fault f => f.message
  | .host => "host down"

end HostError

namespace Engine

def setInteractive (value : Json) (e : Engine) : Engine := { e with interactive := value }

@[simp] theorem budget_setInteractive (value : Json) (e : Engine) : (e.setInteractive value).budget = e.budget := rfl

@[simp] theorem budget_cancel (e : Engine) : e.cancel.budget = e.budget := rfl

def apply (e : Engine) : HostAction → Engine
  | .continue => e.setInteractive (.bool false)
  | .cancel => e.cancel
  | .step | .fail => e

@[simp] theorem budget_apply (action : HostAction) (e : Engine) : (e.apply action).budget = e.budget := by
  cases action <;> rfl

def drainFrom (seen : List Suspension) (e : Engine) : List Suspension × Engine :=
  match _pending : e.advance.pending? with
  | some suspension => drainFrom (suspension :: seen) e.advance
  | none => (seen.reverse, e.advance)
termination_by e.budget
decreasing_by exact budget_advance_lt _pending

def drain (e : Engine) : Engine × Except HostError (List Suspension) :=
  if e.isActive then
    let (seen, last) := e.drainFrom []
    match last.fault? with
    | some fault => (last, .error (.fault fault))
    | none => (last, .ok seen)
  else (e, .ok [])

/-- Waits out a number of seconds and tells whether the run is cancelled; a cancelled run waits for
nothing, whatever it is given. -/
def sleep (seconds : Json) (e : Engine) : Except RunFault Bool :=
  if e.cancelled then .ok true
  else match seconds.number? with
  | none => .error (.order ⟨.greater, seconds.kindName, (Json.int 0).kindName⟩)
  | some n => if Pause.isTooLong n then .error (.pause .tooLong) else .ok false

theorem sleep_error {x : Binary64} {fault : RunFault} {e : Engine}
    (stuck : e.sleep (.num (.float x)) = .error fault) :
    fault = .pause .tooLong ∧ Pause.isTooLong (.float x) = true := by
  unfold sleep at stuck
  split at stuck
  · cases stuck
  · simp only [Json.number?] at stuck
    split at stuck
    · rename_i long
      cases stuck
      exact ⟨rfl, long⟩
    · cases stuck

/-- Advances to the end with a list of actions for the interactive suspensions, where it just steps
once they are used up. Tells what stopped the host before, if anything did, and at which suspensions it
was asked. -/
def driveFrom (actions : List HostAction) (seen : List Suspension) (e : Engine) :
    Option HostError × List Suspension × Engine :=
  match _pending : e.advance.pending? with
  | none => (none, seen.reverse, e.advance)
  | some suspension =>
    if suspension.isInteractive then
      match actions with
      | [] => driveFrom [] (suspension :: seen) e.advance
      | action :: rest =>
        if action = .fail then (some .host, (suspension :: seen).reverse, e.advance)
        else driveFrom rest (suspension :: seen) (e.advance.apply action)
    else match e.advance.sleep (.num (.float suspension.delay)) with
    | .error fault => (some (.fault fault), seen.reverse, e.advance)
    | .ok _ => driveFrom actions seen e.advance
termination_by e.budget
decreasing_by all_goals simpa using budget_advance_lt _pending

/-- A whole run. Without actions there is nobody to ask, and the run may not be interactive. -/
def run (program : Body) (functions : FunctionTable) (speed interactive : Json)
    (actions : Option (List HostAction)) (e : Engine) :
    Engine × Except HostError (List Suspension × Option RunResult) :=
  if interactive.isTruthy && actions.isNone then (e, .error (.engine .noCallback))
  else match e.begin program functions speed interactive with
  | (e, .error error) => (e, .error (.engine error))
  | (e, .ok ()) =>
    match e.driveFrom (actions.getD []) [] with
    | (some error, _, last) => (last, .error error)
    | (none, seen, last) => match last.fault? with
      | some fault => (last, .error (.fault fault))
      | none => (last, .ok (seen, last.result?))

end Engine

end GridRobot
