import GridRobot.Session

/-!
A session with the worker that drives its runs. The two signal to each other: the worker sets `paused` where it waits
for a step, and is let go on by `resume`. What a session has as `waiting` says whether the worker waits for that, and
`fault` is what broke it. A `WorkerStage` is a place in the worker's loop, and `work` takes it from one to the next unless
it has to wait. `Session` drives its runs by itself, and gets to where the worker rests. Whatever else happens comes
while the worker rests; what another thread could do while it is at work is left open.
-/
namespace GridRobot

inductive WorkerStage
  | advancing
  /-- In front of an interactive suspension, which is still to be made known. -/
  | arming
  /-- It is known, but a request to stop may have come before. -/
  | checking
  | blocked
  /-- Let go on, with the signal still to be taken back. -/
  | resumed
  | sleeping (delay : Binary64)
  | failing (fault : RunFault)
  | unwinding
  | ended
deriving DecidableEq

structure Controller where
  session : Session
  resume : Bool := false
  paused : Bool := false
  worker : Option WorkerStage := none

namespace Controller

def isRunning (c : Controller) : Bool := c.session.isRunning

def pending? (c : Controller) : Option Suspension := c.session.pending?

def release (c : Controller) : Controller := { c with session.waiting := false, resume := true, paused := false }

def afterAdvance : Except RunFault (Option Suspension) → WorkerStage
  | .error fault => .failing fault
  | .ok none => .unwinding
  | .ok (some s) => if s.isInteractive then .arming else if s.delay.isPositive then .sleeping s.delay else .advancing

/-- The next thing the worker does, unless it has to wait. For the patient every delay has passed. -/
def work (patient : Bool) (c : Controller) : Option Controller :=
  match c.worker with
  | none | some .ended => none
  | some .advancing =>
    let (engine, answer) := c.session.engine.resume
    some { c with session.engine := engine, worker := some (afterAdvance answer) }
  | some .arming => some { c with session.waiting := true, paused := true, worker := some .checking }
  | some .checking =>
    let c := if c.session.engine.cancelled && c.session.waiting then c.release else c
    some { c with worker := some .blocked }
  | some .blocked => if c.resume then some { c with worker := some .resumed } else none
  | some .resumed => some { c with resume := false, worker := some .advancing }
  | some (.sleeping delay) => match c.session.engine.sleep (.num (.float delay)) with
    | .error fault => some { c with worker := some (.failing fault) }
    | .ok cancelled => if cancelled || patient then some { c with worker := some .advancing } else none
  | some (.failing fault) =>
    let session := { c.session with fault := some fault }
    some { c with
      session := session.print ["[Debugger] ERROR run crashed: " ++ fault.message], worker := some .unwinding }
  | some .unwinding => some { c with session.waiting := false, paused := true, worker := some .ended }

/-- Follows the worker to where it rests, if it ever does. -/
def follow (patient : Bool) (c : Controller) : Option Controller :=
  haveI : Nonempty Controller := ⟨c⟩
  repeatM (fun c => some (match work patient c with
    | none => .inr c
    | some next => .inl next)) c

theorem follow_of_work {patient : Bool} {c next : Controller} (works : c.work patient = some next) :
    c.follow patient = next.follow patient := by
  haveI : Nonempty Controller := ⟨c⟩
  refine (repeatM_eq_of_monadTail c).trans ?_
  unfold repeatM.body
  dsimp only [bind, Option.bind]
  rw [works]
  rfl

theorem follow_of_stuck {patient : Bool} {c : Controller} (stuck : c.work patient = none) :
    c.follow patient = some c := by
  haveI : Nonempty Controller := ⟨c⟩
  refine (repeatM_eq_of_monadTail c).trans ?_
  unfold repeatM.body
  dsimp only [bind, Option.bind]
  rw [stuck]
  rfl

/-- What has nothing to do with the worker. -/
def edit {α : Type} (change : Session → Session.Answer α) (c : Controller) : Controller × Except SessionError α :=
  let (session, answer) := change c.session
  ({ c with session }, answer)

def run (speed : Option Json) (interactive : Json) (c : Controller) : Controller × Except SessionError Bool :=
  match c.session.prepare speed interactive with
  | (session, .ok true) => ({ session, resume := false, paused := false, worker := some .advancing }, .ok true)
  | (session, answer) => ({ c with session }, answer)

def step (speed : Option Json) (c : Controller) : Controller × Except SessionError Bool :=
  if !c.isRunning then c.run speed (.bool true)
  else if !c.session.waiting then (c, .ok false)
  else ({ c with session.engine := c.session.engine.setInteractive (.bool true) }.release, .ok true)

def continueRun (c : Controller) : Controller × Bool :=
  if !c.session.waiting then (c, false)
  else
    let c := { c with session.engine := c.session.engine.setInteractive (.bool false) }.release
    let lines := if c.session.verbose then ["[Debugger] Continuing without stepping"] else []
    ({ c with session := c.session.print lines }, true)

def cancel (c : Controller) : Controller :=
  let c := { c with session.engine := c.session.engine.cancel }
  if c.session.waiting then c.release else c

/-- The result of the last run, nothing while its worker is at it, or what broke it. -/
def wait (c : Controller) : Except SessionError (Option RunResult) :=
  let ended := match c.worker with
    | none | some .ended => true
    | some _ => false
  if !ended then .ok none
  else match c.session.fault with
    | some fault => .error (.run fault)
    | none => .ok c.session.engine.result?

def waitUntilPaused (c : Controller) : Option Suspension := if c.paused then c.pending? else none

/-- Stops the active run and puts the level back to its start, if the worker comes to rest and is not broken. -/
def reset (c : Controller) : Option (Controller × Except SessionError Unit) :=
  if c.isRunning then
    (c.cancel.follow false).map fun c => match c.wait with
      | .error error => (c, .error error)
      | .ok _ => c.edit Session.restore
  else some (c.edit Session.restore)

/-- The delay passes in which the worker sits, if it does. -/
def elapse (c : Controller) : Option Controller :=
  match c.worker with
  | some (.sleeping _) => ((c.work true).getD c).follow false
  | _ => some c

end Controller

end GridRobot
