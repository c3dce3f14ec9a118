import GridRobot.Proofs.Run.Parallel
import GridRobot.Proofs.Run.Termination

/-!
What was reported before. An engine keeps what it has reported and printed, and never looks at it: whatever it does on
top of an older history, it does without it in the same way. `Engine.onto` puts an older history below an engine's own,
and commutes with everything an engine can be asked to do.
-/
namespace GridRobot

structure History where
  events : List Event
  printed : List String

namespace History

def after (later earlier : History) : History :=
  ⟨later.events ++ earlier.events, later.printed ++ earlier.printed⟩

def entered (h : History) : List Instruction :=
  h.events.reverse.filterMap fun
    | .entered node => some node
    | _ => none

end History

namespace Engine

def history (e : Engine) : History := ⟨e.events, e.printed⟩

/-- The engine with an older history below its own. -/
def onto (before : History) (e : Engine) : Engine :=
  { e with events := e.events ++ before.events, printed := e.printed ++ before.printed }

def afresh (e : Engine) : Engine := { e with events := [], printed := [] }

theorem logAs_afresh (note : Note) (severity : Severity) (e : Engine) : (e.logAs note severity).afresh = e.afresh := by
  have observers := observers_logAs note severity e
  have cancelled := cancelled_logAs note severity e
  unfold afresh
  rw [observers, cancelled]
  rfl

variable {before : History}

theorem onto_print (lines : List String) (e : Engine) : (e.onto before).print lines = (e.print lines).onto before := by
  simp [onto, print]

theorem onto_emit (event : Event) (e : Engine) : (e.onto before).emit event = (e.emit event).onto before := by
  simp [onto, emit]

theorem onto_log (note : Note) (e : Engine) : (e.onto before).log note = (e.log note).onto before := onto_emit _ e

theorem onto_finish (ending : Ending) (e : Engine) : (e.onto before).finish ending = (e.finish ending).onto before :=
  onto_emit _ { e with phase := .completed ⟨ending, e.world, e.executed⟩ }

theorem onto_stop (halt : Halt) (e : Engine) : (e.onto before).stop halt = (e.stop halt).onto before := by
  unfold stop
  rw [onto_log, onto_finish]

theorem onto_abort (e : Engine) : (e.onto before).abort = e.abort.onto before := by
  unfold abort
  rw [onto_log, onto_finish]

theorem onto_conclude (e : Engine) : (e.onto before).conclude = e.conclude.onto before := by
  have same : (e.onto before).world = e.world := rfl
  unfold conclude
  rw [same]
  split
  · rw [onto_log, onto_finish]
  · rw [onto_log, onto_finish]

theorem onto_announce (node : Instruction) (e : Engine) :
    (e.onto before).announce node = (e.announce node).onto before := by
  have entered : ({ e.onto before with executed := e.executed + 1 }.emit (.entered node)) =
      ({ e with executed := e.executed + 1 }.emit (.entered node)).onto before :=
    onto_emit _ { e with executed := e.executed + 1 }
  unfold announce
  dsimp only
  split
  · rename_i stepped
    have stepped' : ({ e with executed := e.executed + 1 }.emit (.entered node)).isInteractive = true := stepped
    rw [if_pos stepped']
    exact (congrArg (log (.pausedAt node)) entered).trans (onto_log _ _)
  · rename_i alone
    have alone' : ¬({ e with executed := e.executed + 1 }.emit (.entered node)).isInteractive = true := alone
    rw [if_neg alone']
    exact entered

theorem onto_enter (node : Instruction) (frames : List Frame) (e : Engine) :
    (e.onto before).enter node frames = (e.enter node frames).onto before := by
  have same : (e.onto before).cancelled = e.cancelled := rfl
  have delay : ((e.announce node).onto before).delay = (e.announce node).delay := rfl
  rw [enter_eq, enter_eq, same, onto_announce, delay]
  split
  · exact onto_abort e
  · split
    · exact onto_stop _ _
    · rfl

theorem isParallel_onto (before : History) : IsParallel fun a b => b = a.onto before where
  world same := by rw [same, onto]
  draws same := by rw [same, onto]
  draw same draws := by rw [same, onto, onto]
  log same note := by rw [same, onto_log]

theorem onto_proceed (e : Engine) (frames : List Frame) :
    (e.onto before).proceed frames = (e.proceed frames).onto before := by
  have along : ProceedsTo id (fun a b => b = a.onto before) fun a b => b = a.onto before :=
    { isParallel_onto before with
      nothing := rfl
      cancelled := fun same => by rw [same, onto]
      conclude := fun same => by rw [same, onto_conclude]
      abort := fun same => by rw [same, onto_abort]
      stop := fun same halt => by rw [same, onto_stop]
      enter := fun same node rest outer => by rw [same, proceed_block_same, onto_enter] }
  exact along.proceed_same rfl frames

theorem onto_showWorld (e : Engine) : (e.onto before).showWorld = e.showWorld.onto before := onto_emit _ e

theorem onto_showRegisters (e : Engine) : (e.onto before).showRegisters = e.showRegisters.onto before := onto_emit _ e

def Progress.onto (before : History) : Progress → Progress
  | .onward e frames => .onward (e.onto before) frames
  | .ended e => .ended (e.onto before)

theorem onto_perform (node : Instruction) (frames : List Frame) (e : Engine) :
    (e.onto before).perform node frames = (e.perform node frames).onto before := by
  have alike : PerformsAlike id fun a b => b = a.onto before :=
    { isParallel_onto before with
      callLimit := fun same => by rw [same, onto]
      look := fun same => look_same (by rw [same, onto])
      inWorld := fun same world => by rw [same, onto, onto]
      showWorld := fun same => by rw [same, onto_showWorld]
      showRegisters := fun same => by rw [same, onto_showRegisters] }
  rcases alike.perform_same (a := e) rfl node frames with
    ⟨next, other, after, rfl, left, right⟩ | ⟨next, other, halt, rfl, left, right⟩
  · rw [left, right, Progress.onto]
  · rw [left, right, Progress.onto, onto_stop]

theorem onto_advance (e : Engine) : (e.onto before).advance = e.advance.onto before := by
  have phase : (e.onto before).phase = e.phase := rfl
  have cancelled : (e.onto before).cancelled = e.cancelled := rfl
  cases here : e.phase with
  | idle | completed result =>
    rw [advance, advance, phase, here]
  | active pending frames =>
    cases pending with
    | none =>
      rw [advance, advance, phase, here]
      exact onto_proceed e frames
    | some suspension =>
      rw [advance, advance, phase, here]
      simp only [cancelled, onto_perform]
      split
      · exact onto_abort e
      · cases e.perform suspension.node frames with
        | onward next after => exact onto_proceed next after
        | ended last => rfl

theorem onto_armed (program : Body) (functions : FunctionTable) (speed interactive : Json) (e : Engine) :
    (e.onto before).armed program functions speed interactive =
      (e.armed program functions speed interactive).onto before :=
  onto_log _ { e with
    speed, interactive, cancelled := false, functions, executed := 0
    phase := .active none [.block program] }

theorem onto_setWorld (world : World) (e : Engine) :
    (e.onto before).setWorld world = (e.setWorld world).map (onto before) := by
  have active : (e.onto before).isActive = e.isActive := rfl
  unfold setWorld
  rw [active]
  split
  · rfl
  · rfl

end Engine

end GridRobot
