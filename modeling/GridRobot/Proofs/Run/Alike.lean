import GridRobot.Proofs.Run.Parallel

/-!
Runs that differ in nothing but their pace. `Engine.Alike` compares what the pace of a run should not touch: the world,
the random numbers, the observers, where the run stands, and what was reported since it began, without what is said to
those who step through it. An `advance` of two such runs leaves them alike, unless one of them breaks at a pause.
-/
namespace GridRobot

/-- Where a run is suspended: in front of which instruction, and how many it has entered by then. -/
def Suspension.place (s : Suspension) : Instruction × Nat := (s.node, s.index)

namespace Event

/-- What is logged beside the run: that it pauses for somebody, and, where refusals count as such, that another run was
turned down meanwhile. -/
def isAside (refusals : Bool) : Event → Bool
  | .logged (.pausedAt _) _ => true
  | .logged .alreadyRunning _ => refusals
  | _ => false

def isStart : Event → Bool
  | .logged .started _ => true
  | _ => false

def sinceStart (refusals : Bool) : List Event → List Event
  | [] => []
  | event :: before =>
    if event.isAside refusals then sinceStart refusals before
    else if event.isStart then [event]
    else event :: sinceStart refusals before

end Event

open Event (sinceStart)

/-- Two phases at the same place, whatever is said about the pause there. -/
inductive Phase.Alike : Phase → Phase → Prop
  | idle : Phase.Alike .idle .idle
  | fresh (frames : List Frame) : Phase.Alike (.active none frames) (.active none frames)
  | suspended {s t : Suspension} (frames : List Frame) (place : s.place = t.place) :
      Phase.Alike (.active (some s) frames) (.active (some t) frames)
  | completed (result : RunResult) : Phase.Alike (.completed result) (.completed result)

theorem Phase.Alike.symm {p q : Phase} (alike : p.Alike q) : q.Alike p := by
  cases alike with
  | idle => exact .idle
  | fresh frames => exact .fresh frames
  | suspended frames place => exact .suspended frames place.symm
  | completed result => exact .completed result

namespace Engine

/-- What a run has reported since it began, in order, without what is beside it. -/
def account (refusals : Bool) (e : Engine) : List Event := (sinceStart refusals e.events).reverse

structure Alike (refusals : Bool) (a b : Engine) : Prop where
  world : a.world = b.world
  draws : a.draws = b.draws
  observers : a.observers = b.observers
  callLimit : a.callLimit = b.callLimit
  functions : a.functions = b.functions
  cancelled : a.cancelled = b.cancelled
  executed : a.executed = b.executed
  reported : sinceStart refusals a.events = sinceStart refusals b.events
  phase : a.phase.Alike b.phase

namespace Alike

variable {refusals : Bool} {a b : Engine}

theorem symm (alike : a.Alike refusals b) : b.Alike refusals a where
  world := alike.world.symm
  draws := alike.draws.symm
  observers := alike.observers.symm
  callLimit := alike.callLimit.symm
  functions := alike.functions.symm
  cancelled := alike.cancelled.symm
  executed := alike.executed.symm
  reported := alike.reported.symm
  phase := alike.phase.symm

theorem account (alike : a.Alike refusals b) : a.account refusals = b.account refusals :=
  congrArg List.reverse alike.reported

theorem isActive (alike : a.Alike refusals b) : a.isActive = b.isActive := by
  have phase := alike.phase
  unfold Engine.isActive
  generalize a.phase = p at phase
  generalize b.phase = q at phase
  cases phase with
  | idle | fresh | suspended | completed => rfl

theorem result? (alike : a.Alike refusals b) : a.result? = b.result? := by
  have phase := alike.phase
  unfold Engine.result?
  generalize a.phase = p at phase
  generalize b.phase = q at phase
  cases phase with
  | idle | fresh | suspended | completed => rfl

theorem fault? (alike : a.Alike refusals b) : a.fault? = b.fault? := by
  have phase := alike.phase
  unfold Engine.fault?
  generalize a.phase = p at phase
  generalize b.phase = q at phase
  cases phase with
  | idle | fresh | suspended | completed => rfl

theorem place (alike : a.Alike refusals b) :
    a.pending?.map Suspension.place = b.pending?.map Suspension.place := by
  have phase := alike.phase
  unfold pending?
  generalize a.phase = p at phase
  generalize b.phase = q at phase
  cases phase with
  | idle | fresh | completed => rfl
  | suspended frames place => exact congrArg some place

theorem emit (alike : a.Alike refusals b) (event : Event) : (a.emit event).Alike refusals (b.emit event) where
  world := alike.world
  draws := alike.draws
  observers := by simp [Engine.emit, alike.observers]
  callLimit := alike.callLimit
  functions := alike.functions
  cancelled := by simp [Engine.emit, alike.observers, alike.cancelled]
  executed := alike.executed
  reported := by simp [Engine.emit, sinceStart, alike.reported]
  phase := alike.phase

theorem log (alike : a.Alike refusals b) (note : Note) : (a.log note).Alike refusals (b.log note) := alike.emit _

theorem aside (alike : a.Alike refusals b) {note : Note} {severity : Severity}
    (beside : (Event.logged note severity).isAside refusals = true) : (a.logAs note severity).Alike refusals b where
  world := alike.world
  draws := alike.draws
  observers := (observers_logAs note severity a).trans alike.observers
  callLimit := alike.callLimit
  functions := alike.functions
  cancelled := (cancelled_logAs note severity a).trans alike.cancelled
  executed := alike.executed
  reported := by
    rw [← alike.reported]
    show sinceStart refusals (.logged note severity :: a.events) = _
    rw [sinceStart, if_pos beside]
  phase := alike.phase

theorem inWorld (alike : a.Alike refusals b) (world : World) :
    { a with world }.Alike refusals { b with world } := { alike with world := rfl }

theorem finish (alike : a.Alike refusals b) (ending : Ending) :
    (a.finish ending).Alike refusals (b.finish ending) := by
  have same : (⟨ending, a.world, a.executed⟩ : RunResult) = ⟨ending, b.world, b.executed⟩ := by
    rw [alike.world, alike.executed]
  have ended (result : RunResult) :
      { a with phase := .completed result }.Alike refusals { b with phase := .completed result } :=
    { alike with phase := .completed result }
  unfold Engine.finish
  dsimp only
  rw [same]
  exact (ended _).emit _

theorem stop (alike : a.Alike refusals b) (halt : Halt) : (a.stop halt).Alike refusals (b.stop halt) :=
  (alike.log halt.note).finish halt.ending

theorem abort (alike : a.Alike refusals b) : a.abort.Alike refusals b.abort := (alike.log .aborted).finish .aborted

theorem conclude (alike : a.Alike refusals b) : a.conclude.Alike refusals b.conclude := by
  unfold Engine.conclude
  rw [alike.world]
  split
  · exact (alike.log .goalReached).finish .success
  · exact (alike.log .goalMissed).finish .goalMissed

theorem showWorld (alike : a.Alike refusals b) : a.showWorld.Alike refusals b.showWorld := by
  unfold Engine.showWorld
  rw [alike.world]
  exact alike.emit _

theorem showRegisters (alike : a.Alike refusals b) : a.showRegisters.Alike refusals b.showRegisters := by
  unfold Engine.showRegisters
  rw [alike.world]
  exact alike.emit _

theorem announce (alike : a.Alike refusals b) (node : Instruction) :
    (a.announce node).Alike refusals (b.announce node) := by
  have counted : { a with executed := a.executed + 1 }.Alike refusals { b with executed := b.executed + 1 } :=
    { alike with executed := congrArg Nat.succ alike.executed }
  have entered := counted.emit (.entered node)
  unfold Engine.announce
  dsimp only
  split
  · split
    · exact entered.log (.pausedAt node)
    · exact entered.aside rfl
  · split
    · exact (entered.symm.aside rfl).symm
    · exact entered

theorem enter (alike : a.Alike refusals b) (paced : b.IsPaced) (node : Instruction) (frames : List Frame) :
    (∃ fault, (a.enter node frames).Falters fault) ∨
      (a.enter node frames).Alike refusals (b.enter node frames) := by
  have announced := alike.announce node
  rcases (announce_terms node b).pace.isPaced paced with ⟨pause, computed⟩
  rw [enter_eq, enter_eq, alike.cancelled, computed]
  split
  · exact .inr alike.abort
  · split
    · rename_i fault failed
      exact .inl ⟨fault, rfl, failed⟩
    · right
      refine { announced with phase := .suspended frames ?_ }
      exact congrArg (Prod.mk node) announced.executed

theorem performsAlike (refusals : Bool) : PerformsAlike id (Alike refusals) where
  world alike := alike.world.symm
  draws alike := alike.draws.symm
  draw alike _ := { alike with draws := rfl }
  log alike note := alike.log note
  callLimit alike := alike.callLimit.symm
  look alike := look_same alike.functions.symm
  inWorld alike world := alike.inWorld world
  showWorld alike := alike.showWorld
  showRegisters alike := alike.showRegisters

theorem proceedsTo (refusals : Bool) : ProceedsTo id (fun a b => a.Alike refusals b ∧ b.IsPaced)
    fun a b => (∃ fault, a.Falters fault) ∨ a.Alike refusals b where
  world related := related.1.world.symm
  draws related := related.1.draws.symm
  draw related _ := ⟨{ related.1 with draws := rfl }, related.2⟩
  log related note := ⟨related.1.log note, (log_deliberates note _).terms.pace.isPaced related.2⟩
  nothing := rfl
  cancelled related := related.1.cancelled.symm
  conclude related := .inr related.1.conclude
  abort related := .inr related.1.abort
  stop related halt := .inr (related.1.stop halt)
  enter related node rest outer := by
    rw [proceed_block_same]
    exact related.1.enter related.2 node _

theorem proceed (alike : a.Alike refusals b) (paced : b.IsPaced) (frames : List Frame) :
    (∃ fault, (a.proceed frames).Falters fault) ∨ (a.proceed frames).Alike refusals (b.proceed frames) :=
  (proceedsTo refusals).proceed_same ⟨alike, paced⟩ frames

end Alike

inductive Progress.Alike (refusals : Bool) : Progress → Progress → Prop
  | onward {a b : Engine} (frames : List Frame) (alike : a.Alike refusals b) :
      Progress.Alike refusals (.onward a frames) (.onward b frames)
  | ended {a b : Engine} (alike : a.Alike refusals b) : Progress.Alike refusals (.ended a) (.ended b)

namespace Alike

variable {refusals : Bool} {a b : Engine}

theorem perform (alike : a.Alike refusals b) (node : Instruction) (frames : List Frame) :
    (a.perform node frames).Alike refusals (b.perform node frames) := by
  rcases (performsAlike refusals).perform_same alike node frames with
    ⟨next, other, after, alike, left, right⟩ | ⟨next, other, halt, alike, left, right⟩
  · rw [left, right]
    exact .onward after alike
  · rw [left, right]
    exact .ended (alike.stop halt)

/-- An `advance` leaves runs alike whatever their pace, unless one breaks where its pause cannot be computed. -/
theorem advance (alike : a.Alike refusals b) (paced : b.IsPaced) :
    (∃ fault, a.advance.Falters fault) ∨ a.advance.Alike refusals b.advance := by
  have phase := alike.phase
  generalize here : a.phase = p at phase
  generalize there : b.phase = q at phase
  cases phase with
  | idle =>
    rw [Engine.advance, here, Engine.advance, there]
    exact .inr alike
  | fresh frames =>
    rw [Engine.advance, here, Engine.advance, there]
    exact alike.proceed paced frames
  | @suspended s t frames place =>
    rcases Prod.mk.inj place with ⟨node, -⟩
    by_cases cancelled : a.cancelled = true
    · rw [Engine.advance, here, Engine.advance, there]
      simp only [if_pos cancelled, if_pos (alike.cancelled ▸ cancelled)]
      exact .inr alike.abort
    · have running : b.cancelled = false := by simpa [← alike.cancelled] using cancelled
      -- The two suspensions may differ in their pauses, but not in the instruction that is performed next.
      have performed := alike.perform s.node frames
      generalize first : a.perform s.node frames = left at performed
      generalize second : b.perform s.node frames = right at performed
      rw [node] at second
      cases performed with
      | onward after alike =>
        rw [advance_onward here (by simpa using cancelled) first, advance_onward there running second]
        exact alike.proceed ((perform_pace second).isPaced paced) after
      | ended alike =>
        rw [advance_ended here (by simpa using cancelled) first, advance_ended there running second]
        exact .inr alike
  | completed result =>
    rw [Engine.advance, here, Engine.advance, there]
    exact .inr alike

end Alike

end Engine

end GridRobot
