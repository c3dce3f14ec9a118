import GridRobot.Proofs.Run.Audience
import GridRobot.Proofs.Run.Chance
import GridRobot.Proofs.Session.Stepping

/-!
Runs that come to the same each time. A routine is a run with one result, whatever the random numbers are: it comes to no
fault, and its pauses can be waited out. A session that is set for a routine arrives at that result however it is taken
there, in steps or in one go, and after any number of new starts; only a run that is cancelled ends elsewhere.
-/
namespace GridRobot

/-- What a run is begun with, and the result that it comes to. -/
structure Routine where
  program : Body
  definitions : Body
  table : FunctionTable
  world : World
  callLimit : CallLimit
  speed : Json
  baseDelay : Json
  pause : Binary64
  result : RunResult
  /-- There is something to run. -/
  given : (program.isEmpty && definitions.isEmpty) = false
  listed : FunctionTable.ofDefinitions definitions = .ok table
  positive : Relation.atMost.check speed (.int 0) = .ok false
  computed : Pause.atSpeed speed baseDelay = .ok pause
  short : Pause.isTooLong (.float pause) = false
  /-- Every new start finds other random numbers. -/
  leads : ∀ draws, (meaning program table callLimit world draws).result = result
  sound : ∀ fault, result.ending ≠ .crashed fault

section

variable {file : ProgramFile} (readable : file.IsReadable) (main : Instruction.bodyCertain file.main = true)
  (functions : Instruction.bodyCertain file.functions = true)
  (given : (file.main.isEmpty && file.functions.isEmpty) = false) {table : FunctionTable}
  (listed : file.table = .ok table) (world : World) {callLimit : CallLimit} (numeric : callLimit.fault = none)
  {speed baseDelay : Json} (positive : Relation.atMost.check speed (.int 0) = .ok false) {pause : Binary64}
  (computed : Pause.atSpeed speed baseDelay = .ok pause) (short : Pause.isTooLong (.float pause) = false) (draws : Draws)

def Routine.ofFile : Routine where
  program := file.main
  definitions := file.functions
  table
  world
  callLimit
  speed
  baseDelay
  pause
  result := (meaning file.main table callLimit world draws).result
  given
  listed
  positive
  computed
  short
  leads other :=
    result_reseed main (FunctionTable.ofDefinitions_certain functions listed) callLimit world draws other
  sound fault crashed := by
    obtain ⟨_, defined, bodies⟩ := FunctionTable.ofDefinitions_readable readable.functions
    obtain rfl := Except.ok.inj (listed.symm.trans defined)
    have certain := FunctionTable.ofDefinitions_certain functions listed
    have halted := (Course.ending_eq_crashed _ fault).mp crashed
    exact faultless_of_certain main certain callLimit world readable.main bodies numeric draws fault halted

end

namespace Engine

variable {e : Engine} {routine : Routine} {stop : Suspension}

/-- The run leads to the result of a routine, with the pauses of the routine: nobody has asked to stop it, and nobody who
listens will. -/
structure IsBoundFor (routine : Routine) (e : Engine) : Prop where
  leads : ∃ course, e.LeadsTo course ∧ course.result = routine.result
  uncancelled : e.cancelled = false
  calm : e.IsCalm
  computed : Pause.atSpeed e.speed e.baseDelay = .ok routine.pause

namespace IsBoundFor

theorem armed (calm : e.IsCalm) (callLimit : e.callLimit = routine.callLimit) (baseDelay : e.baseDelay = routine.baseDelay)
    (world : e.world = routine.world) (interactive : Json) :
    (e.armed routine.program routine.table routine.speed interactive).IsBoundFor routine where
  leads := by
    refine ⟨_, leadsTo_meaning routine.program routine.table interactive routine.speed e, ?_⟩
    rw [callLimit, world]
    exact routine.leads e.draws
  uncancelled := cancelled_logAs _ _ _
  calm := calm.emit (.logged .started .success)
  computed := by
    have base : (e.armed routine.program routine.table routine.speed interactive).baseDelay = e.baseDelay := rfl
    rw [base, baseDelay]
    exact routine.computed

theorem advance (bound : e.IsBoundFor routine) : e.advance.IsBoundFor routine := by
  have unswayed := Unswayed.advance e
  have uncancelled : e.advance.cancelled = false := (unswayed.cancelled bound.calm).trans bound.uncancelled
  have pace := advance_pace e
  have computed : Pause.atSpeed e.advance.speed e.advance.baseDelay = .ok routine.pause := by
    rw [pace.speed, pace.baseDelay]
    exact bound.computed
  obtain ⟨course, leads, same⟩ := bound.leads
  refine ⟨?_, uncancelled, unswayed.calm bound.calm, computed⟩
  rcases advance_leadsTo leads with broken | onward
  · -- It can be broken off only by a request to stop, or at a pause that cannot be computed.
    cases broken with
    | cancelled phase aborted requested =>
      rw [uncancelled] at requested
      cases requested
    | faltered falters =>
      have failed := failed_of_delay falters.2
      rw [computed] at failed
      cases failed
  · exact ⟨course, onward, same⟩

theorem arrives (bound : e.IsBoundFor routine) (finished : e.isActive = false) :
    e.result? = some routine.result ∧ e.world = routine.result.world := by
  obtain ⟨course, leads, same⟩ := bound.leads
  obtain ⟨ended, reached⟩ := leads.reached finished
  rw [← same]
  exact ⟨ended, congrArg Trail.world reached⟩

theorem sleep (bound : e.IsBoundFor routine) (stands : e.StandsAt stop) :
    e.sleep (.num (.float stop.delay)) = .ok false := by
  apply sleep_short bound.uncancelled
  cases stepped : e.isInteractive with
  | true =>
    rw [stands.delay_of_stepped stepped]
    exact Pause.isTooLong_zero
  | false =>
    have delay := stands.delay_of_alone stepped
    rw [bound.computed] at delay
    rw [← Except.ok.inj delay]
    exact routine.short

theorem resumed (bound : e.IsBoundFor routine) (value : Json) (lines : List String) :
    ((e.setInteractive value).print lines).IsBoundFor routine where
  leads := bound.leads
  uncancelled := bound.uncancelled
  calm := bound.calm
  computed := bound.computed

end IsBoundFor

end Engine

namespace Session

variable {s : Session} {routine : Routine}

/-! ### A calm audience of a session -/

theorem logAs_isCalm (text : String) (severity : Severity) (calm : s.engine.IsCalm) :
    (s.logAs text severity).engine.IsCalm := calm.emit _

theorem logGiven_isCalm (label : String) (value : Json) (calm : s.engine.IsCalm) :
    (s.logGiven label value).engine.IsCalm := by
  unfold Session.logGiven
  split
  · exact logAs_isCalm _ _ calm
  · exact calm

theorem warn_isCalm (warnings : List String) (calm : s.engine.IsCalm) :
    (warnings.foldl (fun s warning => s.logAs warning .warning) s).engine.IsCalm := by
  induction warnings generalizing s with
  | nil => exact calm
  | cons warning rest ih => exact ih (logAs_isCalm _ _ calm)

theorem importProgram_isCalm (source : Source) (calm : s.engine.IsCalm) :
    (s.importProgram source).1.engine.IsCalm := by
  unfold Session.importProgram
  dsimp only
  split
  · exact calm
  · split
    · exact logAs_isCalm _ _ calm
    · rename_i file read
      let installed : Session :=
        { s.print (ProgramFile.import? s.verbose source).1 with program := file.main, functions := file.functions }
      have warned := warn_isCalm (s := installed) file.warnings calm
      split
      · exact logAs_isCalm _ _ warned
      · exact logAs_isCalm _ _ (logAs_isCalm _ _ warned)

theorem loadLevel_isCalm (wanted : Json) (calm : s.engine.IsCalm) : (s.loadLevel wanted).1.engine.IsCalm := by
  cases running : s.isRunning with
  | true => rwa [loadLevel_running running]
  | false =>
    have idle : ({ s with level := (s.catalog.get wanted).2 }.print (s.catalog.get wanted).1).isRunning = false := running
    simp only [Session.loadLevel, running, rebuildWorld_idle idle]
    let switched := { s with level := (s.catalog.get wanted).2 }.print (s.catalog.get wanted).1
    cases switched.level.world switched.allocation with
    | error unbuilt => exact calm
    | ok world => exact logGiven_isCalm _ _ (logGiven_isCalm _ _ (logAs_isCalm _ _ calm))

/-! ### Sessions on their way -/

structure IsSetFor (routine : Routine) (s : Session) : Prop where
  program : s.program = routine.program
  functions : s.functions = routine.definitions
  world : s.level.world s.allocation = .ok routine.world
  callLimit : s.engine.callLimit = routine.callLimit
  baseDelay : s.engine.baseDelay = routine.baseDelay
  calm : s.engine.IsCalm

namespace IsSetFor

theorem of_engine (set : s.IsSetFor routine) (engine : Engine) (calm : engine.IsCalm)
    (callLimit : engine.callLimit = s.engine.callLimit) (baseDelay : engine.baseDelay = s.engine.baseDelay)
    (waiting : Bool) (fault : Option RunFault) : { s with engine, waiting, fault }.IsSetFor routine where
  program := set.program
  functions := set.functions
  world := set.world
  callLimit := callLimit.trans set.callLimit
  baseDelay := baseDelay.trans set.baseDelay
  calm := calm

theorem print (set : s.IsSetFor routine) (lines : List String) : (s.print lines).IsSetFor routine :=
  set.of_engine (s.engine.print lines) set.calm rfl rfl s.waiting s.fault

theorem logAs (set : s.IsSetFor routine) (text : String) (severity : Severity) :
    (s.logAs text severity).IsSetFor routine :=
  set.of_engine _ (set.calm.emit _) rfl rfl s.waiting s.fault

theorem introduce (set : s.IsSetFor routine) (functions : FunctionTable) : (s.introduce functions).IsSetFor routine := by
  induction functions generalizing s with
  | nil => exact set
  | cons entry rest ih => exact ih (set.logAs _ .info)

theorem advance (set : s.IsSetFor routine) : { s with engine := s.engine.advance }.IsSetFor routine :=
  set.of_engine s.engine.advance ((Engine.Unswayed.advance s.engine).calm set.calm) (Engine.advance_table s.engine).2
    (Engine.advance_pace s.engine).baseDelay s.waiting s.fault

end IsSetFor

structure HasArrived (routine : Routine) (s : Session) : Prop where
  idle : s.isRunning = false
  free : s.waiting = false
  sound : s.fault = none
  result : s.engine.result? = some routine.result
  world : s.world = routine.result.world

structure HasLeft (s : Session) : Prop where
  idle : s.isRunning = false
  sound : s.fault = none
  aborted : ∃ result, s.engine.result? = some result ∧ result.ending = .aborted

/-- How far a session is that is taken through a routine. -/
inductive IsAlong (routine : Routine) (s : Session) : Prop
  | arrived (arrived : s.HasArrived routine)
  | standing {stop : Suspension} (stands : s.engine.StandsAt stop) (asked : s.waiting = stop.isInteractive)
      (sound : s.fault = none) (bound : s.engine.IsBoundFor routine)

/-- A session in the course of a routine, which can be begun anew. -/
structure OnCourse (routine : Routine) (s : Session) : Prop where
  set : s.IsSetFor routine
  along : s.IsAlong routine

/-- A session that has arrived, or waits for a step on its way. -/
structure IsSettled (routine : Routine) (s : Session) : Prop extends s.OnCourse routine where
  asked : s.isRunning = true → s.waiting = true

theorem drive_onCourse (patient : Bool) (set : s.IsSetFor routine) (sound : s.fault = none)
    (bound : s.engine.IsBoundFor routine) : (s.drive patient).OnCourse routine := by
  fun_induction Session.drive patient s with
  | case1 s finished =>
    have idle := Engine.over_of_pending finished
    obtain ⟨result, world⟩ := bound.advance.arrives idle
    have unbroken := Engine.fault?_of_unbroken result routine.sound
    have ended : ({ s with engine := s.engine.advance } : Session).ended =
        { s with engine := s.engine.advance, waiting := false, fault := none } := by
      rw [Session.ended, unbroken]
    rw [ended]
    exact ⟨set.advance.of_engine _ set.advance.calm rfl rfl false none, .arrived ⟨idle, rfl, rfl, result, world⟩⟩
  | case2 s suspension pending fault stuck =>
    -- The pauses of a routine are not too long, and where somebody steps there are none.
    rw [bound.advance.sleep (Engine.advance_standsAt pending)] at stuck
    cases stuck
  | case3 s suspension pending cancelled slept waits rests =>
    exact ⟨set.advance.of_engine _ set.advance.calm rfl rfl _ s.fault,
      .standing (Engine.advance_standsAt pending) rfl sound bound.advance⟩
  | case4 s suspension pending cancelled slept waits goes ih => exact ih set.advance sound bound.advance

theorem IsSetFor.run (set : s.IsSetFor routine) (idle : s.isRunning = false) (world : s.world = routine.world)
    (interactive : Json) :
    ∃ next, s.run (some routine.speed) interactive = (next, .ok true) ∧ next.OnCourse routine ∧
      next.engine.interactive = interactive := by
  have given : (s.program.isEmpty && s.functions.isEmpty) = false := by
    rw [set.program, set.functions]
    exact routine.given
  have listed : FunctionTable.ofDefinitions s.functions = .ok routine.table := by
    rw [set.functions]
    exact routine.listed
  have introduced := set.introduce routine.table
  have placed : (s.introduce routine.table).world = routine.world := (Noted.introduce routine.table s).world.trans world
  have bound : (s.begun routine.table (some routine.speed) interactive).engine.IsBoundFor routine := by
    have armed := Engine.IsBoundFor.armed introduced.calm introduced.callLimit introduced.baseDelay placed interactive
    rw [← set.program] at armed
    exact armed
  refine ⟨(s.begun routine.table (some routine.speed) interactive).drive false, ?_, ?_, drive_interactive false _⟩
  · have positive : Relation.atMost.check ((some routine.speed).getD (.num (.float defaultSpeed))) (.int 0) = .ok false :=
      routine.positive
    rw [run_begins idle given listed, positive]
  · exact drive_onCourse false (introduced.of_engine _ bound.calm rfl rfl false none) rfl bound

namespace OnCourse

theorem sound (on : s.OnCourse routine) : s.fault = none := by
  cases on.along with
  | arrived arrived => exact arrived.sound
  | standing stands asked sound bound => exact sound

theorem moving (on : s.OnCourse routine) : s.isStranded = false := by
  rw [isStranded, on.sound]
  exact Bool.and_false _

theorem print (on : s.OnCourse routine) (lines : List String) : (s.print lines).OnCourse routine where
  set := on.set.print lines
  along := by
    cases on.along with
    | arrived arrived => exact .arrived ⟨arrived.idle, arrived.free, arrived.sound, arrived.result, arrived.world⟩
    | standing stands asked sound bound =>
      exact .standing (stands.of_same rfl rfl ⟨rfl, rfl, rfl⟩) asked sound (bound.resumed s.engine.interactive lines)

theorem waits (on : s.OnCourse routine) (waiting : s.waiting = true) :
    ∃ stop, s.engine.StandsAt stop ∧ s.engine.IsBoundFor routine := by
  cases on.along with
  | arrived arrived =>
    rw [arrived.free] at waiting
    cases waiting
  | standing stands asked sound bound => exact ⟨_, stands, bound⟩

theorem release (on : s.OnCourse routine) (waiting : s.waiting = true) (value : Json) (lines : List String) :
    ({ s with engine := (s.engine.setInteractive value).print lines } : Session).release.OnCourse routine := by
  obtain ⟨stop, stands, bound⟩ := on.waits waiting
  have set := on.set.of_engine ((s.engine.setInteractive value).print lines) on.set.calm rfl rfl false s.fault
  exact drive_onCourse false set on.sound (bound.resumed value lines)

theorem step (on : s.OnCourse routine) (waiting : s.waiting = true) (speed : Option Json) :
    ∃ next, s.step speed = (next, .ok true) ∧ next.OnCourse routine := by
  obtain ⟨stop, stands, bound⟩ := on.waits waiting
  exact ⟨_, step_waiting stands.isActive waiting speed, on.release waiting (.bool true) []⟩

theorem continueRun (on : s.OnCourse routine) (waiting : s.waiting = true) : s.continueRun.1.OnCourse routine := by
  rw [continueRun_waiting waiting]
  exact on.release waiting (.bool false) _

theorem join (on : s.OnCourse routine) : s.join.IsSettled routine := by
  unfold Session.join
  rw [on.moving]
  by_cases moves : (s.isRunning && !s.waiting && !false) = true
  · obtain ⟨running, -⟩ : s.isRunning = true ∧ s.waiting = false := by simpa using moves
    rw [if_pos moves]
    have driven : (s.drive true).OnCourse routine := by
      cases on.along with
      | arrived arrived =>
        rw [arrived.idle] at running
        cases running
      | standing stands asked sound bound => exact drive_onCourse true on.set sound bound
    exact ⟨driven, fun still => drive_waiting rfl s still driven.sound⟩
  · rw [if_neg moves]
    refine ⟨on, fun running => ?_⟩
    simpa [running] using moves

theorem join_alone (on : s.OnCourse routine) (alone : s.engine.isInteractive = false) : s.join.HasArrived routine := by
  have settled := on.join
  have still : s.join.engine.isInteractive = false := by
    unfold Session.join
    split
    · unfold Engine.isInteractive
      rw [drive_interactive]
      exact alone
    · exact alone
  cases settled.along with
  | arrived arrived => exact arrived
  | standing stands asked =>
    -- What is settled on its way waits for a step, and nobody steps.
    rw [settled.asked stands.isActive, stands.isInteractive, still] at asked
    cases asked

theorem cancel (on : s.OnCourse routine) (waiting : s.waiting = true) : s.cancel.HasLeft := by
  obtain ⟨stop, stands, -⟩ := on.waits waiting
  rw [cancel_eq stands on.moving]
  exact ⟨rfl, rfl, _, rfl, rfl⟩

theorem reset (on : s.OnCourse routine) (waiting : s.waiting = true) :
    ∃ next, s.reset = (next, .ok ()) ∧ next.IsSetFor routine ∧ next.isRunning = false ∧ next.world = routine.world := by
  obtain ⟨stop, stands, -⟩ := on.waits waiting
  -- The run is ended where it stands, and then the engine is put back into the world of the level.
  let idle : Session := { s with engine := s.engine.cancel.abort, waiting := false, fault := none }
  have calm : s.engine.cancel.abort.IsCalm := (Engine.Unswayed.abort s.engine.cancel).calm on.set.calm
  have aborted : idle.IsSetFor routine := on.set.of_engine _ calm rfl rfl false none
  have level : idle.level.world idle.allocation = .ok routine.world := on.set.world
  rw [reset_running stands on.moving, restore_idle (s := idle) rfl, level]
  refine ⟨_, rfl, ?_, rfl, rfl⟩
  have placed := aborted.of_engine { idle.engine.setInteractive (.bool false) with world := routine.world } calm rfl rfl
    false none
  exact placed.logAs _ _

end OnCourse

theorem IsSettled.print (settled : s.IsSettled routine) (lines : List String) : (s.print lines).IsSettled routine :=
  ⟨settled.toOnCourse.print lines, settled.asked⟩

theorem IsSettled.arrives (settled : s.IsSettled routine) (none : s.pending? = none) : s.HasArrived routine := by
  cases settled.along with
  | arrived arrived => exact arrived
  | standing stands =>
    rw [pending?, if_pos (settled.asked stands.isActive), stands.pending] at none
    cases none

end Session

end GridRobot
