import GridRobot.Proofs.Run.History
import GridRobot.Proofs.Session.Happenings

/-!
What a session turns down while a run is under way. A refusal leaves nothing but a note, and notes are never looked at
again: whatever a session does on top of an older history, it does without it in the same way. So the session goes on as
if nobody had asked.
-/
namespace GridRobot

namespace Session

def onto (before : History) (s : Session) : Session := { s with engine := s.engine.onto before }

def afresh (s : Session) : Session := { s with engine := s.engine.afresh }

theorem afresh_onto (s : Session) : s.afresh.onto s.engine.history = s := rfl

def Answer.onto {α : Type} (before : History) (answer : Answer α) : Answer α := (answer.1.onto before, answer.2)

theorem onto_answer {α : Type} {before : History} {s next : Session} (same : next = s.onto before)
    (outcome : Except SessionError α) : ((next, outcome) : Answer α) = Answer.onto before (s, outcome) := by
  rw [same]
  rfl

/-! ### On top of an older history -/

section Onto

variable {before : History} {s : Session}

theorem onto_print (lines : List String) (s : Session) : (s.onto before).print lines = (s.print lines).onto before :=
  congrArg (fun engine => { s with engine }) (Engine.onto_print lines s.engine)

theorem onto_logAs (text : String) (severity : Severity) (s : Session) :
    (s.onto before).logAs text severity = (s.logAs text severity).onto before :=
  congrArg (fun engine => { s with engine }) (Engine.onto_emit _ s.engine)

theorem onto_logGiven (label : String) (value : Json) (s : Session) :
    (s.onto before).logGiven label value = (s.logGiven label value).onto before := by
  unfold logGiven
  split
  · exact onto_logAs _ _ s
  · rfl

theorem onto_foldl {α : Type} (tell : Session → α → Session)
    (onto_tell : ∀ s a, tell (s.onto before) a = (tell s a).onto before) (given : List α) (s : Session) :
    given.foldl tell (s.onto before) = (given.foldl tell s).onto before := by
  induction given generalizing s with
  | nil => rfl
  | cons a rest ih =>
    rw [List.foldl_cons, List.foldl_cons, onto_tell]
    exact ih (tell s a)

theorem onto_introduce (functions : FunctionTable) (s : Session) :
    (s.onto before).introduce functions = (s.introduce functions).onto before :=
  onto_foldl _ (fun s _ => onto_logAs _ .info s) functions s

theorem onto_broken (fault : RunFault) (s : Session) : (s.onto before).broken fault = (s.broken fault).onto before :=
  onto_print _ { s with waiting := false, fault := some fault }

theorem onto_ended (s : Session) : (s.onto before).ended = s.ended.onto before := by
  have same : (s.onto before).engine.fault? = s.engine.fault? := rfl
  unfold ended
  rw [same]
  split
  · exact onto_broken _ s
  · rfl

theorem onto_drive (patient : Bool) (s : Session) : (s.onto before).drive patient = (s.drive patient).onto before := by
  -- What was reported before has no part in how a run goes on.
  have advanced (s : Session) : ({ s.onto before with engine := (s.onto before).engine.advance } : Session) =
      ({ s with engine := s.engine.advance } : Session).onto before :=
    congrArg (fun engine => { s with engine }) (Engine.onto_advance s.engine)
  have same (s : Session) : (s.onto before).engine.advance = s.engine.advance.onto before := Engine.onto_advance s.engine
  have pending (s : Session) : (s.onto before).engine.advance.pending? = s.engine.advance.pending? := by
    rw [same]
    rfl
  have slept (s : Session) (seconds : Json) :
      (s.onto before).engine.advance.sleep seconds = s.engine.advance.sleep seconds := by
    rw [same]
    rfl
  fun_induction drive patient s with
  | case1 s finished =>
    rw [drive_ended ((pending s).trans finished), advanced]
    exact onto_ended _
  | case2 s suspension found fault stuck =>
    rw [drive_suspended ((pending s).trans found), slept, stuck, advanced]
    exact onto_broken fault _
  | case3 s suspension found cancelled slept' waits rests =>
    rw [drive_suspended ((pending s).trans found), slept, slept']
    dsimp only
    rw [if_pos rests, same]
    rfl
  | case4 s suspension found cancelled slept' waits goes ih =>
    rw [drive_suspended ((pending s).trans found), slept, slept']
    dsimp only
    rw [if_neg goes, advanced]
    exact ih

theorem onto_release (s : Session) : (s.onto before).release = s.release.onto before :=
  onto_drive false { s with waiting := false }

theorem onto_rebuildWorld (s : Session) : (s.onto before).rebuildWorld = s.rebuildWorld.onto before := by
  have level : (s.onto before).level = s.level := rfl
  have engine : (s.onto before).engine = s.engine.onto before := rfl
  unfold rebuildWorld
  have allocation : (s.onto before).allocation = s.allocation := rfl
  rw [level, engine, allocation]
  cases s.level.world s.allocation with
  | error fault => rfl
  | ok world =>
    simp only [Engine.onto_setWorld]
    cases s.engine.setWorld world with
    | error error => rfl
    | ok engine => rfl

theorem onto_loadLevel (wanted : Json) (s : Session) :
    (s.onto before).loadLevel wanted = (s.loadLevel wanted).onto before := by
  have running : (s.onto before).isRunning = s.isRunning := rfl
  have found : (s.onto before).catalog.get wanted = s.catalog.get wanted := rfl
  have switched (level : Level) : ({ s.onto before with level } : Session) = ({ s with level } : Session).onto before := rfl
  unfold loadLevel
  rw [running, found]
  simp only [switched, onto_print, onto_rebuildWorld]
  split
  · rfl
  · generalize ({ s with level := (s.catalog.get wanted).2 }.print (s.catalog.get wanted).1).rebuildWorld = rebuilt
    rcases rebuilt with ⟨next, fault | done⟩
    · rfl
    · simp only [Answer.onto, onto_logAs, onto_logGiven]

theorem onto_nextLevel (s : Session) : (s.onto before).nextLevel = s.nextLevel.onto before := by
  have following : (s.onto before).catalog.nextId (s.onto before).level.id = s.catalog.nextId s.level.id := rfl
  unfold nextLevel
  rw [following]
  cases s.catalog.nextId s.level.id with
  | none => exact onto_answer (onto_logAs _ _ s) _
  | some id =>
    simp only [onto_loadLevel]
    rfl

theorem onto_importProgram (source : Source) (s : Session) :
    (s.onto before).importProgram source = (s.importProgram source).onto before := by
  have running : (s.onto before).isRunning = s.isRunning := rfl
  have verbose : (s.onto before).verbose = s.verbose := rfl
  unfold importProgram
  rw [running, verbose]
  split
  · rfl
  · rcases ProgramFile.import? s.verbose source with ⟨lines, error | file⟩
    · simp only [onto_print, onto_logAs]
      rfl
    · have installed (s : Session) :
          ({ s.onto before with program := file.main, functions := file.functions } : Session) =
            ({ s with program := file.main, functions := file.functions } : Session).onto before := rfl
      have warned (s : Session) : file.warnings.foldl (fun s warning => s.logAs warning .warning) (s.onto before) =
          (file.warnings.foldl (fun s warning => s.logAs warning .warning) s).onto before :=
        onto_foldl _ (fun s warning => onto_logAs warning .warning s) file.warnings s
      simp only [onto_print, installed, warned, onto_logAs]
      split
      · rfl
      · rfl

theorem onto_begun (table : FunctionTable) (speed : Option Json) (interactive : Json) (s : Session) :
    (s.onto before).begun table speed interactive = (s.begun table speed interactive).onto before := by
  have armed : (s.onto before).armed table speed interactive = (s.armed table speed interactive).onto before := by
    unfold Session.armed
    rw [onto_introduce]
    exact Engine.onto_armed _ _ _ _ _
  unfold begun
  rw [armed, onto_introduce]
  rfl

theorem onto_run (speed : Option Json) (interactive : Json) (s : Session) :
    (s.onto before).run speed interactive = (s.run speed interactive).onto before := by
  have running : (s.onto before).isRunning = s.isRunning := rfl
  have program : (s.onto before).program = s.program := rfl
  have functions : (s.onto before).functions = s.functions := rfl
  cases under : s.isRunning with
  | true =>
    rw [run_running (running.trans under), run_running under]
    exact onto_answer (congrArg (fun engine => { s with engine }) (Engine.onto_log _ s.engine)) _
  | false =>
    cases given : s.program.isEmpty && s.functions.isEmpty with
    | true =>
      rw [run, run, prepare, prepare, running, program, functions, under, given]
      exact onto_answer (onto_logAs _ _ s) _
    | false =>
      cases listed : FunctionTable.ofDefinitions s.functions with
      | error unusable =>
        simp only [run, prepare, running, program, functions, under, given, listed]
        rfl
      | ok table =>
        rw [run_begins (s := s.onto before) under given listed, run_begins under given listed, onto_introduce, onto_begun]
        cases Relation.atMost.check (speed.getD (.num (.float defaultSpeed))) (.int 0) with
        | error fault => rfl
        | ok low =>
          cases low with
          | true => rfl
          | false => exact onto_answer (onto_drive false (s.begun table speed interactive)) _

theorem onto_step (speed : Option Json) (s : Session) : (s.onto before).step speed = (s.step speed).onto before := by
  have running : (s.onto before).isRunning = s.isRunning := rfl
  have waiting : (s.onto before).waiting = s.waiting := rfl
  unfold step
  rw [running, waiting]
  split
  · exact onto_run speed _ s
  · split
    · rfl
    · exact onto_answer (onto_release { s with engine := s.engine.setInteractive (.bool true) }) _

theorem onto_continueRun (s : Session) :
    (s.onto before).continueRun = (s.continueRun.1.onto before, s.continueRun.2) := by
  cases waits : s.waiting with
  | false => rw [continueRun_moving (s := s.onto before) waits, continueRun_moving waits]
  | true =>
    let told := ({ s with engine := s.engine.setInteractive (.bool false) } : Session).print
      (if s.verbose then ["[Debugger] Continuing without stepping"] else [])
    have freed : ({ s.onto before with engine := (s.onto before).engine.setInteractive (.bool false) } : Session).print
        (if s.verbose then ["[Debugger] Continuing without stepping"] else []) = told.onto before :=
      onto_print _ { s with engine := s.engine.setInteractive (.bool false) }
    rw [continueRun_waiting (s := s.onto before) waits, continueRun_waiting waits]
    exact congrArg (·, true) ((congrArg release freed).trans (onto_release told))

theorem onto_cancel (s : Session) : (s.onto before).cancel = s.cancel.onto before := by
  have told : ({ s.onto before with engine := (s.onto before).engine.cancel } : Session) =
      ({ s with engine := s.engine.cancel } : Session).onto before := rfl
  unfold cancel
  rw [told]
  generalize ({ s with engine := s.engine.cancel } : Session) = t
  have moving : ((t.onto before).isRunning && !(t.onto before).isStranded) = (t.isRunning && !t.isStranded) := rfl
  dsimp only
  rw [moving]
  split
  · exact onto_release t
  · rfl

theorem onto_restore (s : Session) : (s.onto before).restore = s.restore.onto before := by
  have freed : ({ s.onto before with engine := (s.onto before).engine.setInteractive (.bool false) } : Session) =
      ({ s with engine := s.engine.setInteractive (.bool false) } : Session).onto before := rfl
  unfold restore
  rw [freed, onto_rebuildWorld]
  generalize ({ s with engine := s.engine.setInteractive (.bool false) } : Session).rebuildWorld = rebuilt
  rcases rebuilt with ⟨next, fault | done⟩
  · rfl
  · exact onto_answer (onto_logAs _ _ next) _

theorem onto_reset (s : Session) : (s.onto before).reset = s.reset.onto before := by
  have running : (s.onto before).isRunning = s.isRunning := rfl
  have fault : (s.cancel.onto before).fault = s.cancel.fault := rfl
  unfold reset
  simp only [running, onto_cancel, fault]
  split
  · split
    · rfl
    · exact onto_restore _
  · exact onto_restore s

theorem onto_pass (patient : Bool) (s : Session) :
    (if (s.onto before).isRunning && !(s.onto before).waiting && !(s.onto before).isStranded
      then (s.onto before).drive patient else s.onto before) =
      (if s.isRunning && !s.waiting && !s.isStranded then s.drive patient else s).onto before := by
  have moving : ((s.onto before).isRunning && !(s.onto before).waiting && !(s.onto before).isStranded) =
      (s.isRunning && !s.waiting && !s.isStranded) := rfl
  rw [moving]
  split
  · exact onto_drive patient s
  · rfl

theorem onto_clear (s cleared : Session) (text : String) :
    (if s.isRunning then (s.onto before, .error (.engine .alreadyRunning))
      else ((cleared.onto before).logAs text .info, .ok ()) : Answer Unit) =
      (if s.isRunning then (s, .error (.engine .alreadyRunning)) else (cleared.logAs text .info, .ok ()) : Answer Unit).onto
        before := by
  split
  · rfl
  · exact onto_answer (onto_logAs _ _ cleared) _

theorem onto_serve (request : Request) (s : Session) : (s.onto before).serve request = (s.serve request).onto before := by
  have running : (s.onto before).isRunning = s.isRunning := rfl
  cases request with
  | loadLevel wanted => exact congrArg Answer.settled (onto_loadLevel wanted s)
  | nextLevel => exact congrArg Answer.settled (onto_nextLevel s)
  | importProgram source => exact congrArg Answer.settled (onto_importProgram source s)
  | run speed interactive => exact congrArg Answer.settled (onto_run speed interactive s)
  | step speed => exact congrArg Answer.settled (onto_step speed s)
  | continueRun => exact onto_answer (congrArg Prod.fst (onto_continueRun s)) _
  | cancel => exact onto_answer (onto_cancel s) _
  | reset => exact onto_reset s
  | join => exact onto_answer (onto_pass true s) _
  | observe observer => rfl
  | loadFile files path =>
    unfold serve loadFile
    dsimp only
    rw [running]
    split
    · rfl
    · cases files.readText path with
      | error fault => rfl
      | ok text => exact congrArg Answer.settled (onto_importProgram (.text text) s)
  | exportProgram files path stamp date =>
    unfold serve exportProgram
    simp only [onto_print]
    exact onto_answer (onto_logAs _ _ _) _
  | setProgram main functions =>
    unfold serve setProgram
    dsimp only
    rw [running]
    split
    · rfl
    · split
      · rfl
      · rfl
  | clearProgram => exact onto_clear s { s with program := [] } _
  | clearFunctions => exact onto_clear s { s with functions := [] } _
  | setRegister name value =>
    have registers : (s.onto before).world.registers = s.world.registers := rfl
    unfold serve setRegister
    dsimp only
    rw [registers]
    cases s.world.registers.write name value with
    | error fault => rfl
    | ok written => rfl

theorem onto_undergo (happening : Happening) (s : Session) :
    (s.onto before).undergo happening = (s.undergo happening).onto before := by
  cases happening with
  | request request => exact onto_serve request s
  | elapse => exact onto_answer (onto_pass false s) _

end Onto

/-! ### Twins: sessions that differ in nothing but what was reported -/

/-- What nobody may do while a run is under way: edit, switch the level, or begin another run. -/
inductive Intrusion
  | loadLevel (wanted : Json)
  | nextLevel
  | setProgram (main functions : Body)
  | importProgram (source : Source)
  | loadFile (files : Files) (path : String)
  | clearProgram
  | clearFunctions
  | run (speed : Option Json) (interactive : Json)
  /-- The engine itself is asked to begin a run. -/
  | begin (program : Body) (functions : FunctionTable) (speed interactive : Json)
  /-- The engine itself is given another world. -/
  | setWorld (world : World)

def intrude (s : Session) : Intrusion → Answer Unit
  | .loadLevel wanted => s.serve (.loadLevel wanted)
  | .nextLevel => s.serve .nextLevel
  | .setProgram main functions => s.serve (.setProgram main functions)
  | .importProgram source => s.serve (.importProgram source)
  | .loadFile files path => s.serve (.loadFile files path)
  | .clearProgram => s.serve .clearProgram
  | .clearFunctions => s.serve .clearFunctions
  | .run speed interactive => s.serve (.run speed interactive)
  | .begin program functions speed interactive =>
    let (engine, outcome) := s.engine.begin program functions speed interactive
    ({ s with engine }, outcome.mapError .engine)
  | .setWorld world => match s.engine.setWorld world with
    | .error error => (s, .error (.engine error))
    | .ok engine => ({ s with engine }, .ok ())

section Refusal

variable {s : Session}

theorem loadLevel_running (running : s.isRunning = true) (wanted : Json) :
    s.loadLevel wanted = (s, .error (.engine .alreadyRunning)) := by
  rw [loadLevel, if_pos running]

theorem nextLevel_running (running : s.isRunning = true) :
    s.nextLevel = match s.catalog.nextId s.level.id with
      | none => (s.logAs "ALL LEVELS COMPLETED! You are THE ONE." .success, .ok none)
      | some _ => (s, .error (.engine .alreadyRunning)) := by
  unfold nextLevel
  cases s.catalog.nextId s.level.id with
  | none => rfl
  | some id =>
    dsimp only
    rw [loadLevel_running running]
    rfl

theorem intrude_running (running : s.isRunning = true) (intrusion : Intrusion) :
    ((s.intrude intrusion).2 = .error (.engine .alreadyRunning) ∨
        intrusion = .nextLevel ∧ s.catalog.nextId s.level.id = none) ∧
      ((s.intrude intrusion).1 = s ∨ ∃ note severity,
        (s.intrude intrusion).1 = { s with engine := s.engine.logAs note severity }) := by
  have active : s.engine.isActive = true := running
  cases intrusion with
  | loadLevel wanted =>
    rw [intrude, serve, loadLevel_running running]
    exact ⟨.inl rfl, .inl rfl⟩
  | nextLevel =>
    rw [intrude, serve, nextLevel_running running]
    cases following : s.catalog.nextId s.level.id with
    | none => exact ⟨.inr ⟨rfl, rfl⟩, .inr ⟨_, _, rfl⟩⟩
    | some id => exact ⟨.inl rfl, .inl rfl⟩
  | setProgram main functions =>
    rw [intrude, serve, setProgram, if_pos running]
    exact ⟨.inl rfl, .inl rfl⟩
  | importProgram source =>
    rw [intrude, serve, importProgram, if_pos running]
    exact ⟨.inl rfl, .inl rfl⟩
  | loadFile files path =>
    rw [intrude, serve, loadFile, if_pos running]
    exact ⟨.inl rfl, .inl rfl⟩
  | clearProgram =>
    rw [intrude, serve, clearProgram, if_pos running]
    exact ⟨.inl rfl, .inl rfl⟩
  | clearFunctions =>
    rw [intrude, serve, clearFunctions, if_pos running]
    exact ⟨.inl rfl, .inl rfl⟩
  | run speed interactive =>
    rw [intrude, serve, run_running running]
    exact ⟨.inl rfl, .inr ⟨_, _, rfl⟩⟩
  | begin program functions speed interactive =>
    rw [intrude, Engine.begin, if_pos active]
    exact ⟨.inl rfl, .inr ⟨_, _, rfl⟩⟩
  | setWorld world =>
    rw [intrude, Engine.setWorld, if_pos active]
    exact ⟨.inl rfl, .inl rfl⟩

end Refusal

/-! ### With and without the refusals -/

inductive Turn
  | happening (happening : Happening)
  | intrusion (intrusion : Intrusion)

def turn (s : Session) : Turn → Session
  | .happening happening => (s.undergo happening).1
  | .intrusion intrusion => (s.intrude intrusion).1

end Session

end GridRobot
