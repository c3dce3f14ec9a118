import GridRobot.Proofs.Run.Effect
import GridRobot.Proofs.Run.Pacing

/-!
A session among the requests of its user, and the delays that pass between them. What a failed request leaves as it was
is `Keeps`; what all that may happen keeps is that the world belongs to the level, as long as the level can have a world.
-/
namespace GridRobot

theorem Engine.advance_board (e : Engine) : e.advance.world.board = e.world.board := by
  fun_cases Engine.advance e with
  | case1 frames phase => rw [proceed_world]
  | case2 suspension frames phase cancelled => rfl
  | case3 suspension frames phase running next after performed =>
    rw [proceed_world, perform_effect performed, Instruction.effect_board]
  | case4 suspension frames phase running last performed =>
    rw [perform_ended_effect performed, Instruction.effect_board]
  | case5 phase | case6 result phase => rfl

theorem Engine.begin_idle {e : Engine} (idle : e.isActive = false) (program : Body) (functions : FunctionTable)
    (speed interactive : Json) : e.begin program functions speed interactive =
      match Relation.atMost.check speed (.int 0) with
      | .error fault => (e, .error (.order fault))
      | .ok true => (e, .error (.speed speed.text))
      | .ok false => (e.armed program functions speed interactive, .ok ()) := by
  rw [Engine.begin, if_neg (Bool.eq_false_iff.mp idle)]
  rfl

theorem Catalog.get_mem (catalog : Catalog) (wanted : Json) : (catalog.get wanted).2 ∈ catalog.levels := by
  unfold get
  split
  · rename_i found
    exact List.mem_of_find?_eq_some found
  · exact List.head_mem catalog.nonempty

namespace Session

inductive Request
  | loadLevel (wanted : Json)
  | nextLevel
  | setProgram (main functions : Body)
  | importProgram (source : Source)
  | loadFile (files : Files) (path : String)
  | exportProgram (files : Files) (path stamp date : String)
  | clearProgram
  | clearFunctions
  | run (speed : Option Json) (interactive : Json)
  | step (speed : Option Json)
  | continueRun
  | cancel
  | reset
  /-- Waits until the run is over or waits itself. -/
  | join
  | setRegister (name value : Json)
  | observe (observer : Observer)

def Answer.settled {α : Type} (answer : Answer α) : Answer Unit := (answer.1, answer.2.map fun _ => ())

def serve (s : Session) : Request → Answer Unit
  | .loadLevel wanted => Answer.settled (s.loadLevel wanted)
  | .nextLevel => Answer.settled s.nextLevel
  | .setProgram main functions => s.setProgram main functions
  | .importProgram source => Answer.settled (s.importProgram source)
  | .loadFile files path => Answer.settled (s.loadFile files path)
  | .exportProgram files path stamp date => ((s.exportProgram files path stamp date).1, .ok ())
  | .clearProgram => s.clearProgram
  | .clearFunctions => s.clearFunctions
  | .run speed interactive => Answer.settled (s.run speed interactive)
  | .step speed => Answer.settled (s.step speed)
  | .continueRun => (s.continueRun.1, .ok ())
  | .cancel => (s.cancel, .ok ())
  | .reset => s.reset
  | .join => (s.join, .ok ())
  | .setRegister name value => s.setRegister name value
  | .observe observer => (s.observe observer, .ok ())

/-- What may happen to a session: its user asks for something, or the delay passes in which its run sits. -/
inductive Happening
  | request (request : Request)
  | elapse

def undergo (s : Session) : Happening → Answer Unit
  | .request request => s.serve request
  | .elapse => (s.obey .elapse, .ok ())

def undergoAll (s : Session) (happenings : List Happening) : Session :=
  happenings.foldl (fun s happening => (s.undergo happening).1) s

def wanted? (s : Session) : Request → Option Level
  | .loadLevel wanted => some (s.catalog.get wanted).2
  | .nextLevel => (s.catalog.nextId s.level.id).map fun id => (s.catalog.get (.int id)).2
  | _ => none

variable {s next last : Session}

/-- Nothing was done but to print and to report. -/
structure Noted (s next : Session) : Prop where
  allocation : next.allocation = s.allocation
  catalog : next.catalog = s.catalog
  level : next.level = s.level
  program : next.program = s.program
  functions : next.functions = s.functions
  world : next.world = s.world
  phase : next.engine.phase = s.engine.phase
  waiting : next.waiting = s.waiting

namespace Noted

theorem refl (s : Session) : s.Noted s := ⟨rfl, rfl, rfl, rfl, rfl, rfl, rfl, rfl⟩

theorem trans (first : s.Noted next) (second : next.Noted last) : s.Noted last where
  allocation := second.allocation.trans first.allocation
  catalog := second.catalog.trans first.catalog
  level := second.level.trans first.level
  program := second.program.trans first.program
  functions := second.functions.trans first.functions
  world := second.world.trans first.world
  phase := second.phase.trans first.phase
  waiting := second.waiting.trans first.waiting

theorem print (lines : List String) (s : Session) : s.Noted (s.print lines) := ⟨rfl, rfl, rfl, rfl, rfl, rfl, rfl, rfl⟩

theorem logAs (text : String) (severity : Severity) (s : Session) : s.Noted (s.logAs text severity) :=
  ⟨rfl, rfl, rfl, rfl, rfl, rfl, rfl, rfl⟩

theorem logGiven (label : String) (value : Json) (s : Session) : s.Noted (s.logGiven label value) := by
  unfold Session.logGiven
  split
  · exact logAs _ _ s
  · exact refl s

theorem warn (warnings : List String) (s : Session) :
    s.Noted (warnings.foldl (fun s warning => s.logAs warning .warning) s) := by
  induction warnings generalizing s with
  | nil => exact refl s
  | cons warning rest ih => exact (logAs warning .warning s).trans (ih _)

theorem introduce (functions : FunctionTable) (s : Session) : s.Noted (s.introduce functions) := by
  induction functions generalizing s with
  | nil => exact refl s
  | cons entry rest ih => exact (logAs _ .info s).trans (ih _)

end Noted

/-- Whatever can be seen of a program, of the world and of a run is as it was. -/
structure Keeps (s next : Session) : Prop where
  program : next.program = s.program
  functions : next.functions = s.functions
  world : next.world = s.world
  state : next.engine.state = s.engine.state
  pending : next.engine.pending? = s.engine.pending?
  waiting : next.pending? = s.pending?
  result : next.engine.result? = s.engine.result?

theorem Noted.keeps (noted : s.Noted next) : s.Keeps next where
  program := noted.program
  functions := noted.functions
  world := noted.world
  state := by
    unfold Engine.state
    rw [noted.phase]
  pending := by
    unfold Engine.pending?
    rw [noted.phase]
  waiting := by
    unfold Session.pending? Engine.pending?
    rw [noted.phase, noted.waiting]
  result := by
    unfold Engine.result?
    rw [noted.phase]

theorem setWorld_idle (idle : s.isRunning = false) (world : World) :
    s.engine.setWorld world = .ok { s.engine with world } := by
  unfold Engine.setWorld
  unfold isRunning at idle
  rw [idle]
  rfl

theorem rebuildWorld_idle (idle : s.isRunning = false) : s.rebuildWorld = match s.level.world s.allocation with
    | .error fault => (s, .error (.world fault))
    | .ok world => ({ s with engine := { s.engine with world } }, .ok ()) := by
  unfold rebuildWorld
  cases s.level.world s.allocation with
  | error fault => rfl
  | ok world => simp only [setWorld_idle idle]

theorem loadLevel_unbuilt (idle : s.isRunning = false) {wanted : Json} {unbuilt : WorldFault}
    (none : (s.catalog.get wanted).2.world s.allocation = .error unbuilt) :
    s.loadLevel wanted =
      ({ s with level := (s.catalog.get wanted).2 }.print (s.catalog.get wanted).1, .error (.world unbuilt)) := by
  let switched : Session := { s with level := (s.catalog.get wanted).2 }.print (s.catalog.get wanted).1
  have rebuilt : switched.rebuildWorld = (switched, .error (.world unbuilt)) := by
    have built : switched.level.world switched.allocation = .error unbuilt := none
    rw [rebuildWorld_idle (s := switched) idle, built]
  unfold loadLevel
  rw [idle]
  simp only [switched] at rebuilt
  simp only [rebuilt]
  rfl

theorem loadLevel_built (idle : s.isRunning = false) {wanted : Json} {world : World}
    (built : (s.catalog.get wanted).2.world s.allocation = .ok world) :
    (s.loadLevel wanted).2 = .ok (s.catalog.get wanted).2 ∧
      { s with level := (s.catalog.get wanted).2, engine := { s.engine with world } }.Noted (s.loadLevel wanted).1 := by
  let switched : Session := { s with level := (s.catalog.get wanted).2 }.print (s.catalog.get wanted).1
  have rebuilt : switched.rebuildWorld = ({ switched with engine := { switched.engine with world } }, .ok ()) := by
    have built : switched.level.world switched.allocation = .ok world := built
    rw [rebuildWorld_idle (s := switched) idle, built]
  unfold loadLevel
  rw [idle]
  simp only [switched] at rebuilt
  simp only [rebuilt]
  refine ⟨rfl, ?_⟩
  apply Noted.trans _ (Noted.logGiven ..)
  apply Noted.trans _ (Noted.logGiven ..)
  apply Noted.trans _ (Noted.logAs ..)
  exact ⟨rfl, rfl, rfl, rfl, rfl, rfl, rfl, rfl⟩

theorem loadLevel_cases (wanted : Json) (s : Session) :
    let level := (s.catalog.get wanted).2
    s.loadLevel wanted = (s, .error (.engine .alreadyRunning)) ∨
      (∃ unbuilt, level.world s.allocation = .error unbuilt ∧ { s with level }.Noted (s.loadLevel wanted).1) ∨
      ∃ world, level.world s.allocation = .ok world ∧ (s.loadLevel wanted).2 = .ok level ∧
        { s with level, engine := { s.engine with world } }.Noted (s.loadLevel wanted).1 := by
  cases running : s.isRunning with
  | true =>
    rw [loadLevel, running]
    exact .inl rfl
  | false =>
    cases built : (s.catalog.get wanted).2.world s.allocation with
    | error unbuilt =>
      rw [loadLevel_unbuilt running built]
      exact .inr (.inl ⟨unbuilt, built, Noted.print _ _⟩)
    | ok world => exact .inr (.inr ⟨world, built, loadLevel_built running built⟩)

theorem importProgram_refused (idle : s.isRunning = false) {source : Source} {error : ImportError}
    (refused : (ProgramFile.read source).outcome = .error error) :
    (s.importProgram source).2 = .error (.program error) ∧ s.Noted (s.importProgram source).1 := by
  have read : ∃ lines, ProgramFile.import? s.verbose source = (lines, .error error) := by
    simp [ProgramFile.import?, refused]
  rcases read with ⟨lines, read⟩
  simp only [importProgram, idle, read]
  exact ⟨rfl, (Noted.print lines s).trans (Noted.logAs ..)⟩

theorem importProgram_ok (idle : s.isRunning = false) {source : Source} {file : ProgramFile}
    (accepted : (ProgramFile.read source).outcome = .ok file) :
    (s.importProgram source).2 = .ok file ∧
      { s with program := file.main, functions := file.functions }.Noted (s.importProgram source).1 := by
  have read : ∃ lines, ProgramFile.import? s.verbose source = (lines, .ok file) := by
    simp [ProgramFile.import?, accepted]
  rcases read with ⟨lines, read⟩
  have told (text : String) := (Noted.print lines { s with program := file.main, functions := file.functions }).trans
    ((Noted.warn file.warnings _).trans (Noted.logAs text .success _))
  simp only [importProgram, idle, read, Bool.false_eq_true, if_false]
  refine ⟨trivial, ?_⟩
  split
  · exact told _
  · exact (told _).trans (Noted.logAs ..)

theorem run_running (running : s.isRunning = true) {speed : Option Json} {interactive : Json} :
    s.run speed interactive =
      ({ s with engine := s.engine.log .alreadyRunning }, .error (.engine .alreadyRunning)) := by
  rw [run, prepare, if_pos running]

def begun (table : FunctionTable) (speed : Option Json) (interactive : Json) (s : Session) : Session :=
  { s.introduce table with engine := s.armed table speed interactive, waiting := false, fault := none }

theorem introduce_isRunning (table : FunctionTable) (s : Session) : (s.introduce table).isRunning = s.isRunning := by
  unfold isRunning Engine.isActive
  rw [(Noted.introduce table s).phase]

theorem prepare_asks {table : FunctionTable} {speed : Option Json} {interactive : Json} (idle : s.isRunning = false)
    (given : (s.program.isEmpty && s.functions.isEmpty) = false)
    (listed : FunctionTable.ofDefinitions s.functions = .ok table) :
    s.prepare speed interactive =
      match (s.introduce table).engine.begin (s.introduce table).program table (speed.getD (.num (.float defaultSpeed)))
        interactive with
      | (engine, .error error) => ({ s.introduce table with engine }, .error (.engine error))
      | (engine, .ok ()) => ({ s.introduce table with engine, waiting := false, fault := none }, .ok true) := by
  simp only [prepare, idle, given, listed]
  rfl

theorem prepare_begins {table : FunctionTable} {speed : Option Json} {interactive : Json} (idle : s.isRunning = false)
    (given : (s.program.isEmpty && s.functions.isEmpty) = false)
    (listed : FunctionTable.ofDefinitions s.functions = .ok table) :
    s.prepare speed interactive =
      match Relation.atMost.check (speed.getD (.num (.float defaultSpeed))) (.int 0) with
      | .error fault => (s.introduce table, .error (.engine (.order fault)))
      | .ok true => (s.introduce table, .error (.engine (.speed (speed.getD (.num (.float defaultSpeed))).text)))
      | .ok false => (s.begun table speed interactive, .ok true) := by
  have still : (s.introduce table).engine.isActive = false := (introduce_isRunning table s).trans idle
  rw [prepare_asks idle given listed, Engine.begin_idle still, introduce_program]
  cases Relation.atMost.check (speed.getD (.num (.float defaultSpeed))) (.int 0) with
  | error fault => rfl
  | ok low =>
    cases low with
    | true => rfl
    | false => rfl

theorem run_begins {table : FunctionTable} {speed : Option Json} {interactive : Json} (idle : s.isRunning = false)
    (given : (s.program.isEmpty && s.functions.isEmpty) = false)
    (listed : FunctionTable.ofDefinitions s.functions = .ok table) :
    s.run speed interactive =
      match Relation.atMost.check (speed.getD (.num (.float defaultSpeed))) (.int 0) with
      | .error fault => (s.introduce table, .error (.engine (.order fault)))
      | .ok true => (s.introduce table, .error (.engine (.speed (speed.getD (.num (.float defaultSpeed))).text)))
      | .ok false => ((s.begun table speed interactive).drive false, .ok true) := by
  rw [run, prepare_begins idle given listed]
  cases Relation.atMost.check (speed.getD (.num (.float defaultSpeed))) (.int 0) with
  | error fault => rfl
  | ok low =>
    cases low with
    | true => rfl
    | false => rfl

inductive PreparesTo (speed : Option Json) (interactive : Json) (s : Session) : Answer Bool → Prop
  | refused (running : s.isRunning = true) :
      PreparesTo speed interactive s ({ s with engine := s.engine.log .alreadyRunning }, .error (.engine .alreadyRunning))
  | nothing : PreparesTo speed interactive s (s.logAs "ERROR: No instructions to execute" .error, .ok false)
  | unusable (fault : KeyFault) : PreparesTo speed interactive s (s, .error (.table fault))
  | declined (table : FunctionTable) (error : EngineError) :
      PreparesTo speed interactive s (s.introduce table, .error (.engine error))
  | begun (idle : s.isRunning = false) (table : FunctionTable) :
      PreparesTo speed interactive s (s.begun table speed interactive, .ok true)

theorem prepare_preparesTo (speed : Option Json) (interactive : Json) (s : Session) :
    s.PreparesTo speed interactive (s.prepare speed interactive) := by
  cases running : s.isRunning with
  | true =>
    rw [prepare, if_pos running]
    exact .refused running
  | false =>
    cases given : s.program.isEmpty && s.functions.isEmpty with
    | true =>
      rw [prepare, running, given]
      exact .nothing
    | false =>
      cases listed : FunctionTable.ofDefinitions s.functions with
      | error fault =>
        simp only [prepare, running, given, listed]
        exact .unusable fault
      | ok table =>
        rw [prepare_begins running given listed]
        cases Relation.atMost.check (speed.getD (.num (.float defaultSpeed))) (.int 0) with
        | error fault => exact .declined table _
        | ok low =>
          cases low with
          | true => exact .declined table _
          | false => exact .begun running table

/-- The session has another world at most on the same board, which is the board of the same level. -/
structure Stays (s next : Session) : Prop where
  allocation : next.allocation = s.allocation
  catalog : next.catalog = s.catalog
  level : next.level = s.level
  board : next.world.board = s.world.board

theorem Stays.trans (first : s.Stays next) (second : next.Stays last) : s.Stays last where
  allocation := second.allocation.trans first.allocation
  catalog := second.catalog.trans first.catalog
  level := second.level.trans first.level
  board := second.board.trans first.board

theorem Noted.stays (noted : s.Noted next) : s.Stays next :=
  ⟨noted.allocation, noted.catalog, noted.level, congrArg _ noted.world⟩

theorem ended_stays (s : Session) : s.Stays s.ended := by
  unfold ended
  split
  · exact ⟨rfl, rfl, rfl, rfl⟩
  · exact ⟨rfl, rfl, rfl, rfl⟩

theorem drive_stays (patient : Bool) (s : Session) : s.Stays (s.drive patient) := by
  -- What an advance comes to has the same board; driving on from there keeps it.
  have onward (s : Session) : s.Stays { s with engine := s.engine.advance } := ⟨rfl, rfl, rfl, s.engine.advance_board⟩
  fun_induction drive patient s with
  | case1 s finished => exact (onward s).trans (ended_stays _)
  | case2 s suspension pending fault stuck => exact (onward s).trans ⟨rfl, rfl, rfl, rfl⟩
  | case3 s suspension pending cancelled waited waits => exact (onward s).trans ⟨rfl, rfl, rfl, rfl⟩
  | case4 s suspension pending cancelled waited waits goes ih => exact (onward s).trans ih

theorem run_cases (speed : Option Json) (interactive : Json) (s : Session) :
    s.Noted (s.run speed interactive).1 ∨
      ∃ begun : Session, s.Stays begun ∧ begun.fault = none ∧ s.run speed interactive = (begun.drive false, .ok true) := by
  have outcome := s.prepare_preparesTo speed interactive
  unfold run
  generalize s.prepare speed interactive = answer at outcome
  cases outcome with
  | refused running => exact .inl ⟨rfl, rfl, rfl, rfl, rfl, rfl, rfl, rfl⟩
  | nothing => exact .inl (.logAs _ _ s)
  | unusable fault => exact .inl (.refl s)
  | declined table error => exact .inl (.introduce table s)
  | begun idle table =>
    have started : s.Stays (s.begun table speed interactive) := (Noted.introduce table s).stays.trans ⟨rfl, rfl, rfl, rfl⟩
    exact .inr ⟨s.begun table speed interactive, started, rfl, rfl⟩

section Failure

variable {fault : SessionError}

/-- A level that cannot be loaded has no world; it is the level from then on. -/
theorem loadLevel_failed {wanted : Json} (failed : (s.loadLevel wanted).2 = .error fault) :
    s.Noted (s.loadLevel wanted).1 ∨
      (∃ unbuilt, (s.catalog.get wanted).2.world s.allocation = .error unbuilt) ∧
        { s with level := (s.catalog.get wanted).2 }.Noted (s.loadLevel wanted).1 := by
  rcases s.loadLevel_cases wanted with refused | ⟨unbuilt, none, noted⟩ | ⟨world, -, succeeded, -⟩
  · rw [refused]
    exact .inl (.refl s)
  · exact .inr ⟨⟨unbuilt, none⟩, noted⟩
  · rw [succeeded] at failed
    cases failed

theorem setProgram_failed {main functions : Body} (failed : (s.setProgram main functions).2 = .error fault) :
    s.Noted (s.setProgram main functions).1 := by
  unfold setProgram at failed ⊢
  split
  · exact .refl s
  · split
    · exact .refl s
    · rename_i free plain
      rw [if_neg free, if_neg plain] at failed
      cases failed

theorem clear_failed {cleared : Session} (failed : (if s.isRunning then (s, .error (.engine .alreadyRunning))
      else (cleared, .ok ()) : Answer Unit).2 = .error fault) :
    s.Noted (if s.isRunning then (s, .error (.engine .alreadyRunning)) else (cleared, .ok ()) : Answer Unit).1 := by
  split
  · exact .refl s
  · rename_i free
    rw [if_neg free] at failed
    cases failed

theorem importProgram_failed {source : Source} (failed : (s.importProgram source).2 = .error fault) :
    s.Noted (s.importProgram source).1 := by
  cases running : s.isRunning with
  | true =>
    rw [importProgram, if_pos running]
    exact .refl s
  | false =>
    cases read : (ProgramFile.read source).outcome with
    | error error => exact (importProgram_refused running read).2
    | ok file =>
      rw [(importProgram_ok running read).1] at failed
      cases failed

theorem loadFile_failed {files : Files} {path : String} (failed : (s.loadFile files path).2 = .error fault) :
    s.Noted (s.loadFile files path).1 := by
  unfold loadFile at failed ⊢
  by_cases running : s.isRunning = true
  · rw [if_pos running]
    exact .refl s
  · rw [if_neg running] at failed ⊢
    cases found : files.readText path with
    | error missing => exact .refl s
    | ok text =>
      rw [found] at failed
      exact importProgram_failed failed

theorem run_failed {speed : Option Json} {interactive : Json} (failed : (s.run speed interactive).2 = .error fault) :
    s.Noted (s.run speed interactive).1 := by
  rcases run_cases speed interactive s with noted | ⟨begun, -, -, driven⟩
  · exact noted
  · rw [driven] at failed
    cases failed

theorem step_failed {speed : Option Json} (failed : (s.step speed).2 = .error fault) : s.Noted (s.step speed).1 := by
  unfold step at failed ⊢
  split
  · rename_i idle
    rw [if_pos idle] at failed
    exact run_failed failed
  · rename_i running
    rw [if_neg running] at failed
    split
    · exact .refl s
    · rename_i waits
      rw [if_neg waits] at failed
      cases failed

theorem setRegister_failed {name value : Json} (failed : (s.setRegister name value).2 = .error fault) :
    s.Noted (s.setRegister name value).1 := by
  unfold setRegister at failed ⊢
  cases written : s.world.registers.write name value with
  | error refused => exact .refl s
  | ok registers =>
    rw [written] at failed
    cases failed

theorem nextLevel_failed (failed : s.nextLevel.2 = .error fault) :
    s.Noted s.nextLevel.1 ∨ ∃ level unbuilt, s.wanted? .nextLevel = some level ∧ level.world s.allocation = .error unbuilt ∧
      { s with level }.Noted s.nextLevel.1 := by
  unfold nextLevel at failed ⊢
  unfold wanted?
  cases following : s.catalog.nextId s.level.id with
  | none =>
    rw [following] at failed
    cases failed
  | some id =>
    rw [following] at failed
    dsimp only at failed ⊢
    cases loaded : (s.loadLevel (.int id)).2 with
    | ok level =>
      rw [loaded] at failed
      cases failed
    | error fault =>
      rcases loadLevel_failed loaded with noted | ⟨⟨unbuilt, none⟩, noted⟩
      · exact .inl noted
      · exact .inr ⟨_, unbuilt, rfl, none, noted⟩

theorem settled_failed {α : Type} {answer : Answer α} (failed : (Answer.settled answer).2 = .error fault) :
    answer.2 = .error fault := by
  rcases answer with ⟨s, fault | value⟩
  · cases failed
    rfl
  · cases failed

theorem serve_failed {request : Request} (other : request ≠ .reset) (failed : (s.serve request).2 = .error fault) :
    s.Noted (s.serve request).1 ∨ ∃ level unbuilt, s.wanted? request = some level ∧ level.world s.allocation = .error unbuilt ∧
      { s with level }.Noted (s.serve request).1 := by
  cases request with
  | loadLevel wanted =>
    rcases loadLevel_failed (settled_failed failed) with noted | ⟨⟨unbuilt, none⟩, noted⟩
    · exact .inl noted
    · exact .inr ⟨_, unbuilt, rfl, none, noted⟩
  | nextLevel => exact nextLevel_failed (settled_failed failed)
  | setProgram main functions => exact .inl (setProgram_failed failed)
  | importProgram source => exact .inl (importProgram_failed (settled_failed failed))
  | loadFile files path => exact .inl (loadFile_failed (settled_failed failed))
  | clearProgram | clearFunctions => exact .inl (clear_failed failed)
  | run speed interactive => exact .inl (run_failed (settled_failed failed))
  | step speed => exact .inl (step_failed (settled_failed failed))
  | reset => exact (other rfl).elim
  | setRegister name value => exact .inl (setRegister_failed failed)
  | exportProgram | continueRun | cancel | join | observe => cases failed

end Failure

theorem start_ok {allocation : Allocation} {catalog : Catalog} {wanted : Json} {draws : Draws}
    {observers : List Observer} {baseDelay : Json} {callLimit : CallLimit} {verbose : Bool} {lines : List String}
    (started : start allocation catalog wanted draws observers baseDelay callLimit verbose = (lines, .ok s)) :
    ∃ world, (catalog.get wanted).2.world allocation = .ok world ∧ s =
      { allocation, catalog, level := (catalog.get wanted).2, verbose,
        engine := { world, draws, observers, baseDelay, callLimit, printed := (catalog.get wanted).1.reverse } } := by
  unfold start at started
  generalize catalog.get wanted = found at started
  rcases found with ⟨told, level⟩
  cases built : level.world allocation with
  | error unbuilt =>
    simp only [built] at started
    cases started
  | ok world =>
    simp only [built] at started
    cases started
    exact ⟨world, rfl, rfl⟩

/-- The world belongs to the level, unless the level can have none; then it belongs to a level that was left. -/
structure IsHoused (s : Session) : Prop where
  known : s.level ∈ s.catalog.levels
  home : ∃ level ∈ s.catalog.levels, ∃ world, level.world s.allocation = .ok world ∧ s.world.board = world.board ∧
    (s.level = level ∨ ∃ unbuilt, s.level.world s.allocation = .error unbuilt)

namespace IsHoused

theorem of_stays (housed : s.IsHoused) (stays : s.Stays next) : next.IsHoused := by
  constructor
  · rw [stays.level, stays.catalog]
    exact housed.known
  · rw [stays.level, stays.catalog, stays.allocation, stays.board]
    exact housed.home

theorem of_built (known : s.level ∈ s.catalog.levels) {world : World} (built : s.level.world s.allocation = .ok world)
    (here : s.world.board = world.board) : s.IsHoused where
  known := known
  home := ⟨s.level, known, world, built, here, .inl rfl⟩

theorem of_unbuilt (housed : s.IsHoused) {level : Level} (known : level ∈ s.catalog.levels) {unbuilt : WorldFault}
    (none : level.world s.allocation = .error unbuilt) : { s with level }.IsHoused where
  known := known
  home := by
    rcases housed.home with ⟨home, member, world, built, here, -⟩
    exact ⟨home, member, world, built, here, .inr ⟨unbuilt, none⟩⟩

theorem print (housed : s.IsHoused) (lines : List String) : (s.print lines).IsHoused :=
  housed.of_stays (Noted.print lines s).stays

theorem logAs (housed : s.IsHoused) (text : String) (severity : Severity) : (s.logAs text severity).IsHoused :=
  housed.of_stays (Noted.logAs text severity s).stays

theorem rebuildWorld (housed : s.IsHoused) : s.rebuildWorld.1.IsHoused := by
  cases running : s.isRunning with
  | false =>
    rw [rebuildWorld_idle running]
    cases built : s.level.world s.allocation with
    | error fault => exact housed
    | ok world => exact of_built housed.known built rfl
  | true =>
    unfold isRunning at running
    unfold Session.rebuildWorld Engine.setWorld
    rw [running]
    cases s.level.world s.allocation with
    | error fault => exact housed
    | ok world => exact housed

theorem loadLevel (housed : s.IsHoused) (wanted : Json) : (s.loadLevel wanted).1.IsHoused := by
  have known := s.catalog.get_mem wanted
  rcases s.loadLevel_cases wanted with refused | ⟨unbuilt, none, noted⟩ | ⟨world, built, -, noted⟩
  · rwa [refused]
  · exact (housed.of_unbuilt known none).of_stays noted.stays
  · have home : { s with level := (s.catalog.get wanted).2, engine := { s.engine with world } }.IsHoused :=
      of_built known built rfl
    exact home.of_stays noted.stays

theorem nextLevel (housed : s.IsHoused) : s.nextLevel.1.IsHoused := by
  unfold Session.nextLevel
  split
  · exact housed.logAs _ _
  · exact housed.loadLevel _

theorem importProgram (housed : s.IsHoused) (source : Source) : (s.importProgram source).1.IsHoused := by
  cases running : s.isRunning with
  | true => rwa [Session.importProgram, if_pos running]
  | false =>
    cases read : (ProgramFile.read source).outcome with
    | error error => exact housed.of_stays (importProgram_refused running read).2.stays
    | ok file =>
      have installed : s.Stays { s with program := file.main, functions := file.functions } := ⟨rfl, rfl, rfl, rfl⟩
      exact housed.of_stays (installed.trans (importProgram_ok running read).2.stays)

theorem run (housed : s.IsHoused) (speed : Option Json) (interactive : Json) : (s.run speed interactive).1.IsHoused := by
  rcases run_cases speed interactive s with noted | ⟨begun, stays, -, driven⟩
  · exact housed.of_stays noted.stays
  · rw [driven]
    exact housed.of_stays (stays.trans (drive_stays _ _))

theorem release (housed : s.IsHoused) : s.release.IsHoused := by
  have freed : s.Stays { s with waiting := false } := ⟨rfl, rfl, rfl, rfl⟩
  exact housed.of_stays (freed.trans (drive_stays _ _))

theorem step (housed : s.IsHoused) (speed : Option Json) : (s.step speed).1.IsHoused := by
  unfold Session.step
  split
  · exact housed.run speed _
  · split
    · exact housed
    · apply release
      exact housed.of_stays ⟨rfl, rfl, rfl, rfl⟩

theorem continueRun (housed : s.IsHoused) : s.continueRun.1.IsHoused := by
  unfold Session.continueRun
  split
  · exact housed
  · apply release
    exact housed.of_stays ⟨rfl, rfl, rfl, rfl⟩

theorem cancel (housed : s.IsHoused) : s.cancel.IsHoused := by
  have told : { s with engine := s.engine.cancel }.IsHoused := housed.of_stays ⟨rfl, rfl, rfl, rfl⟩
  unfold Session.cancel
  dsimp only
  split
  · exact told.release
  · exact told

theorem restore (housed : s.IsHoused) : s.restore.1.IsHoused := by
  have freed : { s with engine := s.engine.setInteractive (.bool false) }.IsHoused := housed.of_stays ⟨rfl, rfl, rfl, rfl⟩
  have rebuilt := freed.rebuildWorld
  unfold Session.restore
  split
  · rename_i answer
    rwa [answer] at rebuilt
  · rename_i answer
    rw [answer] at rebuilt
    exact rebuilt.logAs _ _

theorem reset (housed : s.IsHoused) : s.reset.1.IsHoused := by
  unfold Session.reset
  split
  · dsimp only
    split
    · exact housed.cancel
    · exact housed.cancel.restore
  · exact housed.restore

theorem join (housed : s.IsHoused) : s.join.IsHoused := by
  unfold Session.join
  split
  · exact housed.of_stays (drive_stays _ _)
  · exact housed

theorem serve (housed : s.IsHoused) (request : Request) : (s.serve request).1.IsHoused := by
  cases request with
  | loadLevel wanted => exact housed.loadLevel wanted
  | nextLevel => exact housed.nextLevel
  | importProgram source => exact housed.importProgram source
  | run speed interactive => exact housed.run speed interactive
  | step speed => exact housed.step speed
  | continueRun => exact housed.continueRun
  | cancel => exact housed.cancel
  | reset => exact housed.reset
  | join => exact housed.join
  | observe observer => exact housed.of_stays ⟨rfl, rfl, rfl, rfl⟩
  | exportProgram files path stamp date => exact (housed.print _).logAs _ _
  | loadFile files path =>
    unfold Session.serve Answer.settled Session.loadFile
    dsimp only
    split
    · exact housed
    · split
      · exact housed
      · exact housed.importProgram _
  | setProgram main functions =>
    unfold Session.serve setProgram
    dsimp only
    split
    · exact housed
    · split
      · exact housed
      · exact housed.of_stays ⟨rfl, rfl, rfl, rfl⟩
  | clearProgram | clearFunctions =>
    unfold Session.serve
    dsimp only [clearProgram, clearFunctions]
    split
    · exact housed
    · exact housed.of_stays ⟨rfl, rfl, rfl, rfl⟩
  | setRegister name value =>
    unfold Session.serve setRegister
    dsimp only
    split
    · exact housed
    · exact housed.of_stays ⟨rfl, rfl, rfl, rfl⟩

theorem undergo (housed : s.IsHoused) (happening : Happening) : (s.undergo happening).1.IsHoused := by
  cases happening with
  | request request => exact housed.serve request
  | elapse =>
    unfold Session.undergo obey
    dsimp only
    split
    · exact housed.of_stays (drive_stays _ _)
    · exact housed

theorem undergoAll (housed : s.IsHoused) (happenings : List Happening) : (s.undergoAll happenings).IsHoused := by
  induction happenings generalizing s with
  | nil => exact housed
  | cons happening rest ih => exact ih (housed.undergo happening)

theorem of_start {allocation : Allocation} {catalog : Catalog} {wanted : Json} {draws : Draws}
    {observers : List Observer} {baseDelay : Json} {callLimit : CallLimit} {verbose : Bool} {lines : List String}
    (started : start allocation catalog wanted draws observers baseDelay callLimit verbose = (lines, .ok s)) : s.IsHoused := by
  rcases start_ok started with ⟨world, built, rfl⟩
  exact of_built (catalog.get_mem wanted) built rfl

end IsHoused

/-- However a session is used, a request that fails changes neither program nor world nor run, and not the level but
where it is to switch to a level that can have no world: that level it leaves behind. (A `reset` stops the run before
it can fail.) And as long as the level can have a world, the world is the level's. -/
theorem failed_request_keeps {allocation : Allocation} {catalog : Catalog} {wanted : Json} {draws : Draws}
    {observers : List Observer} {baseDelay : Json} {callLimit : CallLimit} {verbose : Bool} {lines : List String} {first : Session}
    (started : start allocation catalog wanted draws observers baseDelay callLimit verbose = (lines, .ok first))
    (happenings : List Happening) :
    let s := first.undergoAll happenings
    s.IsHoused ∧ ∀ request fault, request ≠ .reset → (s.serve request).2 = .error fault →
      s.Keeps (s.serve request).1 ∧
      ((s.serve request).1.level = s.level ∨
        ∃ level unbuilt, s.wanted? request = some level ∧ level.world s.allocation = .error unbuilt ∧
          (s.serve request).1.level = level) := by
  intro s
  constructor
  · exact (IsHoused.of_start started).undergoAll happenings
  · intro request fault other failed
    rcases serve_failed other failed with noted | ⟨level, unbuilt, wanted, none, noted⟩
    · exact ⟨noted.keeps, .inl noted.level⟩
    · have keeps := noted.keeps
      refine ⟨?_, .inr ⟨level, unbuilt, wanted, none, noted.level⟩⟩
      exact ⟨keeps.program, keeps.functions, keeps.world, keeps.state, keeps.pending, keeps.waiting, keeps.result⟩

/-- A program that defines a function inside a body, after a level was asked for that can have no world. -/
theorem failed_request_keeps_nested :
    let good : Level :=
      { id := 1, name := "A", size := 3, start := ⟨0, 0⟩, direction := .right, goal := ⟨2, 0⟩, obstacles := []
        description := .null, hint := .null }
    let catalog : Catalog := ⟨[good, { good with id := 2, size := 0 }], by simp, false⟩
    let engine : Engine :=
      { world := .ofBoard { size := 3, start := ⟨⟨0, 0⟩, .right, false⟩, goal := ⟨2, 0⟩, obstacles := [] }
        draws := .ofList [], observers := [], baseDelay := .int 0, callLimit := .ofInt 3 }
    let first : Session := { allocation := .within 9, catalog, level := good, engine }
    let happenings : List Happening := [.request (.setProgram [.move] []), .elapse, .request (.loadLevel (.int 2))]
    let nested : Request := .setProgram [.ifThen .empty [.define (.str "f") []]] []
    start (.within 9) catalog (.int 1) (.ofList []) [] (.int 0) (.ofInt 3) false = ([], .ok first) ∧
      ((first.undergoAll happenings).serve nested).2 = .error .nestedDefinition ∧
      (first.undergoAll happenings).Keeps ((first.undergoAll happenings).serve nested).1 := by
  intro good catalog engine first happenings nested
  have started : start (.within 9) catalog (.int 1) (.ofList []) [] (.int 0) (.ofInt 3) false = ([], .ok first) := rfl
  have failed : ((first.undergoAll happenings).serve nested).2 = .error .nestedDefinition := rfl
  exact ⟨started, failed, ((failed_request_keeps started happenings).2 nested _ (by simp [nested]) failed).1⟩

/-- Loading a level that can have no world fails, and yet it is the level from then on, with the world of the one
before. -/
theorem loadLevel_leaves_level :
    let good : Level :=
      { id := 1, name := "A", size := 3, start := ⟨0, 0⟩, direction := .right, goal := ⟨2, 0⟩, obstacles := []
        description := .null, hint := .null }
    let catalog : Catalog := ⟨[good, { good with id := 2, size := 0 }], by simp, false⟩
    let engine : Engine :=
      { world := .ofBoard { size := 3, start := ⟨⟨0, 0⟩, .right, false⟩, goal := ⟨2, 0⟩, obstacles := [] }
        draws := .ofList [], observers := [], baseDelay := .int 0, callLimit := .ofInt 3 }
    let first : Session := { allocation := .within 9, catalog, level := good, engine }
    start (.within 9) catalog (.int 1) (.ofList []) [] (.int 0) (.ofInt 3) false = ([], .ok first) ∧
      (first.serve (.loadLevel (.int 2))).2 = .error (.world (.size "0")) ∧
      (first.serve (.loadLevel (.int 2))).1.level.id = 2 ∧ first.level.id = 1 ∧
      (first.serve (.loadLevel (.int 2))).1.world = first.world := by
  intro good catalog engine first
  exact ⟨rfl, rfl, rfl, rfl, rfl⟩

end Session

end GridRobot
