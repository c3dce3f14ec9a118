import GridRobot.Proofs.Session.Stepping

/-!
Runs leave nothing behind. What a run does depends on the engine that it begins on only through what a new engine is
given as well (`Engine.unused` forgets the rest): its world, its random numbers, its observers and its settings. So a
session that was reset goes on like a new one that is given the random numbers which are left.
-/
namespace GridRobot

/-! ### What a level lays out -/

namespace Level

variable {allocation : Allocation}

theorem world_registers {level : Level} {world : World} (built : level.world allocation = .ok world) :
    world.registers = Registers.zero := by
  unfold Level.world World.create World.layOut at built
  split at built
  · cases room : allocation level.size.toNat with
    | error fault =>
      rw [room] at built
      cases built
    | ok done =>
      rw [room, Direction.ofDegrees?_degrees] at built
      cases built
      rfl
  · cases built

theorem unbuilt_of_positive {level : Level} {unbuilt : WorldFault} (none : level.world allocation = .error unbuilt)
    (positive : 0 < level.size) : ∃ fault, unbuilt = .capacity fault := by
  unfold Level.world World.create World.layOut at none
  rw [if_pos positive] at none
  cases room : allocation level.size.toNat with
  | error fault =>
    rw [room] at none
    cases none
    exact ⟨fault, rfl⟩
  | ok done =>
    rw [room, Direction.ofDegrees?_degrees] at none
    cases none

end Level

/-! ### What the next run depends on -/

namespace Engine

def unused (e : Engine) : Engine :=
  { e with speed := .num (.float defaultSpeed), cancelled := false, functions := [], executed := 0, phase := .idle }

theorem observers_abort (e : Engine) : e.abort.observers = e.observers := by
  have logged := observers_logAs .aborted (Note.aborted).severity e
  rw [← logged]
  simp [abort, finish, emit, log, Observer.react, Event.isStep, Function.comp_def]

end Engine

namespace Session

variable {x y : Session}

def unused (s : Session) : Session := { s with engine := s.engine.unused, fault := none }

/-- Two sessions without a run, of which the second has never had one, that the next run cannot tell apart. -/
structure Akin (x y : Session) : Prop where
  idle : x.isRunning = false
  new : y.engine.phase = .idle
  free : x.waiting = false
  same : x.unused = y.unused

namespace Akin

variable (akin : x.Akin y)

include akin

theorem idle_new : y.isRunning = false := by
  rw [isRunning, Engine.isActive, akin.new]

theorem free_new : y.waiting = false := by
  have waiting : x.waiting = y.waiting := (congrArg Session.waiting akin.same :)
  rw [← waiting]
  exact akin.free

theorem logAs (text : String) (severity : Severity) : (x.logAs text severity).Akin (y.logAs text severity) where
  idle := akin.idle
  new := akin.new
  free := akin.free
  same := (congrArg (fun s => (s.logAs text severity).unused) akin.same :)

theorem introduce (functions : FunctionTable) : (x.introduce functions).Akin (y.introduce functions) := by
  induction functions generalizing x y with
  | nil => exact akin
  | cons entry rest ih => exact ih (akin.logAs _ .info)

theorem begun (table : FunctionTable) (speed : Option Json) (interactive : Json) :
    x.begun table speed interactive = y.begun table speed interactive := by
  have program : x.program = y.program := (congrArg Session.program akin.same :)
  unfold Session.begun Session.armed
  rw [program]
  exact (congrArg (fun s : Session => { s with
    engine := s.engine.armed y.program table (speed.getD (.num (.float defaultSpeed))) interactive
    waiting := false, fault := none }) (akin.introduce table).same :)

theorem run (speed : Option Json) (interactive : Json) : (x.run speed interactive).2 = (y.run speed interactive).2 ∧
    ((x.run speed interactive).1 = (y.run speed interactive).1 ∨
      (x.run speed interactive).1.Akin (y.run speed interactive).1) := by
  have program : x.program = y.program := (congrArg Session.program akin.same :)
  have functions : x.functions = y.functions := (congrArg Session.functions akin.same :)
  cases given : y.program.isEmpty && y.functions.isEmpty with
  | true =>
    rw [Session.run, Session.run, prepare, prepare, akin.idle, akin.idle_new, program, functions, given]
    exact ⟨rfl, .inr (akin.logAs _ _)⟩
  | false =>
    cases listed : FunctionTable.ofDefinitions y.functions with
    | error unusable =>
      simp only [Session.run, prepare, akin.idle, akin.idle_new, program, functions, given, listed]
      exact ⟨rfl, .inr akin⟩
    | ok table =>
      have introduced := akin.introduce table
      rw [run_begins akin.idle (by rw [program, functions, given]) (by rw [functions, listed]),
        run_begins akin.idle_new given listed, akin.begun]
      cases Relation.atMost.check (speed.getD (.num (.float defaultSpeed))) (.int 0) with
      | error fault => exact ⟨rfl, .inr introduced⟩
      | ok low =>
        cases low with
        | true => exact ⟨rfl, .inr introduced⟩
        | false => exact ⟨rfl, .inl rfl⟩

end Akin

def Happening.IsControl : Happening → Prop
  | .request (.run ..) | .request (.step _) | .request .continueRun | .request .cancel | .request .join | .elapse => True
  | _ => False

def reply (s : Session) : Happening → Except SessionError (Option Bool)
  | .request (.run speed interactive) => (s.run speed interactive).2.map some
  | .request (.step speed) => (s.step speed).2.map some
  | .request .continueRun => .ok (some s.continueRun.2)
  | happening => (s.undergo happening).2.map fun _ => none

theorem reply_onto (before : History) (s : Session) {control : Happening} (allowed : control.IsControl) :
    (s.onto before).reply control = s.reply control := by
  cases control with
  | elapse => rfl
  | request request =>
    cases request with
    | run speed interactive => exact congrArg (fun answer => answer.2.map some) (onto_run speed interactive s)
    | step speed => exact congrArg (fun answer => answer.2.map some) (onto_step speed s)
    | continueRun => rw [reply, reply, onto_continueRun]
    | cancel | join => rfl
    | _ => exact allowed.elim

theorem join_idle (idle : x.isRunning = false) : x.join = x := by
  rw [join, idle]
  rfl

theorem elapse_idle (idle : x.isRunning = false) : x.obey .elapse = x := by
  rw [obey, idle]
  rfl

theorem Akin.undergo (akin : x.Akin y) {control : Happening} (allowed : control.IsControl) :
    x.reply control = y.reply control ∧
      ((x.undergo control).1 = (y.undergo control).1 ∨ (x.undergo control).1.Akin (y.undergo control).1) := by
  -- Both runs are over, so all that a control can do is begin another.
  cases control with
  | elapse =>
    rw [Session.undergo, Session.undergo, elapse_idle akin.idle, elapse_idle akin.idle_new]
    exact ⟨rfl, .inr akin⟩
  | request request =>
    cases request with
    | run speed interactive =>
      rcases akin.run speed interactive with ⟨told, ran⟩
      exact ⟨congrArg (Except.map some) told, ran⟩
    | step speed =>
      rcases akin.run speed (.bool true) with ⟨told, ran⟩
      rw [reply, reply, Session.undergo, Session.undergo, serve, serve, step_idle akin.idle, step_idle akin.idle_new]
      exact ⟨congrArg (Except.map some) told, ran⟩
    | continueRun =>
      rw [reply, reply, Session.undergo, Session.undergo, serve, serve, continueRun_moving akin.free,
        continueRun_moving akin.free_new]
      exact ⟨rfl, .inr akin⟩
    | cancel =>
      rw [Session.undergo, Session.undergo, serve, serve, cancel_idle akin.idle, cancel_idle akin.idle_new]
      exact ⟨rfl, .inr ⟨akin.idle, akin.new, akin.free, akin.same⟩⟩
    | join =>
      rw [Session.undergo, Session.undergo, serve, serve, join_idle akin.idle, join_idle akin.idle_new]
      exact ⟨rfl, .inr akin⟩
    | _ => exact allowed.elim

theorem undergoAll_akin (related : x = y ∨ x.Akin y) {controls : List Happening}
    (allowed : ∀ control ∈ controls, control.IsControl) :
    x.undergoAll controls = y.undergoAll controls ∨ (x.undergoAll controls).Akin (y.undergoAll controls) := by
  induction controls generalizing x y with
  | nil => exact related
  | cons control rest ih =>
    apply ih
    · rcases related with rfl | akin
      · exact .inl rfl
      · exact (akin.undergo (allowed control (List.mem_cons_self ..))).2
    · intro other member
      exact allowed other (List.mem_cons_of_mem _ member)

theorem onto_undergoAll (before : History) (happenings : List Happening) (s : Session) :
    (s.onto before).undergoAll happenings = (s.undergoAll happenings).onto before := by
  induction happenings generalizing s with
  | nil => rfl
  | cons happening rest ih =>
    have first : (s.onto before).undergoAll (happening :: rest) =
        ((s.onto before).undergo happening).1.undergoAll rest := rfl
    rw [first, onto_undergo]
    exact ih (s.undergo happening).1

/-- The first session, which has a past, goes on as the second does, which had never run anything before: it answers
the same, reports the same, and is at the same point of the same run. -/
structure GoesOnLike (past pastNew : History) (s new : Session) : Prop where
  replies : ∀ control, control.IsControl → s.reply control = new.reply control
  reported : ∃ reported : History, s.engine.history = reported.after past ∧ new.engine.history = reported.after pastNew
  running : s.isRunning = new.isRunning
  world : s.world = new.world
  pending : s.pending? = new.pending?
  suspension : s.engine.pending? = new.engine.pending?
  /-- From the first run on they differ in nothing but what was reported before. -/
  begun : new.engine.state ≠ .idle →
    s.afresh = new.afresh ∧ s.engine.state = new.engine.state ∧ s.engine.result? = new.engine.result? ∧ s.wait = new.wait

theorem goesOnLike_of_akin {s new : Session} (akin : s.afresh.Akin new.afresh) {controls : List Happening}
    (allowed : ∀ control ∈ controls, control.IsControl) :
    (s.undergoAll controls).GoesOnLike s.engine.history new.engine.history (new.undergoAll controls) := by
  -- What was reported before is taken off both sessions, and is put back in the end.
  have above (t : Session) : t.undergoAll controls = (t.afresh.undergoAll controls).onto t.engine.history := by
    have same := onto_undergoAll t.engine.history controls t.afresh
    rwa [afresh_onto] at same
  rw [above s, above new]
  -- The two became the same with their first run, or none has been begun yet.
  rcases undergoAll_akin (.inr akin) allowed with same | still
  · rw [same]
    constructor
    · intro control allowed
      rw [reply_onto _ _ allowed, reply_onto _ _ allowed]
    · exact ⟨(new.afresh.undergoAll controls).engine.history, rfl, rfl⟩
    · rfl
    · rfl
    · rfl
    · rfl
    · intro begun
      exact ⟨rfl, rfl, rfl, rfl⟩
  · generalize s.afresh.undergoAll controls = x at still
    generalize new.afresh.undergoAll controls = y at still
    have reported : x.engine.history = y.engine.history := (congrArg (fun t => t.engine.history) still.same :)
    have idle : x.engine.isActive = false := still.idle
    have idle_new : y.engine.isActive = false := still.idle_new
    constructor
    · intro control allowed
      rw [reply_onto _ _ allowed, reply_onto _ _ allowed]
      exact (still.undergo allowed).1
    · exact ⟨y.engine.history, congrArg (History.after · _) reported, rfl⟩
    · exact still.idle.trans still.idle_new.symm
    · exact (congrArg Session.world still.same :)
    · have free : (x.onto s.engine.history).waiting = false := still.free
      have free_new : (y.onto new.engine.history).waiting = false := still.free_new
      rw [pending?_of_moving free, pending?_of_moving free_new]
    · exact (Engine.pending?_of_over idle).trans (Engine.pending?_of_over idle_new).symm
    · intro begun
      have state : (y.onto new.engine.history).engine.state = .idle := by
        unfold Engine.state
        rw [show (y.onto new.engine.history).engine.phase = .idle from still.new]
      exact (begun state).elim

/-! ### Reset and new -/

variable {s t : Session}

/-- The run of a session is over, and nothing else was done to it. -/
structure LaidDown (s t : Session) : Prop where
  idle : t.isRunning = false
  free : t.waiting = false
  settings : t.settings = s.settings
  level : t.level = s.level
  program : t.program = s.program
  functions : t.functions = s.functions
  draws : t.engine.draws = s.engine.draws
  observers : t.engine.observers = s.engine.observers

/-- Unless it is stranded, a run is laid down before the level is put back to its start. -/
theorem AtRest.reset_laidDown (rests : s.AtRest) (moving : s.isStranded = false) :
    ∃ t, s.LaidDown t ∧ s.reset = t.restore := by
  cases running : s.isRunning with
  | false => exact ⟨s, ⟨running, rests.free running, rfl, rfl, rfl, rfl, rfl, rfl⟩, reset_idle running⟩
  | true =>
    rcases rests.stands running with ⟨stop, stands⟩
    refine ⟨{ s with engine := s.engine.cancel.abort, waiting := false, fault := none },
      ⟨rfl, rfl, rfl, rfl, rfl, rfl, rfl, ?_⟩, reset_running stands moving⟩
    exact Engine.observers_abort s.engine.cancel

theorem restore_keeps (idle : t.isRunning = false) : t.restore.1.isRunning = false ∧
    t.restore.1.program = t.program ∧ t.restore.1.functions = t.functions ∧ t.restore.1.level = t.level := by
  rw [restore_idle idle]
  split
  · exact ⟨idle, rfl, rfl, rfl⟩
  · exact ⟨idle, rfl, rfl, rfl⟩

theorem AtRest.reset_keeps (rests : s.AtRest) :
    s.reset.1.program = s.program ∧ s.reset.1.functions = s.functions ∧ s.reset.1.level = s.level := by
  cases stranded : s.isStranded with
  | true =>
    rw [reset_stranded stranded (rests.fault_of_stranded stranded)]
    exact ⟨rfl, rfl, rfl⟩
  | false =>
    rcases rests.reset_laidDown stranded with ⟨t, laid, same⟩
    rcases restore_keeps laid.idle with ⟨-, program, functions, level⟩
    rw [same, program, functions, level]
    exact ⟨laid.program, laid.functions, laid.level⟩

/-- A new session with the settings of another, on its level, given the random numbers and the observers that it has. -/
def anew (world : World) (s : Session) : Session :=
  { allocation := s.allocation, catalog := s.catalog, level := s.level, verbose := s.verbose
    engine :=
      { world, draws := s.engine.draws, observers := s.engine.observers, baseDelay := s.engine.baseDelay
        callLimit := s.engine.callLimit } }

theorem start_anew (listed : s.IsListed) {world : World} (built : s.level.world s.allocation = .ok world) :
    start s.allocation s.catalog (.int s.level.id) s.engine.draws s.engine.observers s.engine.baseDelay
      s.engine.callLimit s.verbose = ([], .ok (s.anew world)) := by
  rw [start, listed]
  dsimp only
  rw [built]
  rfl

theorem LaidDown.anew (laid : s.LaidDown t) (world : World) : t.anew world = s.anew world := by
  have allocation : t.allocation = s.allocation := congrArg Settings.allocation laid.settings
  have catalog : t.catalog = s.catalog := congrArg Settings.catalog laid.settings
  have verbose : t.verbose = s.verbose := congrArg Settings.verbose laid.settings
  have baseDelay : t.engine.baseDelay = s.engine.baseDelay := congrArg Settings.baseDelay laid.settings
  have callLimit : t.engine.callLimit = s.engine.callLimit := congrArg Settings.callLimit laid.settings
  unfold Session.anew
  rw [allocation, catalog, verbose, baseDelay, callLimit, laid.level, laid.draws, laid.observers]

theorem restored_akin (idle : t.isRunning = false) (free : t.waiting = false) (world : World) (text : String)
    (severity : Severity) :
    (({ t with engine := { t.engine.setInteractive (.bool false) with world } } : Session).logAs text severity).afresh.Akin
      ({ t.anew world with program := t.program, functions := t.functions } : Session).afresh := by
  have noted : (({ t with engine := { t.engine.setInteractive (.bool false) with world } } : Session).logAs text
      severity).afresh = ({ t with engine := { t.engine.setInteractive (.bool false) with world } } : Session).afresh :=
    congrArg (fun engine => { t with engine }) (Engine.logAs_afresh (.message (.str text)) severity _)
  rw [noted]
  constructor
  · exact idle
  · rfl
  · exact free
  · unfold unused afresh Session.anew
    rw [free]
    rfl

/-- However a session was used, after a reset its run is over, its world is the one of its level, and it goes on like a
new session on that level with the same program and functions, given the random numbers that are left. There are two
exceptions: a run that is stranded in a delay too long to be waited out is not reset, and neither is a level that can
have no world, which for one of some size means that there is no room for it. -/
theorem reset_renews {allocation : Allocation} {catalog : Catalog} {wanted : Json} {draws : Draws}
    {observers : List Observer} {baseDelay : Json} {callLimit : CallLimit} {verbose : Bool} {lines : List String} {first : Session}
    (started : start allocation catalog wanted draws observers baseDelay callLimit verbose = (lines, .ok first))
    (happenings : List Happening) :
    let s := first.undergoAll happenings
    let after := s.reset.1
    (after.program = s.program ∧ after.functions = s.functions ∧ after.level = s.level) ∧
    (s.isStranded = true → s.reset.2 = .error (.run (.pause .tooLong)) ∧ after.isRunning = true ∧
      ∃ stop, s.engine.pending? = some stop ∧ Pause.isTooLong (.float stop.delay) = true) ∧
    (s.isStranded = false → after.isRunning = false ∧
      (∀ unbuilt, s.level.world allocation = .error unbuilt → s.reset.2 = .error (.world unbuilt) ∧
        (0 < s.level.size → ∃ fault, unbuilt = .capacity fault)) ∧
      ∀ world, s.level.world allocation = .ok world →
        s.reset.2 = .ok () ∧ after.world = world ∧ world.registers = Registers.zero ∧
        ∃ new,
          start allocation catalog (.int s.level.id) s.engine.draws s.engine.observers baseDelay callLimit verbose =
            ([], .ok new) ∧
          ∀ controls, (∀ control ∈ controls, control.IsControl) →
            (after.undergoAll controls).GoesOnLike after.engine.history new.engine.history
              (({ new with program := s.program, functions := s.functions } : Session).undergoAll controls)) := by
  intro s after
  have rests : s.AtRest := (AtRest.of_start started).undergoAll happenings
  have becomes : first.Becomes s := Becomes.start.undergoAll happenings
  rcases IsListed.of_start started with ⟨listed, settings⟩
  refine ⟨rests.reset_keeps, ?_, ?_⟩
  · intro stranded
    -- Nobody hears the cancel of a stranded run, and the wait raises what has stranded it.
    have reset := reset_stranded stranded (rests.fault_of_stranded stranded)
    have running := isRunning_of_stranded stranded
    exact ⟨congrArg Prod.snd reset, (congrArg (fun answer => answer.1.isRunning) reset).trans running,
      rests.isStranded_iff_tooLong.mp stranded⟩
  · intro moving
    -- The run is laid down first; from there on it is the reset of a session where nothing runs.
    rcases rests.reset_laidDown moving with ⟨t, laid, same⟩
    have restored := same.trans (restore_idle laid.idle)
    have given := becomes.settings.trans settings
    have granted : s.allocation = allocation := congrArg Settings.allocation given
    have level : t.level.world t.allocation = s.level.world allocation := by
      rw [laid.level, show t.allocation = s.allocation from congrArg Settings.allocation laid.settings, granted]
    refine ⟨?_, ?_, ?_⟩
    · exact (congrArg (fun answer => answer.1.isRunning) same).trans (restore_keeps laid.idle).1
    · intro unbuilt none
      rw [level.trans none] at restored
      exact ⟨congrArg Prod.snd restored, Level.unbuilt_of_positive none⟩
    · intro world built
      rw [level.trans built] at restored
      have left : after = ({ t with engine := { t.engine.setInteractive (.bool false) with world } } : Session).logAs
          "Level reset" .info := congrArg Prod.fst restored
      -- The level is found again by its number, so a new session can start on it.
      have new := start_anew (listed.becomes becomes) (granted ▸ built)
      rw [granted, show s.catalog = catalog from congrArg Settings.catalog given,
        show s.verbose = verbose from congrArg Settings.verbose given,
        show s.engine.baseDelay = baseDelay from congrArg Settings.baseDelay given,
        show s.engine.callLimit = callLimit from congrArg Settings.callLimit given] at new
      refine ⟨congrArg Prod.snd restored, ?_, Level.world_registers built, _, new, ?_⟩
      · rw [left]
        rfl
      · intro controls allowed
        have akin := restored_akin laid.idle laid.free world "Level reset" .info
        rw [← left, laid.anew, laid.program, laid.functions] at akin
        exact goesOnLike_of_akin akin allowed

/-- A loop with a toss in it that is stepped into a function and cancelled there, and a register that is written: after
the reset, a run that is stepped and then goes on is the run of a new session. -/
theorem reset_renews_cancelled :
    let level : Level :=
      { id := 1, name := "A", size := 3, start := ⟨0, 0⟩, direction := .right, goal := ⟨2, 0⟩, obstacles := []
        description := .null, hint := .null }
    let catalog : Catalog := ⟨[level], by simp, false⟩
    let world : World := .ofBoard { size := 3, start := ⟨⟨0, 0⟩, .right, false⟩, goal := ⟨2, 0⟩, obstacles := [] }
    let engine : Engine :=
      { world, draws := .ofSeed 7, observers := [.console "Run" true], baseDelay := .int 0, callLimit := .ofInt 3 }
    let first : Session := { allocation := .within 9, catalog, level, engine }
    let body : Body := [.increment .r2, .ifThen (.sensor .coin) [.turnRight], .move]
    let happenings : List Happening :=
      [.request (.setProgram [.repeatTimes (.int 2) [.call (.str "f")]] [.define (.str "f") body]),
        .request (.step none), .request (.step none), .request (.step none), .request (.step none), .request .cancel,
        .request (.setRegister (.str "R1") (.int 5))]
    let controls : List Happening :=
      [.request (.step none), .request (.step (some (.int 2))), .request .continueRun, .request .join]
    let s := first.undergoAll happenings
    let after := s.reset.1
    start (.within 9) catalog (.int 1) (.ofSeed 7) [.console "Run" true] (.int 0) (.ofInt 3) false = ([], .ok first) ∧
      s.isStranded = false ∧ s.engine.result?.map RunResult.ending = some .aborted ∧ level.world (.within 9) = .ok world ∧
      s.reset.2 = .ok () ∧ after.world = world ∧
      (∃ new, start (.within 9) catalog (.int 1) s.engine.draws s.engine.observers (.int 0) (.ofInt 3) false = ([], .ok new) ∧
        (after.undergoAll controls).GoesOnLike after.engine.history new.engine.history
          (({ new with program := s.program, functions := s.functions } : Session).undergoAll controls)) ∧
      (after.undergoAll controls).engine.state = .completed := by
  intro level catalog world engine first body happenings controls
  have started : start (.within 9) catalog (.int 1) (.ofSeed 7) [.console "Run" true] (.int 0) (.ofInt 3) false = ([], .ok first) := rfl
  have built : level.world (.within 9) = .ok world := rfl
  have allowed : ∀ control ∈ controls, control.IsControl := by
    intro control member
    simp only [controls, List.mem_cons, List.not_mem_nil, or_false] at member
    rcases member with rfl | rfl | rfl | rfl <;> trivial
  have renews := reset_renews started happenings
  have becomes : first.Becomes (first.undergoAll happenings) := Becomes.start.undergoAll happenings
  have moving : (first.undergoAll happenings).isStranded = false := by decide +kernel
  have aborted : (first.undergoAll happenings).engine.result?.map RunResult.ending = some .aborted := by decide +kernel
  have completed : ((first.undergoAll happenings).reset.1.undergoAll controls).engine.state = .completed := by
    decide +kernel
  generalize first.undergoAll happenings = s at renews becomes moving aborted completed ⊢
  intro _ after
  have kept : s.level = level := by
    have member := ((IsListed.of_start started).1.becomes becomes).mem
    rw [becomes.catalog] at member
    exact List.mem_singleton.mp member
  rcases (renews.2.2 moving).2.2 world (kept ▸ built) with ⟨succeeds, there, -, new, fresh, like⟩
  rw [kept] at fresh
  exact ⟨started, moving, aborted, built, succeeds, there, ⟨new, fresh, like controls allowed⟩, completed⟩

/-- A run that is stranded in nineteen thousand years of delay is not reset. -/
theorem reset_leaves_stranded :
    let level : Level :=
      { id := 1, name := "A", size := 3, start := ⟨0, 0⟩, direction := .right, goal := ⟨2, 0⟩, obstacles := []
        description := .null, hint := .null }
    let catalog : Catalog := ⟨[level], by simp, false⟩
    let engine : Engine :=
      { world := .ofBoard { size := 3, start := ⟨⟨0, 0⟩, .right, false⟩, goal := ⟨2, 0⟩, obstacles := [] }
        draws := .ofList [], observers := [], baseDelay := .int 60, callLimit := .ofInt 3 }
    let first : Session := { allocation := .within 9, catalog, level, engine }
    let slow : Json := .num (.float ⟨0x3ddb7cdfd9d7bdbb⟩)
    let s := first.undergoAll [.request (.setProgram [.turnLeft] []), .request (.run (some slow) (.bool false))]
    start (.within 9) catalog (.int 1) (.ofList []) [] (.int 60) (.ofInt 3) false = ([], .ok first) ∧
      (∀ other ∈ catalog.levels, 0 < other.size) ∧ s.reset.2.isOk = false ∧ s.reset.1.isRunning = true := by
  intro level catalog engine first slow s
  have started : start (.within 9) catalog (.int 1) (.ofList []) [] (.int 60) (.ofInt 3) false = ([], .ok first) := rfl
  refine ⟨started, ?_, ?_⟩
  · intro other member
    rcases List.mem_singleton.mp member with rfl
    decide
  · decide +kernel

end Session

end GridRobot
