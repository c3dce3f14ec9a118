import GridRobot.Console.Command
import GridRobot.Proofs.Level.Loading
import GridRobot.Proofs.Session.Arrival

/-!
The two modes of the command line. A program that is run straight through and one that is stepped through, with whatever
commands in between and however often it is started again, come to the same status and the same final report, unless the
user leaves before the run has ended.
-/
namespace GridRobot

def RunResult.lines (result : RunResult) : List String :=
  [result.world.picture, "Registers: " ++ result.world.registers.text "  ", "[CLI] " ++ result.summary]

def RunResult.code (result : RunResult) : Nat := if result.ending = .success then 0 else 1

namespace Console

/-- Whether a user who was prompted so often has left: the entries are at their end, or the last of them quits. -/
def isLeft (entries : List Entry) : Nat → Bool
  | 0 => false
  | before + 1 => match entries[before]?.map StepCommand.ofEntry with
    | none | some .quit => true
    | _ => false

open Session

variable {s : Session} {routine : Routine}

theorem printed_print (lines : List String) (s : Session) :
    (s.print lines).engine.printed.reverse = s.engine.printed.reverse ++ lines := by
  rw [Session.print, Engine.print, List.reverse_append, List.reverse_reverse]

/-! ### The end of a run -/

theorem conclude_arrived (arrived : s.HasArrived routine) :
    conclude s = (s.print routine.result.lines, .ok routine.result.code) := by
  rw [conclude, Session.wait, arrived.sound, printResult, arrived.result]
  dsimp only
  rw [worldLines, arrived.world]
  rfl

theorem conclude_left (left : s.HasLeft) : (conclude s).2 = .ok 1 := by
  obtain ⟨result, ended, aborted⟩ := left.aborted
  have failed : result.ending ≠ .success := by
    rw [aborted]
    exact Ending.noConfusion
  rw [conclude, Session.wait, left.sound, printResult, ended]
  dsimp only
  rw [if_neg failed]

theorem runStraight_arrives (set : s.IsSetFor routine) (idle : s.isRunning = false) (world : s.world = routine.world) :
    ∃ last, runStraight routine.speed s = (last, .ok routine.result.code) ∧
      routine.result.lines <:+ last.engine.printed.reverse := by
  obtain ⟨next, begun, on, alone⟩ := set.run idle world (.bool false)
  have arrived : next.join.HasArrived routine := by
    apply on.join_alone
    rw [Engine.isInteractive, alone]
    rfl
  refine ⟨next.join.print routine.result.lines, ?_, ?_⟩
  · rw [runStraight, begun]
    exact conclude_arrived arrived
  · rw [printed_print]
    exact List.suffix_append ..

/-! ### Stepping -/

theorem restart_onCourse (on : s.OnCourse routine) (waiting : s.waiting = true) :
    ∃ next, restart routine.speed s = (next, .ok ()) ∧ next.OnCourse routine := by
  obtain ⟨fresh, renewed, set, idle, world⟩ := on.reset waiting
  obtain ⟨next, begun, along, -⟩ := (set.print (worldLines fresh)).run idle world (.bool true)
  refine ⟨next, ?_, along⟩
  have stepped : (fresh.print (worldLines fresh)).step (some routine.speed) = (next, .ok true) :=
    (step_idle (s := fresh.print (worldLines fresh)) idle _).trans begun
  rw [restart, renewed]
  dsimp only
  rw [stepped]
  rfl

theorem perform_cases (settled : s.IsSettled routine) (waiting : s.waiting = true) {command : StepCommand} {next : Session}
    {answer : Except SessionError Bool} (performed : command.perform routine.speed s = (next, answer)) :
    (answer = .ok false ∧ command = .quit ∧ next.HasLeft) ∨
      answer = .ok true ∧ command ≠ .quit ∧ next.IsSettled routine := by
  have on := settled.toOnCourse
  cases command with
  | quit =>
    cases performed
    exact .inl ⟨rfl, rfl, on.cancel waiting⟩
  | step =>
    obtain ⟨after, stepped, along⟩ := on.step waiting none
    rw [StepCommand.perform, stepped] at performed
    cases performed
    exact .inr ⟨rfl, StepCommand.noConfusion, along.join⟩
  | «continue» =>
    cases performed
    exact .inr ⟨rfl, StepCommand.noConfusion, (on.continueRun waiting).join⟩
  | reset =>
    obtain ⟨after, renewed, along⟩ := restart_onCourse on waiting
    rw [StepCommand.perform, renewed] at performed
    cases performed
    exact .inr ⟨rfl, StepCommand.noConfusion, along.join⟩
  | world | help | unknown =>
    cases performed
    exact .inr ⟨rfl, StepCommand.noConfusion, settled.print _⟩

theorem isLeft_quit {entry : Entry} (rest : List Entry) (quits : StepCommand.ofEntry entry = .quit) :
    isLeft (entry :: rest) 1 = true := by
  simp [isLeft, quits]

theorem isLeft_cons {entry : Entry} (rest : List Entry) (stays : StepCommand.ofEntry entry ≠ .quit) (asked : Nat) :
    isLeft (entry :: rest) (asked + 1) = isLeft rest asked := by
  cases asked with
  | zero =>
    cases command : StepCommand.ofEntry entry with
    | quit => exact absurd command stays
    | _ => simp [isLeft, command]
  | succ asked => rfl

theorem stepLoop_comes_to (settled : s.IsSettled routine) (prompts : Prompts) (entries : List Entry) :
    ∃ asked last, (stepLoop routine.speed prompts s entries).1.count = prompts.count + asked ∧
      (stepLoop routine.speed prompts s entries).2 = (last, .ok ()) ∧
      if isLeft entries asked then last.HasLeft else last.HasArrived routine := by
  -- Along the recursion of `stepLoop`; wherever it prompts, the session waits for a step and is settled.
  fun_induction stepLoop routine.speed prompts s entries with
  | case1 entries prompts s none => exact ⟨0, s, rfl, rfl, settled.arrives none⟩
  | case2 prompts s suspension pending shown =>
    exact ⟨1, shown.cancel, rfl, rfl, (settled.toOnCourse.print _).cancel (of_pending? pending).1⟩
  | case3 prompts s suspension pending shown entry rest after error performed =>
    obtain ⟨⟨⟩, -⟩ | ⟨⟨⟩, -⟩ := perform_cases (settled.print _) (of_pending? pending).1 performed
  | case4 prompts s suspension pending shown entry rest after performed ih =>
    obtain ⟨⟨⟩, -⟩ | ⟨-, stays, again⟩ := perform_cases (settled.print _) (of_pending? pending).1 performed
    obtain ⟨asked, last, counted, ended, result⟩ := ih again
    refine ⟨asked + 1, last, ?_, ended, ?_⟩
    · rw [counted, Prompts.next, Nat.add_assoc, Nat.add_comm 1 asked]
    · rwa [isLeft_cons rest stays]
  | case5 prompts s suspension pending shown entry rest after performed =>
    obtain ⟨-, quits, left⟩ | ⟨⟨⟩, -⟩ := perform_cases (settled.print _) (of_pending? pending).1 performed
    refine ⟨1, after, rfl, rfl, ?_⟩
    rwa [isLeft_quit rest quits, if_pos rfl]

theorem runStepping_comes_to (set : s.IsSetFor routine) (idle : s.isRunning = false) (world : s.world = routine.world)
    (entries : List Entry) :
    ∃ prompts last code, runStepping routine.speed entries s = (prompts, last, .ok code) ∧
      if isLeft entries prompts.count then code = 1
      else code = routine.result.code ∧ routine.result.lines <:+ last.engine.printed.reverse := by
  obtain ⟨next, begun, on, -⟩ := set.run idle world (.bool true)
  rw [← step_idle idle] at begun
  obtain ⟨asked, last, counted, ended, outcome⟩ := stepLoop_comes_to (on.join.print stepHelp) {} entries
  rcases looped : stepLoop routine.speed {} (next.join.print stepHelp) entries with ⟨prompts, answer⟩
  rw [looped] at counted ended
  subst ended
  have count : prompts.count = asked := counted.trans (Nat.zero_add asked)
  refine ⟨prompts, (conclude last).1, ?_⟩
  have stepped : runStepping routine.speed entries s = (prompts, conclude last) := by
    rw [runStepping, begun]
    dsimp only
    rw [looped]
  rw [stepped, count]
  cases left : isLeft entries asked with
  | true =>
    rw [left, if_pos rfl] at outcome
    exact ⟨1, congrArg (Prod.mk prompts) (Prod.ext rfl (conclude_left outcome)), rfl⟩
  | false =>
    rw [left, if_neg Bool.false_ne_true] at outcome
    rw [conclude_arrived outcome]
    refine ⟨_, rfl, rfl, ?_⟩
    rw [printed_print]
    exact List.suffix_append ..

/-! ### From the command line to the run -/

/-- The course of the program on a command line, by its plain meaning, if it comes to be run: the levels that are needed
have worlds, and there is something to run. -/
def course? (here : Surroundings) (options : Options) (catalog : Catalog) (file : ProgramFile) : Option Course :=
  match (catalog.get (.int 1)).2.world here.allocation, (catalog.get (wantedLevel options file)).2.world here.allocation,
    file.table with
  | .ok _, .ok world, .ok table =>
    if file.main.isEmpty && file.functions.isEmpty then none
    else some (meaning file.main table (.ofInt here.settings.maxCallDepth) world here.draws)
  | _, _, _ => none

theorem atMost_of_isPositive {speed : Binary64} (positive : speed.isPositive = true) :
    Relation.atMost.check (.num (.float speed)) (.int 0) = .ok false := by
  have zero : (Number.int 0).value = (Binary64.zero false).value :=
    (congrArg Binary64.Value.finite (Int.zero_mul _)).trans (Binary64.value_zero false).symm
  have above : Number.lt (.int 0) (.float speed) = true := by
    show (Number.int 0).value.lt speed.value = true
    rw [zero]
    exact positive
  exact Relation.not_atMost_of_greater (congrArg Except.ok above)

/-- What both modes come to where a program leads to a course. -/
def Agree (entries : List Entry) (course : Course) (alone stepped : Prompts × Session × Except SessionError Nat) : Prop :=
  ∃ last prompts left code, alone = ({}, last, .ok course.result.code) ∧
    course.result.lines <:+ last.engine.printed.reverse ∧ stepped = (prompts, left, .ok code) ∧
    if isLeft entries prompts.count then code = 1
    else code = course.result.code ∧ course.result.lines <:+ left.engine.printed.reverse

theorem runs_nothing (idle : s.isRunning = false) (nothing : (s.program.isEmpty && s.functions.isEmpty) = true)
    (speed : Json) (entries : List Entry) :
    ∃ last, runStraight speed s = (last, .ok 1) ∧ runStepping speed entries s = ({}, last, .ok 1) := by
  have turnedDown (interactive : Json) : s.run (some speed) interactive =
      (s.logAs "ERROR: No instructions to execute" .error, .ok false) := by
    rw [Session.run, Session.prepare, idle, nothing]
    rfl
  refine ⟨s.logAs "ERROR: No instructions to execute" .error, ?_, ?_⟩
  · rw [runStraight, turnedDown]
  · rw [runStepping, step_idle idle, turnedDown]

structure IsFresh (here : Surroundings) (catalog : Catalog) (s : Session) : Prop where
  idle : s.isRunning = false
  settings : s.settings =
    ⟨here.allocation, catalog, here.settings.verbose, .num (.float here.settings.baseDelay), .ofInt here.settings.maxCallDepth⟩
  calm : s.engine.IsCalm

namespace IsFresh

variable {here : Surroundings} {catalog : Catalog} (fresh : IsFresh here catalog s)

include fresh

theorem listed : s.catalog = catalog := congrArg Session.Settings.catalog fresh.settings

theorem granted : s.allocation = here.allocation := congrArg Session.Settings.allocation fresh.settings

theorem importProgram {source : Source} {file : ProgramFile} (accepted : (ProgramFile.read source).outcome = .ok file) :
    IsFresh here catalog (s.importProgram source).1 where
  idle := (isRunning_of_phase (importProgram_ok fresh.idle accepted).2.phase).trans fresh.idle
  settings := (Becomes.start.importProgram source).settings.trans fresh.settings
  calm := importProgram_isCalm source fresh.calm

theorem loadLevel {wanted : Json} {world : World} (built : (s.catalog.get wanted).2.world s.allocation = .ok world) :
    IsFresh here catalog (s.loadLevel wanted).1 where
  idle := (isRunning_of_phase (loadLevel_built fresh.idle built).2.phase).trans fresh.idle
  settings := (Becomes.start.loadLevel wanted).settings.trans fresh.settings
  calm := loadLevel_isCalm wanted fresh.calm

end IsFresh

section Loaded

variable {here : Surroundings} {options : Options} {catalog : Catalog} {program : String} {text : List Char}
  {file : ProgramFile} (fresh : IsFresh here catalog s) (stored : here.files.readText program = .ok text)
  (accepted : (ProgramFile.read (.text text)).outcome = .ok file)

include fresh stored accepted

theorem runProgram_loaded (speed : Json) : runProgram here options speed program s =
    match (s.importProgram (.text text)).1.loadLevel (wantedLevel options file) with
    | (s, .error error) => ({}, s, .error error)
    | (s, .ok _) =>
      if options.step then runStepping speed here.entries (s.print (worldLines s))
      else ({}, runStraight speed (s.print (worldLines s))) := by
  have loaded : s.loadFile here.files program = ((s.importProgram (.text text)).1, .ok file) := by
    rw [loadFile, fresh.idle, stored]
    exact Prod.ext rfl (importProgram_ok fresh.idle accepted).1
  rewrite [runProgram, loaded]
  rfl

theorem runProgram_unbuilt {unbuilt : WorldFault}
    (none : (catalog.get (wantedLevel options file)).2.world here.allocation = .error unbuilt) (speed : Json) :
    ∃ last, ∀ step, runProgram here { options with step } speed program s = ({}, last, .error (.world unbuilt)) := by
  have loaded := fresh.importProgram accepted
  rw [← loaded.listed, ← loaded.granted] at none
  have left := loadLevel_unbuilt loaded.idle none
  refine ⟨((s.importProgram (.text text)).1.loadLevel (wantedLevel options file)).1, fun step => ?_⟩
  have wanted : wantedLevel { options with step } file = wantedLevel options file := rfl
  rw [runProgram_loaded fresh stored accepted, wanted, left]

theorem runProgram_built {world : World}
    (built : (catalog.get (wantedLevel options file)).2.world here.allocation = .ok world) (speed : Json) :
    ∃ ready : Session, IsFresh here catalog ready ∧ ready.program = file.main ∧ ready.functions = file.functions ∧
      ready.level.world ready.allocation = .ok world ∧ ready.world = world ∧
      ∀ step, runProgram here { options with step } speed program s =
        if step then runStepping speed here.entries ready else ({}, runStraight speed ready) := by
  have loaded := fresh.importProgram accepted
  have installed := (importProgram_ok fresh.idle accepted).2
  rw [← loaded.listed, ← loaded.granted] at built
  obtain ⟨answered, noted⟩ := loadLevel_built loaded.idle built
  have next := loaded.loadLevel built
  rcases reached : (s.importProgram (.text text)).1.loadLevel (wantedLevel options file) with ⟨ready, answer⟩
  rw [reached] at answered noted next
  subst answered
  refine ⟨ready.print (worldLines ready), ⟨next.idle, next.settings, next.calm⟩, noted.program.trans installed.program,
    noted.functions.trans installed.functions, ?_, noted.world, fun step => ?_⟩
  · have level : ready.level = _ := noted.level
    have room : ready.allocation = _ := noted.allocation
    show ready.level.world ready.allocation = _
    rw [level, room]
    exact built
  · have wanted : wantedLevel { options with step } file = wantedLevel options file := rfl
    rw [runProgram_loaded fresh stored accepted, wanted, reached]

variable {speed : Binary64}

/-- Where the program leads to a course, both modes come to what that course says. -/
theorem runProgram_agree (main : Instruction.bodyCertain file.main = true)
    (functions : Instruction.bodyCertain file.functions = true) (positive : speed.isPositive = true)
    (short : Pause.isTooLong (.float (here.settings.baseDelay.div speed)) = false) {course : Course}
    (leads : course? here options catalog file = some course) :
    Agree here.entries course (runProgram here { options with step := false } (.num (.float speed)) program s)
      (runProgram here { options with step := true } (.num (.float speed)) program s) := by
  unfold course? at leads
  split at leads
  · rename_i start world table first built defined
    split at leads
    · cases leads
    · rename_i given
      cases leads
      -- The program is a routine in the world of its level, and both ways of running it arrive.
      have numeric : (CallLimit.ofInt here.settings.maxCallDepth).fault = none := rfl
      let routine : Routine := .ofFile (ProgramFile.read_readable accepted) main functions
        ((Bool.not_eq_true _).mp given) defined world numeric (atMost_of_isPositive positive)
        (Pause.atSpeed_float speed here.settings.baseDelay) short here.draws
      obtain ⟨ready, next, program, definitions, level, placed, runs⟩ :=
        runProgram_built fresh stored accepted built (.num (.float speed))
      have set : ready.IsSetFor routine :=
        { program, functions := definitions, world := level
          callLimit := congrArg Session.Settings.callLimit next.settings
          baseDelay := congrArg Session.Settings.baseDelay next.settings
          calm := next.calm }
      obtain ⟨last, alone, report⟩ := runStraight_arrives set next.idle placed
      obtain ⟨prompts, left, code, stepped, outcome⟩ := runStepping_comes_to set next.idle placed _
      refine ⟨last, prompts, left, code, ?_, report, (runs true).trans stepped, outcome⟩
      exact (runs false).trans (congrArg (Prod.mk ({} : Prompts)) alone)
  · cases leads

theorem runProgram_same {start : World} (first : (catalog.get (.int 1)).2.world here.allocation = .ok start)
    (none : course? here options catalog file = none) (speed : Json) :
    ∃ last answer, (∀ step, runProgram here { options with step } speed program s = ({}, last, answer)) ∧
      answer ≠ .ok 0 := by
  cases built : (catalog.get (wantedLevel options file)).2.world here.allocation with
  | error unbuilt =>
    obtain ⟨last, ends⟩ := runProgram_unbuilt fresh stored accepted built speed
    exact ⟨last, .error (.world unbuilt), ends, fun same => nomatch same⟩
  | ok world =>
    obtain ⟨table, defined, -⟩ := FunctionTable.ofDefinitions_readable (ProgramFile.read_readable accepted).functions
    have listed : file.table = .ok table := defined
    have nothing : (file.main.isEmpty && file.functions.isEmpty) = true := by
      rw [course?, first, built, listed] at none
      by_cases given : (file.main.isEmpty && file.functions.isEmpty) = true
      · exact given
      · simp only [if_neg given] at none
        cases none
    obtain ⟨ready, next, program, definitions, -, -, runs⟩ := runProgram_built fresh stored accepted built speed
    rw [← program, ← definitions] at nothing
    obtain ⟨last, alone, stepped⟩ := runs_nothing next.idle nothing speed here.entries
    refine ⟨last, .ok 1, fun step => ?_, fun same => Nat.one_ne_zero (Except.ok.inj same)⟩
    rw [runs step, alone, stepped]
    exact ite_self _

end Loaded

def shown (loading : List String) (ran : Prompts × Session × Except SessionError Nat) : Outcome where
  status := match ran.2.2 with
    | .ok code => .code code
    | .error error => .failed (.session error)
  out := loading ++ ran.2.1.engine.printed.reverse
  prompts := { ran.1 with lines := loading.length + ran.1.lines }

theorem shown_code {ran : Prompts × Session × Except SessionError Nat} {code : Nat} (loading : List String)
    (ended : ran.2.2.toOption = some code) : (shown loading ran).status = .code code := by
  obtain ⟨prompts, last, answer⟩ := ran
  cases answer with
  | error error => cases ended
  | ok other =>
    cases ended
    rfl

theorem shown_failed {ran : Prompts × Session × Except SessionError Nat} (loading : List String)
    (broken : ran.2.2.toOption = none) : ∃ error, (shown loading ran).status = .failed error := by
  obtain ⟨prompts, last, answer⟩ := ran
  cases answer with
  | error error => exact ⟨.session error, rfl⟩
  | ok code => cases broken

theorem play_of_start {here : Surroundings} {options : Options} {loading starting : List String} {catalog : Catalog}
    (loaded : Catalog.load here.settings.verbose here.files (levelsFile here options) = (loading, .ok catalog))
    (started : Session.start here.allocation catalog (.int 1) here.draws
      [.console "Engine" (options.verbose || here.settings.verbose)] (.num (.float here.settings.baseDelay)) (.ofInt here.settings.maxCallDepth) here.settings.verbose =
        (starting, .ok s))
    (speed : Json) (program : String) :
    play here options speed program = shown loading (runProgram here options speed program s) := by
  rw [play, loaded]
  dsimp only
  rw [started]
  rfl

section Play

variable {here : Surroundings} {options : Options} {catalog : Catalog}
  (loaded : (Catalog.load here.settings.verbose here.files (levelsFile here options)).2 = .ok catalog)

include loaded

theorem play_unbuilt {unbuilt : WorldFault} (none : (catalog.get (.int 1)).2.world here.allocation = .error unbuilt)
    (speed : Json) (program : String) :
    ∃ outcome : Outcome, (∀ step, play here { options with step } speed program = outcome) ∧ outcome.status ≠ .code 0 := by
  rcases read : Catalog.load here.settings.verbose here.files (levelsFile here options) with ⟨loading, answer⟩
  rw [read] at loaded
  obtain rfl : answer = .ok catalog := loaded
  have named (step : Bool) : levelsFile here { options with step } = levelsFile here options := rfl
  -- A session starts in the first level, before the level that is wanted is loaded.
  have outset (observer : Observer) : Session.start here.allocation catalog (.int 1) here.draws [observer]
      (.num (.float here.settings.baseDelay)) (.ofInt here.settings.maxCallDepth) here.settings.verbose =
        ((catalog.get (.int 1)).1, .error unbuilt) := by
    rw [Session.start]
    dsimp only
    rw [none]
    rfl
  refine ⟨{ status := .failed (.session (.world unbuilt)), out := loading ++ (catalog.get (.int 1)).1 },
    fun step => ?_, fun same => nomatch same⟩
  rw [play, named, read]
  dsimp only
  rw [outset]

theorem play_built {world : World} (built : (catalog.get (.int 1)).2.world here.allocation = .ok world) :
    ∃ loading s, IsFresh here catalog s ∧ ∀ step speed program,
      play here { options with step } speed program = shown loading (runProgram here { options with step } speed program s) := by
  rcases read : Catalog.load here.settings.verbose here.files (levelsFile here options) with ⟨loading, answer⟩
  rw [read] at loaded
  obtain rfl : answer = .ok catalog := loaded
  let console := Observer.console "Engine" (options.verbose || here.settings.verbose)
  rcases outset : Session.start here.allocation catalog (.int 1) here.draws [console]
      (.num (.float here.settings.baseDelay)) (.ofInt here.settings.maxCallDepth) here.settings.verbose with ⟨starting, started⟩
  cases started with
  | error unbuilt =>
    rw [Session.start] at outset
    dsimp only at outset
    rw [built] at outset
    cases outset
  | ok s =>
    refine ⟨loading, s, ⟨?_, (IsListed.of_start outset).2, ?_⟩, fun step speed program => ?_⟩
    · obtain ⟨_, -, rfl⟩ := start_ok outset
      rfl
    · obtain ⟨_, -, rfl⟩ := start_ok outset
      intro observer member
      rw [List.mem_singleton.mp member]
      exact Observer.console_isCalm _ _
    · have named : levelsFile here { options with step } = levelsFile here options := rfl
      rw [← named] at read
      exact play_of_start read outset speed program

end Play

/-! ### Command lines -/

theorem take_nil (options : Options) : options.take [] = .ok options := by
  obtain ⟨program⟩ := options
  rw [Options.take]
  cases program with
  | none => rfl
  | some program => rfl

theorem take_program {options : Options} (unnamed : options.program = none) (program : String) {rest : List Token}
    (more : rest.any Token.isOption = true) :
    options.take (.argument program :: rest) = Options.take { options with program := some program } rest := by
  have some : (Token.argument program :: rest).any Token.isOption = true := more
  rw [Options.take, some, unnamed]
  rfl

theorem take_flag {options next : Options} {switch : Switch} (alone : switch.takesValue = false)
    (set : options.flag switch = .ok next) (text spelling : String) (rest : List Token) :
    options.take (.option text ⟨switch, spelling, none⟩ :: rest) = next.take rest := by
  have cluster : OptionUse.cluster ⟨switch, spelling, none⟩ = .ok (.flags [switch]) := by
    rw [OptionUse.cluster, Cluster.ofSwitch, alone]
    rfl
  have flags : options.flags [switch] = .ok next := by
    rw [Options.flags, List.foldlM_cons, set]
    rfl
  have some : (Token.option text ⟨switch, spelling, none⟩ :: rest).any Token.isOption = true := rfl
  rw [Options.take, some]
  simp only [cluster]
  show (options.flags [switch] >>= fun options => options.take rest) = _
  rw [flags]
  rfl

theorem take_value {options next : Options} {switch : Switch} {value : String} (awaits : switch.takesValue = true)
    (given : options.value switch value = .ok next) (text spelling : String) (rest : List Token) :
    options.take (.option text ⟨switch, spelling, none⟩ :: .argument value :: rest) = next.take rest := by
  have cluster : OptionUse.cluster ⟨switch, spelling, none⟩ = .ok (.awaiting [] switch) := by
    rw [OptionUse.cluster, Cluster.ofSwitch, awaits]
    rfl
  have some : (Token.option text ⟨switch, spelling, none⟩ :: .argument value :: rest).any Token.isOption = true := rfl
  rw [Options.take, some]
  dsimp only
  rw [cluster]
  show (options.value switch value >>= fun options => options.take rest) = _
  rw [given]
  rfl

theorem readArguments_of_take {arguments : List String} {tokens : List Token} {defaultSpeed : Binary64} {options : Options}
    {program : String} (classified : classifyAll arguments = .ok tokens)
    (taken : Options.take { speed := some defaultSpeed } tokens = .ok options) (named : options.program = some program)
    (rest : options.extras = []) : readArguments arguments defaultSpeed = .ok (options, program) := by
  rw [readArguments, classified]
  show (Options.take { speed := some defaultSpeed } tokens >>= _) = _
  rw [taken]
  simp only [bind, Except.bind, named, rest]
  rfl

theorem run_of_arguments {here : Surroundings} {arguments : List String} {options : Options} {program : String}
    {speed : Binary64} (read : readArguments arguments here.settings.defaultSpeed = .ok (options, program))
    (given : options.speed = some speed) (positive : speed.isPositive = true) :
    run here arguments = play here options (.num (.float speed)) program := by
  have allowed : speed.isNonPositive = false := by
    rw [Binary64.isNonPositive, positive]
    rfl
  rw [run, read]
  dsimp only
  rw [given]
  dsimp only
  rw [allowed]
  rfl

/-- Two command lines that differ in nothing but whether the program is stepped through, at a positive speed at which its
pauses can be waited out, with a program that leaves nothing to chance. Where the program leads to a course, the one that
runs straight through ends with the status and the report of its result. So does the one that is stepped through, whatever
is typed, unless the user leaves it; then its status is 1. Where there is no course the two do not differ. -/
theorem modes_agree {here : Surroundings} {options : Options} {straight stepping : List String} {program : String}
    {speed : Binary64} {catalog : Catalog} {text : List Char} {file : ProgramFile}
    (alone : readArguments straight here.settings.defaultSpeed = .ok ({ options with step := false }, program))
    (stepped : readArguments stepping here.settings.defaultSpeed = .ok ({ options with step := true }, program))
    (given : options.speed = some speed) (positive : speed.isPositive = true)
    (short : Pause.isTooLong (.float (here.settings.baseDelay.div speed)) = false)
    (loaded : (Catalog.load here.settings.verbose here.files (levelsFile here options)).2 = .ok catalog)
    (stored : here.files.readText program = .ok text)
    (accepted : (ProgramFile.read (.text text)).outcome = .ok file)
    (main : Instruction.bodyCertain file.main = true) (functions : Instruction.bodyCertain file.functions = true) :
    match course? here options catalog file with
    | none => run here stepping = run here straight ∧ (run here straight).status ≠ .code 0
    | some course =>
      (run here straight).status = .code (if course.ending = .success then 0 else 1) ∧
        course.result.lines <:+ (run here straight).out ∧
        if isLeft here.entries (run here stepping).prompts.count then (run here stepping).status = .code 1
        else (run here stepping).status = (run here straight).status ∧
          course.result.lines <:+ (run here stepping).out := by
  rw [run_of_arguments alone given positive, run_of_arguments stepped given positive]
  -- Without a world for the first level neither of them comes to the program.
  cases first : (catalog.get (.int 1)).2.world here.allocation with
  | error unbuilt =>
    obtain ⟨outcome, same, failed⟩ := play_unbuilt loaded first (.num (.float speed)) program
    have none : course? here options catalog file = none := by
      rw [course?, first]
    rw [none, same false, same true]
    exact ⟨rfl, failed⟩
  | ok start =>
    obtain ⟨loading, s, fresh, plays⟩ := play_built loaded first
    rw [plays, plays]
    cases leads : course? here options catalog file with
    | none =>
      -- Where there is no course, nothing runs, and the program is turned down in the same way.
      obtain ⟨last, answer, same, failed⟩ := runProgram_same fresh stored accepted first leads (.num (.float speed))
      rw [same, same]
      refine ⟨rfl, fun succeeds => failed ?_⟩
      cases answer with
      | error error => cases succeeds
      | ok code => exact congrArg Except.ok (Status.code.inj succeeds)
    | some course =>
      obtain ⟨last, prompts, left, code, straight, report, stepping, outcome⟩ :=
        runProgram_agree fresh stored accepted main functions positive short leads
      rw [straight, stepping]
      refine ⟨rfl, List.suffix_append_of_suffix report, ?_⟩
      show if isLeft here.entries prompts.count then Status.code code = .code 1
        else Status.code code = .code course.result.code ∧ course.result.lines <:+ loading ++ left.engine.printed.reverse
      -- A user who leaves does so before the run is over.
      cases leaves : isLeft here.entries prompts.count with
      | true =>
        rw [leaves, if_pos rfl] at outcome
        exact congrArg Status.code outcome
      | false =>
        rw [leaves, if_neg Bool.false_ne_true] at outcome
        exact ⟨congrArg Status.code outcome.1, List.suffix_append_of_suffix outcome.2⟩

theorem loadFile_read {files : Files} {path : String} {text : List Char} {file : ProgramFile} (idle : s.isRunning = false)
    (stored : files.readText path = .ok text) (quiet : s.verbose = false)
    (read : ProgramFile.read (.text text) = ⟨[], .ok file⟩) (clean : file.warnings = [])
    (dated : file.exportDate.isEmpty = false) : s.loadFile files path =
      (({ s with program := file.main, functions := file.functions }.logAs
          ("Program imported successfully from level " ++ file.level.text ++ ": " ++ file.levelName) .success).logAs
          ("Originally exported on " ++ file.exportDate) .info, .ok file) := by
  have imported : ProgramFile.import? s.verbose (.text text) = ([], .ok file) := by
    rw [ProgramFile.import?, read, quiet]
    rfl
  simp only [loadFile, idle, stored, importProgram, imported, clean, dated]
  rfl

/-! ### A walk of two steps -/

def walkLevels : Json :=
  let place (x : Int) : Json := .obj [("x", .int x), ("y", .int 0)]
  .obj [("levels", .arr [.obj [("id", .int 1), ("gridSize", .int 3), ("player", place 0), ("goal", place 2)]])]

def walkCatalog : Catalog where
  levels :=
    [{ id := 1, name := "LEVEL 1", size := 3, start := ⟨0, 0⟩, direction := .right, goal := ⟨2, 0⟩, obstacles := []
       description := .null, hint := .null }]
  nonempty := List.cons_ne_nil _ _
  fromFallback := false

def walkFile : ProgramFile where
  level := .number 1
  levelName := "A"
  functions := [.define (.str "go") [.move]]
  main := [.repeatTimes (.int 2) [.call (.str "go")]]
  exportDate := "today"
  version := fileVersion
  warnings := []

def walkProgram : Json :=
  programDocument walkFile.main walkFile.functions walkFile.level.toJson (.str walkFile.levelName)
    (.str walkFile.exportDate)

def walk (entries : List Entry) : Surroundings where
  settings := .default
  allocation := .within 9
  levelsPath := "levels.json"
  files path :=
    if path = "levels.json" then some (.file walkLevels.indented.toUTF8.data.toList)
    else if path = "go.json" then some (.file walkProgram.indented.toUTF8.data.toList)
    else none
  draws := .ofList []
  entries

def walkSession : Session where
  allocation := .within 9
  catalog := walkCatalog
  level := walkCatalog.first
  engine :=
    { world := .ofBoard { size := 3, start := ⟨⟨0, 0⟩, .right, false⟩, goal := ⟨2, 0⟩, obstacles := [] }
      draws := .ofList [], observers := [.console "Engine" false]
      baseDelay := .num (.float Settings.default.baseDelay), callLimit := .ofInt Settings.default.maxCallDepth }

section Walk

variable (entries : List Entry)

theorem load_walk : Catalog.load false (walk entries).files "levels.json" = ([], .ok walkCatalog) := by
  have exact : walkLevels.IsExact := by simp [walkLevels, Json.IsExact, Json.AllExact, Json.FieldsExact]
  have holds : Catalog.Holds (walk entries).files "levels.json" _ :=
    ⟨_, _, Files.readText_document exact rfl, Json.parse_indented exact, rfl⟩
  have read : Catalog.read (walk entries).files "levels.json" = .ok walkCatalog :=
    (Catalog.read_ok_iff walkCatalog).mpr ⟨rfl, _, holds, rfl⟩
  rw [Catalog.load, read]
  rfl

theorem plain_walkFile :
    Instruction.BodyPlain walkFile.main ∧ ∀ f ∈ walkFile.functions, f.IsPlainDefinition := by
  simp [walkFile, Instruction.IsPlainDefinition, Instruction.BodyPlain, Instruction.IsPlain]

theorem walkProgram_isExact : walkProgram.IsExact :=
  ProgramFile.programDocument_isExact plain_walkFile.1 plain_walkFile.2 1 "A" "today"

theorem readText_walk : (walk entries).files.readText "go.json" = .ok walkProgram.indented.toList :=
  Files.readText_document walkProgram_isExact rfl

theorem read_walk : ProgramFile.read (.text walkProgram.indented.toList) = ⟨[], .ok walkFile⟩ := by
  have decoded : Source.decode (.text walkProgram.indented.toList) = .ok walkProgram := by
    rw [Source.decode, Json.parse_indented walkProgram_isExact]
    rfl
  obtain ⟨main, functions⟩ := plain_walkFile
  have readable : walkFile.IsReadable :=
    ⟨(Instruction.BodyPlain.readable walkFile.main main).1, fun f member => (functions f member).readable.1, by decide⟩
  exact ProgramFile.read_decoded decoded (ProgramFile.ofDocument_programDocument readable "today")

theorem loadFile_walk : walkSession.loadFile (walk entries).files "go.json" =
    (({ walkSession with program := walkFile.main, functions := walkFile.functions }.logAs
        ("Program imported successfully from level " ++ walkFile.level.text ++ ": " ++ walkFile.levelName) .success).logAs
        ("Originally exported on " ++ walkFile.exportDate) .info, .ok walkFile) := by
  have dated : walkFile.exportDate.isEmpty = false := by decide +kernel
  exact loadFile_read rfl (readText_walk entries) rfl read_walk rfl dated

theorem play_walk {options : Options} (quiet : options.verbose = false) (unnamed : options.levels = none)
    (speed : Json) :
    play (walk entries) options speed "go.json" =
      shown [] (runProgram (walk entries) options speed "go.json" walkSession) := by
  have loaded : Catalog.load false (walk entries).files (levelsFile (walk entries) options) = ([], .ok walkCatalog) := by
    rw [levelsFile, unnamed]
    exact load_walk entries
  have started : Session.start (.within 9) walkCatalog (.int 1) (walk entries).draws
      [.console "Engine" (options.verbose || false)] (.num (.float Settings.default.baseDelay))
      (.ofInt Settings.default.maxCallDepth) false = ([], .ok walkSession) := by
    rw [quiet]
    rfl
  exact play_of_start loaded started speed "go.json"

end Walk

/-- The user steps, starts again, looks at the world, types something else and lets the program run. -/
theorem modes_agree_restarted :
    let here := walk [.line "s", .line "r", .line "w", .line "?", .line "c"]
    ∃ course : Course, course.ending = .success ∧ course.trail.executed = 5 ∧ (run here ["go.json"]).status = .code 0 ∧
      course.result.lines <:+ (run here ["go.json"]).out ∧
      if isLeft here.entries (run here ["go.json", "--step"]).prompts.count then
        (run here ["go.json", "--step"]).status = .code 1
      else (run here ["go.json", "--step"]).status = (run here ["go.json"]).status ∧
        course.result.lines <:+ (run here ["go.json", "--step"]).out := by
  intro here
  let options : Options := { program := some "go.json", speed := some defaultSpeed }
  have alone : readArguments ["go.json"] here.settings.defaultSpeed = .ok ({ options with step := false }, "go.json") := by
    have classified : classifyAll ["go.json"] = .ok [.argument "go.json"] := rfl
    refine readArguments_of_take classified ?_ rfl rfl
    rw [Options.take]
    rfl
  have stepped : readArguments ["go.json", "--step"] here.settings.defaultSpeed =
      .ok ({ options with step := true }, "go.json") := by
    have classified : classifyAll ["go.json", "--step"] =
        .ok [.argument "go.json", .option "--step" ⟨.step, "--step", none⟩] := rfl
    refine readArguments_of_take classified ?_ rfl rfl
    rw [take_program rfl "go.json" rfl]
    exact (take_flag rfl rfl "--step" "--step" []).trans (take_nil _)
  have positive : defaultSpeed.isPositive = true := by decide +kernel
  have short : Pause.isTooLong (.float (here.settings.baseDelay.div defaultSpeed)) = false := by decide +kernel
  have loaded : (Catalog.load here.settings.verbose here.files (levelsFile here options)).2 = .ok walkCatalog :=
    congrArg Prod.snd (load_walk here.entries)
  have accepted : (ProgramFile.read (.text walkProgram.indented.toList)).outcome = .ok walkFile :=
    congrArg Scan.outcome read_walk
  let world : World := .ofBoard { size := 3, start := ⟨⟨0, 0⟩, .right, false⟩, goal := ⟨2, 0⟩, obstacles := [] }
  let course := meaning walkFile.main [(.str "go", [.move])] (.ofInt 64) world (.ofList [])
  have leads : course? here options walkCatalog walkFile = some course := rfl
  have agree := modes_agree alone stepped rfl positive short loaded (readText_walk here.entries) accepted rfl rfl
  rw [leads] at agree
  obtain ⟨status, report, outcome⟩ := agree
  have reached : course.ending = .success := by decide +kernel
  rw [if_pos reached] at status
  exact ⟨course, reached, by decide +kernel, status, report, outcome⟩

/-- At a speed of 1e-300 a pause of half a second is too long to be waited out. The run that nobody steps through breaks in
front of its first instruction; the user who steps to its end is told of success. -/
theorem modes_differ_at_slow :
    let here := walk [.line "s", .line "s", .line "s", .line "s", .line "s"]
    let straight := run here ["go.json", "--speed", "1e-300"]
    let stepping := run here ["go.json", "--speed", "1e-300", "--step"]
    (∃ error, straight.status = .failed error) ∧ stepping.status = .code 0 ∧
      isLeft here.entries stepping.prompts.count = false := by
  intro here
  let slow : Binary64 := ⟨0x01a56e1fc2f8f359⟩
  let options : Options := { program := some "go.json", speed := some slow }
  have given : Options.value { program := some "go.json", speed := some defaultSpeed } .speed "1e-300" = .ok options := by
    have reads : Text.readFloat? "1e-300" = some slow := by decide +kernel
    rw [Options.value, reads]
    rfl
  have alone : readArguments ["go.json", "--speed", "1e-300"] here.settings.defaultSpeed =
      .ok ({ options with step := false }, "go.json") := by
    have classified : classifyAll ["go.json", "--speed", "1e-300"] =
        .ok [.argument "go.json", .option "--speed" ⟨.speed, "--speed", none⟩, .argument "1e-300"] := rfl
    refine readArguments_of_take classified ?_ rfl rfl
    rw [take_program rfl "go.json" rfl]
    exact (take_value rfl given "--speed" "--speed" []).trans (take_nil options)
  have stepped : readArguments ["go.json", "--speed", "1e-300", "--step"] here.settings.defaultSpeed =
      .ok ({ options with step := true }, "go.json") := by
    have classified : classifyAll ["go.json", "--speed", "1e-300", "--step"] =
        .ok [.argument "go.json", .option "--speed" ⟨.speed, "--speed", none⟩, .argument "1e-300",
          .option "--step" ⟨.step, "--step", none⟩] := rfl
    refine readArguments_of_take classified ?_ rfl rfl
    rw [take_program rfl "go.json" rfl]
    exact (take_value rfl given "--speed" "--speed" _).trans ((take_flag rfl rfl "--step" "--step" []).trans (take_nil _))
  have positive : slow.isPositive = true := by decide +kernel
  refine ⟨?_, ?_, ?_⟩
  · rw [run_of_arguments alone rfl positive, play_walk _ rfl rfl]
    apply shown_failed
    rw [runProgram, loadFile_walk]
    decide +kernel
  · rw [run_of_arguments stepped rfl positive, play_walk _ rfl rfl]
    apply shown_code
    rw [runProgram, loadFile_walk]
    decide +kernel
  · rw [run_of_arguments stepped rfl positive, play_walk _ rfl rfl, shown, runProgram, loadFile_walk]
    decide +kernel

end Console

end GridRobot
