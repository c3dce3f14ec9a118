import GridRobot.Proofs.Program.RoundTrip
import GridRobot.Proofs.Run.Effect
import GridRobot.Proofs.Run.Refinement

/-!
Programs that were read from a file do not go wrong. The plain reading of such a program never comes to a fault, as
long as there are random numbers; and a run leads where the plain reading does, whatever its host does in between,
unless it is broken off.
-/
namespace GridRobot

open Instruction (bodyMeaning BodyReadable)

def Draws.IsEndless (draws : Draws) : Prop :=
  ∀ n, draws.taken ≤ n → ∃ x y, draws.number n = some x ∧ x.number? = some y

namespace Draws

theorem ofSeed_isEndless (seed : UInt64) : (ofSeed seed).IsEndless := by
  intro n _
  exact ⟨_, _, rfl, rfl⟩

theorem IsEndless.next? {draws : Draws} (endless : draws.IsEndless) :
    ∃ x y rest, draws.next? = some (x, rest) ∧ x.number? = some y ∧ rest.IsEndless := by
  rcases endless draws.taken (Nat.le_refl _) with ⟨x, y, given, number⟩
  refine ⟨x, y, { draws with taken := draws.taken + 1 }, ?_, number, ?_⟩
  · simp [Draws.next?, given]
  · intro n later
    exact endless n (Nat.le_of_succ_le later)

end Draws

/-- An evaluation that comes to a value, with numbers left for the next one. -/
structure Evaluation.IsSound (evaluation : Evaluation) : Prop where
  value : ∃ value, evaluation.value = .ok value
  draws : evaluation.draws.IsEndless

namespace Condition

theorem toss_isSound {draws : Draws} (endless : draws.IsEndless) : (toss draws).IsSound := by
  rcases endless.next? with ⟨x, y, rest, drawn, number, left⟩
  have compared : Relation.less.check x (.num (.float Binary64.half)) = .ok (y.lt (.float Binary64.half)) :=
    Relation.check_of_numbers number rfl
  constructor
  · exact ⟨y.lt (.float Binary64.half), by simp [toss, drawn, compared]⟩
  · simpa [toss, drawn, compared] using left

theorem evaluate_isSound {c : Condition} (readable : c.IsReadable) (w : World) {draws : Draws}
    (endless : draws.IsEndless) : (c.evaluate w draws).IsSound := by
  induction c with
  | empty => exact ⟨⟨false, rfl⟩, endless⟩
  | sensor s =>
    cases s with
    | coin => exact toss_isSound endless
    | wallAhead | goalAhead | pathClear | always | never => exact ⟨⟨_, rfl⟩, endless⟩
  | compare r op value =>
    rcases readable with ⟨n, rfl⟩
    cases op with
    | equals => exact ⟨⟨_, rfl⟩, endless⟩
    | greater => exact ⟨⟨_, rfl⟩, endless⟩
  | negate inner ih =>
    rcases ih readable with ⟨⟨value, held⟩, left⟩
    constructor
    · exact ⟨!value, by simp [evaluate, held]⟩
    · simpa [evaluate, held] using left
  | unknown tag fields => exact ⟨⟨false, rfl⟩, endless⟩

end Condition

/-- A course that comes to no fault, with numbers left for what follows it. -/
structure Course.IsSound (course : Course) : Prop where
  faultless : ∀ fault, course.halt ≠ some (.fault fault)
  draws : course.trail.draws.IsEndless

namespace Course

variable {trail : Trail}

theorem onward_isSound (endless : trail.draws.IsEndless) : trail.onward.IsSound := by
  refine ⟨?_, endless⟩
  intro fault halted
  cases halted

theorem fail_isSound (failure : RunFailure) (endless : trail.draws.IsEndless) :
    (trail.stop (.failure failure)).IsSound := by
  refine ⟨?_, endless⟩
  intro fault halted
  cases halted

theorem IsSound.andThen {course : Course} {next : Trail → Course} (sound : course.IsSound)
    (after : ∀ trail : Trail, trail.draws.IsEndless → (next trail).IsSound) : (course.andThen next).IsSound := by
  rcases course with ⟨trail, halt⟩
  cases halt with
  | none => exact after trail sound.draws
  | some halt => exact sound

theorem branch_isSound {condition : Condition} (readable : condition.IsReadable) (endless : trail.draws.IsEndless)
    {next : Bool → Trail → Course} (either : ∀ value (trail : Trail), trail.draws.IsEndless → (next value trail).IsSound) :
    (trail.branch condition next).IsSound := by
  rcases condition.evaluate_isSound readable trail.world endless with ⟨⟨value, held⟩, left⟩
  simp only [Trail.branch, held]
  exact either value _ left

theorem rounds_isSound {body : Trail → Course} (sound : ∀ trail : Trail, trail.draws.IsEndless → (body trail).IsSound)
    (n : Nat) (endless : trail.draws.IsEndless) : (rounds body n trail).IsSound := by
  induction n generalizing trail with
  | zero => exact onward_isSound endless
  | succ n ih =>
    apply (sound trail endless).andThen
    intro trail left
    exact ih left

theorem loop_isSound {condition : Condition} (readable : condition.IsReadable) {body : Trail → Course}
    (sound : ∀ trail : Trail, trail.draws.IsEndless → (body trail).IsSound) (n : Nat) (endless : trail.draws.IsEndless) :
    (loop condition body n trail).IsSound := by
  induction n generalizing trail with
  | zero =>
    apply branch_isSound readable endless
    intro value trail left
    exact fail_isSound .loopLimit left
  | succ n ih =>
    apply branch_isSound readable endless
    intro value trail left
    cases value with
    | false => exact onward_isSound left
    | true =>
      apply (sound trail left).andThen
      intro trail left
      exact ih left

end Course

open Course (onward_isSound fail_isSound branch_isSound rounds_isSound loop_isSound)

theorem Repetition.ofCount_int (n : Int) : ∃ loop, ofCount (.int n) = .ok loop := by
  rw [ofCount, announced_int]
  by_cases below : n < 0
  · rw [if_pos below]
    exact ⟨_, rfl⟩
  · rw [if_neg below]
    exact ⟨_, rfl⟩

def AreSound (calls : Json → Trail → Course) : Prop :=
  ∀ (word : String) (trail : Trail), trail.draws.IsEndless → (calls (.str word) trail).IsSound

namespace Instruction

mutual

theorem meaning_isSound {calls : Json → Trail → Course} (called : AreSound calls) {nested : Bool}
    (node : Instruction) (readable : node.IsReadable nested) {trail : Trail} (endless : trail.draws.IsEndless) :
    (node.meaning calls trail).IsSound := by
  cases node with
  | move =>
    simp only [meaning]
    split
    · exact fail_isSound _ endless
    · exact onward_isSound endless
  | turnLeft | turnRight | increment | decrement | define | unknown | blank => exact onward_isSound endless
  | assign r value =>
    rcases readable with ⟨n, rfl⟩
    exact onward_isSound endless
  | repeatTimes count body =>
    rcases readable with ⟨⟨n, rfl⟩, inner⟩
    -- A count that was read is an integer, so the rounds can be counted.
    rcases Repetition.ofCount_int n with ⟨loop, counted⟩
    simp only [meaning, counted]
    exact rounds_isSound (fun _ left => bodyMeaning_isSound called body inner left) loop.rounds endless
  | ifThen condition body =>
    rcases readable with ⟨test, inner⟩
    rw [meaning]
    apply branch_isSound test endless
    intro value trail left
    cases value with
    | false => exact onward_isSound left
    | true => exact bodyMeaning_isSound called body inner left
  | ifElse condition thenBody elseBody =>
    rcases readable with ⟨test, first, second⟩
    rw [meaning]
    apply branch_isSound test endless
    intro value trail left
    cases value with
    | false => exact bodyMeaning_isSound called elseBody second left
    | true => exact bodyMeaning_isSound called thenBody first left
  | whileDo condition body =>
    rcases readable with ⟨test, inner⟩
    exact loop_isSound test (fun _ left => bodyMeaning_isSound called body inner left) maxIterations endless
  | call name =>
    rcases readable with ⟨word, -, rfl⟩
    exact called word trail endless

theorem bodyMeaning_isSound {calls : Json → Trail → Course} (called : AreSound calls) (body : Body)
    (readable : BodyReadable body) {trail : Trail} (endless : trail.draws.IsEndless) :
    (bodyMeaning calls body trail).IsSound := by
  cases body with
  | nil => exact onward_isSound endless
  | cons node rest =>
    have entered : trail.enter.draws.IsEndless := endless
    rw [bodyMeaning]
    apply (meaning_isSound called node readable.1 entered).andThen
    intro trail left
    exact bodyMeaning_isSound called rest readable.2 left

end

end Instruction

namespace FunctionTable

def AreReadable (functions : FunctionTable) : Prop := ∀ entry ∈ functions, BodyReadable entry.2

variable {functions : FunctionTable}

theorem mem_insert {name : Json} {body : Body} {entry : Json × Body} (member : entry ∈ functions.insert name body) :
    entry ∈ functions ∨ entry.2 = body := by
  induction functions with
  | nil =>
    rcases List.mem_singleton.mp member with rfl
    exact .inr rfl
  | cons first rest ih =>
    rcases first with ⟨other, old⟩
    unfold FunctionTable.insert at member
    split at member
    · rcases List.mem_cons.mp member with rfl | later
      · exact .inr rfl
      · exact .inl (List.mem_cons_of_mem _ later)
    · rcases List.mem_cons.mp member with rfl | later
      · exact .inl (List.mem_cons_self ..)
      · exact (ih later).imp_left (List.mem_cons_of_mem _)

theorem AreReadable.insert (readable : functions.AreReadable) (name : Json) {body : Body} (added : BodyReadable body) :
    (functions.insert name body).AreReadable := by
  intro entry member
  rcases mem_insert member with old | same
  · exact readable entry old
  · exact same ▸ added

theorem foldlM_readable {add : FunctionTable → Instruction → Except KeyFault FunctionTable}
    (adds : ∀ functions node, functions.AreReadable → node.isDefinition = true → node.IsReadable false →
      ∃ table, add functions node = .ok table ∧ table.AreReadable)
    {definitions : Body} (readable : DefinitionsReadable definitions) (given : functions.AreReadable) :
    ∃ table, definitions.foldlM add functions = .ok table ∧ table.AreReadable := by
  induction definitions generalizing functions with
  | nil => exact ⟨functions, rfl, given⟩
  | cons node rest ih =>
    rcases readable node (List.mem_cons_self ..) with ⟨definition, shape⟩
    rcases adds functions node given definition shape with ⟨table, added, bodies⟩
    have others : DefinitionsReadable rest := fun f member => readable f (List.mem_cons_of_mem _ member)
    rw [List.foldlM_cons, added]
    exact ih others bodies

theorem ofDefinitions_readable {definitions : Body} (readable : DefinitionsReadable definitions) :
    ∃ functions, ofDefinitions definitions = .ok functions ∧ functions.AreReadable := by
  have empty : AreReadable [] := by
    intro entry member
    cases member
  unfold ofDefinitions
  apply foldlM_readable _ readable empty
  intro functions node given definition shape
  cases node with
  | define name body =>
    rcases shape with ⟨-, ⟨word, -, rfl⟩, inner⟩
    exact ⟨_, rfl, given.insert (.str word) inner⟩
  | _ => cases definition

theorem look_str (functions : FunctionTable) (word : String) :
    functions.look (.str word) = .ok (functions.body? (.str word)) := rfl

theorem body?_readable (readable : functions.AreReadable) {name : Json} {body : Body}
    (found : functions.body? name = some body) : BodyReadable body := by
  rcases Option.map_eq_some_iff.mp found with ⟨entry, listed, rfl⟩
  exact readable entry (List.mem_of_find?_eq_some listed)

theorem call_areSound (readable : functions.AreReadable) {limit : CallLimit} (numeric : limit.fault = none)
    (room : Nat) : AreSound (functions.call limit room) := by
  -- The bodies that a call leads to have room for one call less.
  induction room with
  | zero =>
    intro word trail endless
    rw [call, look_str]
    cases found : functions.body? (.str word) with
    | none => exact onward_isSound endless
    | some body =>
      simp only [CallLimit.halt, numeric]
      exact fail_isSound _ endless
  | succ room ih =>
    intro word trail endless
    rw [call, look_str]
    cases found : functions.body? (.str word) with
    | none => exact onward_isSound endless
    | some body => exact Instruction.bodyMeaning_isSound ih body (body?_readable readable found) endless

end FunctionTable

theorem meaning_isSound {program : Body} {functions : FunctionTable} (main : BodyReadable program)
    (readable : functions.AreReadable) {limit : CallLimit} (numeric : limit.fault = none) (world : World)
    {draws : Draws} (endless : draws.IsEndless) : (meaning program functions limit world draws).IsSound :=
  Instruction.bodyMeaning_isSound (functions.call_areSound readable numeric limit.depth) program main endless

namespace Ending

def IsProper (ending : Ending) : Prop :=
  ending = .success ∨ ending = .aborted ∨ (ending.outcome = "failure" ∧
    ending.reason? ∈ [some "CollisionDetected", some "LoopLimitExceeded", some "CallDepthExceeded", some "GoalNotReached"])

theorem failed_isProper (failure : RunFailure) : (Ending.failed failure).IsProper := by
  refine .inr (.inr ⟨rfl, ?_⟩)
  cases failure <;> simp [reason?, RunFailure.reason]

end Ending

namespace Course

theorem ending_eq_success (course : Course) :
    course.ending = .success ↔ course.halt = none ∧ course.trail.world.atGoal = true := by
  rcases course with ⟨trail, halt⟩
  cases halt with
  | none =>
    by_cases there : trail.world.atGoal = true
    · simp [ending, there]
    · simp [ending, there]
  | some halt => cases halt <;> simp [ending, Halt.ending]

theorem ending_ne_aborted (course : Course) : course.ending ≠ .aborted := by
  rcases course with ⟨trail, halt⟩
  cases halt with
  | none =>
    by_cases there : trail.world.atGoal = true
    · simp [ending, there]
    · simp [ending, there]
  | some halt => cases halt <;> simp [ending, Halt.ending]

theorem IsSound.ending_ne_crashed {course : Course} (sound : course.IsSound) (fault : RunFault) :
    course.ending ≠ .crashed fault := by
  intro crashed
  exact sound.faultless fault ((course.ending_eq_crashed fault).mp crashed)

theorem IsSound.ending_isProper {course : Course} (sound : course.IsSound) : course.ending.IsProper := by
  rcases course with ⟨trail, halt⟩
  cases halt with
  | none =>
    by_cases there : trail.world.atGoal = true
    · exact .inl (if_pos there)
    · have missed : (Course.mk trail none).ending = .goalMissed := if_neg there
      rw [missed]
      exact .inr (.inr ⟨rfl, by decide⟩)
  | some halt =>
    cases halt with
    | failure failure => exact Ending.failed_isProper failure
    | fault fault => exact (sound.faultless fault rfl).elim

end Course

namespace Engine

variable {e next : Engine} {course : Course}

theorem LeadsTo.of_same (leads : e.LeadsTo course) (same : e.SameRun next) (world : next.world = e.world) :
    next.LeadsTo course := by
  have trail : next.trail = e.trail := by
    rw [Engine.trail, world, same.draws, same.executed]
    rfl
  unfold LeadsTo Engine.rest restFrom at leads ⊢
  rwa [same.phase, same.functions, same.callLimit, trail]

section Attend

variable (visits : Nat → List Meddling)

theorem attend_leadsTo (handsOff : ∀ n, ∀ m ∈ visits n, m.IsHandsOff) (first : e.LeadsTo course) (n : Nat) :
    (e.attend visits n).IsBrokenOff ∨ (e.attend visits n).LeadsTo course := by
  apply attend_induction visits (P := fun reached => reached.IsBrokenOff ∨ reached.LeadsTo course) (.inr first)
  rintro n active (broken | leads)
  · rw [broken.over] at active
    cases active
  · exact advance_leadsTo (leads.of_same (visit_sameRun (visits n) active) (visit_world active (handsOff n)))

theorem attend_pace (n : Nat) : (e.attend visits n).baseDelay = e.baseDelay ∧ (e.attend visits n).speed = e.speed := by
  apply attend_keeps visits (P := fun reached => reached.baseDelay = e.baseDelay ∧ reached.speed = e.speed)
  · intro reached next same kept
    exact ⟨same.baseDelay.trans kept.1, same.speed.trans kept.2⟩
  · intro reached kept
    have advanced := reached.advance_pace
    exact ⟨advanced.baseDelay.trans kept.1, advanced.speed.trans kept.2⟩
  · exact ⟨rfl, rfl⟩

end Attend

theorem fault?_of_unbroken {result : RunResult} (ended : e.result? = some result)
    (unbroken : ∀ fault, result.ending ≠ .crashed fault) : e.fault? = none := by
  cases broken : e.fault? with
  | none => rfl
  | some fault => exact (unbroken fault ((fault?_of_result ended fault).mp broken)).elim

theorem answer_of_failed {node : Instruction} {rest : Body} (functions : FunctionTable) {speed interactive : Json}
    {fault : PauseFault} (alone : interactive.isTruthy = false)
    (failed : Pause.atSpeed speed e.baseDelay = .error fault) :
    (e.armed (node :: rest) functions speed interactive).answer (fun _ => []) 0 = .error (.pause fault) := by
  have breaks := armed_breaks functions interactive node rest speed alone failed
  have first : (e.armed (node :: rest) functions speed interactive).attend (fun _ => []) 1 =
      (e.armed (node :: rest) functions speed interactive).advance := attend_succ_of_active _ rfl
  have finished : ((e.armed (node :: rest) functions speed interactive).attend (fun _ => []) 1).isActive = false := by
    rw [first, breaks]
    rfl
  rw [answer_at_end _ rfl finished, first, breaks]
  rfl

theorem result_of_over (reached : e.IsBrokenOff ∨ e.LeadsTo course) (finished : e.isActive = false) :
    ∃ result, e.result? = some result ∧ (result.ending = .aborted ∨ result = course.result ∨
      ∃ fault, result.ending = .crashed (.pause fault) ∧ Pause.atSpeed e.speed e.baseDelay = .error fault) := by
  rcases reached with broken | leads
  · cases broken with
    | @cancelled result phase aborted requested => exact ⟨result, by simp [result?, phase], .inl aborted⟩
    | @faltered fault falters =>
      rcases result_of_fault falters.1 with ⟨result, phase, crashed⟩
      exact ⟨result, by simp [result?, phase], .inr (.inr ⟨fault, crashed, failed_of_delay falters.2⟩)⟩
  · exact ⟨course.result, (leads.reached finished).1, .inr (.inl rfl)⟩

end Engine

namespace ProgramFile

theorem IsReadable.meaning_isSound {file : ProgramFile} (readable : file.IsReadable) :
    ∃ table, file.table = .ok table ∧ ∀ {limit : CallLimit} {draws : Draws} (world : World), limit.fault = none →
      draws.IsEndless → (meaning file.main table limit world draws).IsSound := by
  rcases FunctionTable.ofDefinitions_readable readable.functions with ⟨table, defined, bodies⟩
  refine ⟨table, defined, ?_⟩
  intro limit draws world numeric endless
  exact GridRobot.meaning_isSound readable.main bodies numeric world endless

/-- A program that was read makes a table of its functions, and its runs come to their end without a fault, however
the host visits them, unless a pause cannot be computed: with success just where the program comes to its end on the
goal, aborted, or with one of the four failures. -/
theorem read_runs_safely {source : Source} {file : ProgramFile} (accepted : (read source).outcome = .ok file) :
    ∃ table, file.table = .ok table ∧
      ∀ {e : Engine} {speed : Json} (interactive : Json) {visits : Nat → List Meddling}, e.isActive = false →
        Relation.greater.check speed (.int 0) = .ok true → e.callLimit.fault = none → e.draws.IsEndless →
        (∀ n, ∀ m ∈ visits n, m.IsHandsOff) →
        ∃ first last result, e.begin file.main table speed interactive = (first, .ok ()) ∧
          (∀ n < last, ∃ suspension, first.answer visits n = .ok (some suspension)) ∧
          (first.attend visits (last + 1)).result? = some result ∧
          ((first.answer visits last = .ok none ∧ result.ending.IsProper ∧
              (result.ending = .success ↔ result.ending ≠ .aborted ∧
                (meaning file.main table e.callLimit e.world e.draws).halt = none ∧ result.world.atGoal = true)) ∨
            ∃ fault, Pause.atSpeed speed e.baseDelay = .error fault ∧
              first.answer visits last = .error (.pause fault)) := by
  rcases (read_readable accepted).meaning_isSound with ⟨table, defined, sound⟩
  refine ⟨table, defined, ?_⟩
  intro e speed interactive visits idle positive numeric endless handsOff
  have begun := Engine.begin_eq_armed file.main table interactive idle positive
  have within := Engine.armed_isWithin file.main table speed interactive e
  rcases Engine.exists_last visits rfl (within.over visits) with ⟨last, -, before, after⟩
  have reached := Engine.attend_leadsTo visits handsOff
    (Engine.leadsTo_meaning file.main table interactive speed e) (last + 1)
  have answered := Engine.answer_at_end visits before after
  have suspends : ∀ n < last, ∃ suspension,
      (e.armed file.main table speed interactive).answer visits n = .ok (some suspension) := by
    intro n less
    exact Engine.answer_of_active visits (Engine.attend_active_of_le visits less before)
  -- Stopped by its host, led to where the plain reading leads, or broken at a pause.
  rcases Engine.result_of_over reached after with ⟨result, ended, aborted | rfl | ⟨fault, crashed, failed⟩⟩
  · refine ⟨_, last, result, begun, suspends, ended, .inl ⟨?_, .inr (.inl aborted), ?_⟩⟩
    · rw [answered, Engine.fault?_of_unbroken ended]
      intro fault crashed
      rw [aborted] at crashed
      cases crashed
    · simp [aborted]
  · have free := sound e.world numeric endless
    refine ⟨_, last, _, begun, suspends, ended, .inl ⟨?_, free.ending_isProper, ?_⟩⟩
    · rw [answered, Engine.fault?_of_unbroken ended free.ending_ne_crashed]
    · simp [Course.result, Course.ending_eq_success, Course.ending_ne_aborted]
  · refine ⟨_, last, result, begun, suspends, ended, .inr ⟨fault, ?_, ?_⟩⟩
    · rcases Engine.attend_pace (e := e.armed file.main table speed interactive) visits (last + 1) with ⟨base, kept⟩
      rw [base, kept] at failed
      exact failed
    · rw [answered, (Engine.fault?_of_result ended _).mpr crashed]

/-- A loop around a function that calls itself at random and for ever, written to a file and read back, with a host that
changes its mind about stepping and stops the run in the end. -/
theorem read_runs_safely_nested :
    let main : Body := [.whileDo (.negate .empty) [.call (.str "f"), .ifThen (.sensor .coin) [.assign .r1 (.int (-3))]]]
    let functions : Body := [.define (.str "f") [.repeatTimes (.int 2) [.ifThen (.sensor .coin) [.call (.str "f")]],
      .turnLeft]]
    let e : Engine :=
      { world := .ofBoard { size := 3, start := ⟨⟨0, 0⟩, .right, false⟩, goal := ⟨2, 0⟩, obstacles := [] }
        draws := .ofSeed 7, observers := [.console "Run" true], baseDelay := .num (.float Binary64.half)
        callLimit := .ofInt 3 }
    let visits (n : Nat) : List Meddling :=
      [.interactive (.bool (n % 2 == 0)), if n = 200 then .cancel else .begin [] [] (.int 1) (.bool false)]
    let document := programDocument main functions (.int 1) (.str "Start") (.str "today")
    ∃ file table, (read (.document document)).outcome = .ok file ∧ file.main = main ∧ file.table = .ok table ∧
      ∃ first last result, e.begin main table (.num (.float defaultSpeed)) (.bool true) = (first, .ok ()) ∧
        first.answer visits last = .ok none ∧ (first.attend visits (last + 1)).result? = some result ∧
        result.ending.IsProper := by
  intro main functions e visits document
  have readable : IsReadable
      { level := .number 1, levelName := "Start", functions, main, exportDate := "today", version := fileVersion
        warnings := [] } := by
    refine ⟨?_, ?_, by decide⟩
    · simp [main, BodyReadable, Instruction.IsReadable, Condition.IsReadable]
    · simp [functions, DefinitionsReadable, Instruction.isDefinition, BodyReadable, Instruction.IsReadable,
        Condition.IsReadable]
  have accepted : (read (.document document)).outcome = _ :=
    congrArg Scan.outcome (read_decoded rfl (ofDocument_programDocument readable "today"))
  have above : Number.lt (.int 0) (.float defaultSpeed) = true := by decide +kernel
  have positive : Relation.greater.check (.num (.float defaultSpeed)) (.int 0) = .ok true := congrArg Except.ok above
  have handsOff : ∀ n, ∀ m ∈ visits n, m.IsHandsOff := by
    intro n m member
    simp only [visits, List.mem_cons, List.not_mem_nil, or_false] at member
    rcases member with rfl | rfl
    · trivial
    · split <;> trivial
  rcases read_runs_safely accepted with ⟨table, defined, safe⟩
  rcases safe (e := e) (.bool true) rfl positive rfl (Draws.ofSeed_isEndless 7) handsOff with
    ⟨first, last, result, begun, -, ended, ⟨nothing, proper, -⟩ | ⟨fault, failed, -⟩⟩
  · exact ⟨_, table, accepted, rfl, defined, first, last, result, begun, nothing, ended, proper⟩
  · have computed : Pause.atSpeed (.num (.float defaultSpeed)) e.baseDelay = _ := Pause.atSpeed_float _ _
    rw [computed] at failed
    cases failed

/-- A program that turns once breaks where an integer beyond every double is divided: one for the pause at speed 1, or
one for the speed. -/
theorem read_runs_falters :
    let turn : Fields := [("type", .str "turnLeft")]
    let fields : Fields := [("version", .str "1.0"), ("mainProgram", .arr [.obj turn])]
    let e (baseDelay : Json) : Engine :=
      { world := .ofBoard { size := 3, start := ⟨⟨0, 0⟩, .right, false⟩, goal := ⟨0, 0⟩, obstacles := [] }
        draws := .ofSeed 7, observers := [], baseDelay, callLimit := .ofInt 50 }
    ∃ file, (read (.document (.obj fields))).outcome = .ok file ∧ file.table = .ok [] ∧
      ∀ pair ∈ [(Json.int (Nat.pow 2 1024), Json.num (.float ⟨0x3ff0000000000000⟩)),
          (Json.num (.float Binary64.half), Json.int (Nat.pow 2 1024))],
        Relation.greater.check pair.2 (.int 0) = .ok true ∧ (e pair.1).callLimit.fault = none ∧
          (e pair.1).draws.IsEndless ∧
          ((e pair.1).armed file.main [] pair.2 (.bool false)).answer (fun _ => []) 0 =
            .error (.pause .integerTooLarge) := by
  intro turn fields e
  have readTurn : readInstruction true (.obj turn) = ⟨[], .ok .turnLeft⟩ := by
    have known : Fields.kind turn = .ok (some .turnLeft) := rfl
    rw [readInstruction_kind true known]
    rfl
  have nodes : readNodes [.obj turn] = ⟨[], .ok [.turnLeft]⟩ := by
    rw [readNodes, readNodes, readTurn]
    rfl
  have versioned : ofDocument (.obj fields) = (ofFields fields).mapError .node := ofDocument_versioned rfl
  have program : ofFields fields = _ := ofFields_parts rfl rfl rfl nodes
  rw [program] at versioned
  have accepted : (read (.document (.obj fields))).outcome = _ := congrArg Scan.outcome (read_decoded rfl versioned)
  have large : (Binary64.ofInt (Nat.pow 2 1024)).isInfinite = true := by decide +kernel
  have huge : Pause.double (.int (Nat.pow 2 1024)) = .error .integerTooLarge := by
    rw [Pause.double, if_pos large]
  refine ⟨_, accepted, rfl, ?_⟩
  intro pair member
  simp only [List.mem_cons, List.not_mem_nil, or_false] at member
  rcases member with rfl | rfl
  · have above : Number.lt (.int 0) (.float ⟨0x3ff0000000000000⟩) = true := by decide +kernel
    have failed : Pause.atSpeed (.num (.float ⟨0x3ff0000000000000⟩)) (.int (Nat.pow 2 1024)) = .error .integerTooLarge := by
      simp only [Pause.atSpeed, Json.number?, Pause.quotient, huge]
      rfl
    exact ⟨congrArg Except.ok above, rfl, Draws.ofSeed_isEndless 7, Engine.answer_of_failed [] rfl failed⟩
  · have above : Number.lt (.int 0) (.int (Nat.pow 2 1024)) = true := by decide +kernel
    have failed : Pause.atSpeed (.int (Nat.pow 2 1024)) (.num (.float Binary64.half)) = .error .integerTooLarge := by
      simp only [Pause.atSpeed, Json.number?, Pause.quotient, huge]
      rfl
    exact ⟨congrArg Except.ok above, rfl, Draws.ofSeed_isEndless 7, Engine.answer_of_failed [] rfl failed⟩

end ProgramFile

end GridRobot
