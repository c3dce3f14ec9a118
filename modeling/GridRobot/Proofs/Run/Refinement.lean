import GridRobot.Proofs.Run.Reading

/-!
The engine against the plain reading of a program. `Frame.stackCourse` reads what a stack of frames has
left to do, and `LeadsTo` says that a run still leads where its program does; `advance` keeps that, and
so every run that nobody stops ends where `meaning` says.
-/
namespace GridRobot

open Instruction (bodyMeaning)

namespace Frame

/-- What calls do that are made from above some frames. -/
def callsOver (functions : FunctionTable) (limit : CallLimit) (frames : List Frame) : Json → Trail → Course :=
  functions.call limit (limit.depth - callDepth frames)

def stackCourse (functions : FunctionTable) (limit : CallLimit) : List Frame → Trail → Course
  | [], trail => trail.onward
  | frame :: outer, trail =>
    (frame.course (callsOver functions limit outer) trail).andThen (stackCourse functions limit outer)

variable (functions : FunctionTable) (limit : CallLimit)

theorem callsOver_isSteady : Reading.IsSteady (callsOver functions limit) := by
  intro frame frames inner
  rw [callsOver, callsOver, callDepth_inner inner]

theorem courseBy_callsOver (frames : List Frame) :
    courseBy (callsOver functions limit) frames = stackCourse functions limit frames := by
  induction frames with
  | nil => rfl
  | cons frame outer ih =>
    funext trail
    rw [courseBy, stackCourse, ih]

variable {functions limit}

theorem callsOver_calling {frames : List Frame} {name : Json} {body : Body}
    (room : callDepth frames < limit.depth)
    (found : functions.look name = .ok (some body)) (trail : Trail) :
    callsOver functions limit frames name trail =
      bodyMeaning (callsOver functions limit (.calling name :: frames)) body trail := by
  unfold callsOver
  rw [calls_left room name, FunctionTable.call, found]

theorem callsOver_full {frames : List Frame} {name : Json} {body : Body}
    (full : limit.depth ≤ callDepth frames)
    (found : functions.look name = .ok (some body)) (trail : Trail) :
    callsOver functions limit frames name trail = trail.stop (limit.halt name) := by
  have here : limit.depth - callDepth frames = 0 := by omega
  simp only [callsOver, here, FunctionTable.call, found]

theorem callsOver_undefined {frames : List Frame} {name : Json} (missing : functions.look name = .ok none)
    (trail : Trail) : callsOver functions limit frames name trail = trail.onward :=
  FunctionTable.call_undefined missing limit _ trail

theorem callsOver_fault {frames : List Frame} {name : Json} {fault : KeyFault}
    (unusable : functions.look name = .error fault) (trail : Trail) :
    callsOver functions limit frames name trail = trail.stop (.fault (.name fault)) := by
  unfold callsOver FunctionTable.call
  simp only [unusable]

end Frame

namespace Engine

def trail (e : Engine) : Trail := ⟨e.world, e.draws, e.executed⟩

def rest (e : Engine) (frames : List Frame) : Course := Frame.stackCourse e.functions e.callLimit frames e.trail

def restFrom (e : Engine) (node : Instruction) (frames : List Frame) : Course :=
  (node.meaning (Frame.callsOver e.functions e.callLimit frames) e.trail).andThen
    (Frame.stackCourse e.functions e.callLimit frames)

/-- A run ends as a course does: it has ended so, or what is left of it leads there. -/
def LeadsTo (course : Course) (e : Engine) : Prop :=
  match e.phase with
  | .idle => False
  | .active none frames => e.rest frames = course
  | .active (some suspension) frames => e.restFrom suspension.node frames = course
  | .completed result => result = course.result ∧ e.trail = course.trail

theorem LeadsBy.leadsTo {e : Engine} {course : Course} {functions : FunctionTable} {limit : CallLimit}
    (leads : e.LeadsBy (Frame.callsOver functions limit) 0 course) (sameFunctions : e.functions = functions)
    (sameLimit : e.callLimit = limit) : e.LeadsTo course := by
  obtain ⟨counted, counts, there⟩ := leads
  obtain rfl : e.executed = counted := counts
  subst sameFunctions sameLimit
  simp only [Frame.courseFrom, Frame.courseBy_callsOver] at there
  unfold LeadsTo
  cases phase : e.phase with
  | idle =>
    rw [phase] at there
    exact there
  | active pending frames =>
    rw [phase] at there
    cases pending with
    | none => exact there
    | some suspension => exact there.2
  | completed result =>
    rw [phase] at there
    obtain ⟨rfl, reached⟩ := there
    refine ⟨?_, reached⟩
    rw [Course.result, ← reached]
    rfl

theorem stop_leadsTo (halt : Halt) (e : Engine) : (e.stop halt).LeadsTo (e.trail.stop halt) := ⟨rfl, rfl⟩

theorem conclude_leadsTo (e : Engine) : e.conclude.LeadsTo e.trail.onward := by
  have concluded := proceed_table e []
  rw [proceed] at concluded
  exact (conclude_leadsBy (Nat.add_zero e.executed).symm _).leadsTo concluded.1 concluded.2

theorem trail_announce (node : Instruction) (e : Engine) : (e.announce node).trail = e.trail.enter := by
  rw [trail, announce_executed]
  exact trailAt_announce e.executed node e

theorem enter_falters (node : Instruction) (frames : List Frame) {e : Engine} {fault : PauseFault}
    (running : e.cancelled = false) (failed : e.delay = .error fault) :
    e.enter node frames = (e.announce node).crash (.pause fault) := by
  have same : (e.announce node).delay = .error fault := (announce_terms node e).pace.delay.trans failed
  rw [enter_eq, same]
  simp [running]

theorem proceed_leadsTo (e : Engine) (frames : List Frame) :
    (e.proceed frames).IsBrokenOff ∨ (e.proceed frames).LeadsTo (e.rest frames) := by
  have counts : e.executed = e.executed + 0 := rfl
  have steady := Frame.callsOver_isSteady e.functions e.callLimit
  obtain ⟨sameFunctions, sameLimit⟩ := proceed_table e frames
  refine (proceed_leadsBy counts steady frames).imp_right fun leads => ?_
  rw [Frame.courseBy_callsOver] at leads
  exact leads.leadsTo sameFunctions sameLimit

theorem perform_rest {node : Instruction} {frames after : List Frame} {e next : Engine}
    (performed : e.perform node frames = .onward next after) : next.rest after = e.restFrom node frames := by
  have same := perform_terms performed
  have trail : next.trail = next.trailAt e.executed := congrArg next.trailAt same.executed
  rw [Engine.rest, restFrom, same.functions, same.callLimit, trail]
  cases node with
  | call name =>
    rcases call_onward performed with ⟨missing, rfl, rfl⟩ | ⟨body, found, room, rfl, rfl⟩
    · simp only [Instruction.meaning, Frame.callsOver_undefined missing]
      rfl
    · simp only [Instruction.meaning, Frame.callsOver_calling room found]
      rfl
  | _ =>
    have onward := perform_courseBy (by simp) (Frame.callsOver_isSteady e.functions e.callLimit) performed e.executed
    rwa [Frame.courseFrom, Frame.courseBy_callsOver, Frame.courseBy_callsOver] at onward

theorem perform_leadsTo {node : Instruction} {frames : List Frame} {e last : Engine}
    (performed : e.perform node frames = .ended last) : last.LeadsTo (e.restFrom node frames) := by
  rw [restFrom]
  cases node with
  | call name =>
    rcases call_ended performed with ⟨fault, unusable, rfl⟩ | ⟨body, found, full, rfl⟩
    · simp only [Instruction.meaning, Frame.callsOver_fault unusable]
      exact stop_leadsTo (.fault (.name fault)) e
    · simp only [Instruction.meaning, Frame.callsOver_full full found]
      exact stop_leadsTo (e.callLimit.halt name) e
  | _ =>
    obtain ⟨mid, halt, rfl, same, stopped⟩ := perform_halts (by simp) performed e.executed
      (Frame.callsOver e.functions e.callLimit frames)
    have here : e.trail = e.trailAt e.executed := rfl
    rw [here, stopped, ← same]
    exact stop_leadsTo halt mid

/-- One `advance` keeps where a run leads, unless it breaks the run off. -/
theorem advance_leadsTo {e : Engine} {course : Course} (leads : e.LeadsTo course) :
    e.advance.IsBrokenOff ∨ e.advance.LeadsTo course := by
  unfold LeadsTo at leads
  fun_cases advance e with
  | case1 frames phase =>
    rw [phase] at leads
    exact leads ▸ proceed_leadsTo e frames
  | case2 suspension frames phase cancelled => exact .inl (abort_isBrokenOff cancelled)
  | case3 suspension frames phase running next after performed =>
    rw [phase] at leads
    subst leads
    rw [← perform_rest performed]
    exact proceed_leadsTo next after
  | case4 suspension frames phase running last performed =>
    rw [phase] at leads
    subst leads
    exact .inr (perform_leadsTo performed)
  | case5 phase =>
    rw [phase] at leads
    exact leads.elim
  | case6 result phase =>
    right
    unfold LeadsTo
    exact leads

theorem drainFrom_of_over {e : Engine} (finished : e.advance.pending? = none) (seen : List Suspension) :
    (e.drainFrom seen).2 = e.advance := by
  unfold drainFrom
  split
  · rename_i more
    rw [finished] at more
    cases more
  · rfl

theorem drainFrom_of_pending {e : Engine} {suspension : Suspension} (pending : e.advance.pending? = some suspension)
    (seen : List Suspension) : e.drainFrom seen = e.advance.drainFrom (suspension :: seen) := by
  rw [drainFrom]
  split
  · rename_i found
    rw [pending] at found
    cases found
    rfl
  · rename_i finished
    rw [pending] at finished
    cases finished

theorem drainFrom_seen (e : Engine) (seen other : List Suspension) : (e.drainFrom seen).2 = (e.drainFrom other).2 := by
  fun_induction drainFrom seen e generalizing other with
  | case1 seen e suspension pending ih => rw [drainFrom_of_pending pending other, ih]
  | case2 seen e finished => rw [drainFrom_of_over finished]

theorem drainFrom_advance (e : Engine) (seen other : List Suspension) :
    (e.drainFrom seen).2 = (e.advance.drainFrom other).2 := by
  cases pending : e.advance.pending? with
  | none =>
    have rests := advance_of_over (over_of_pending pending)
    rw [drainFrom_of_over pending, drainFrom_of_over (by rwa [rests]), rests]
  | some suspension =>
    rw [drainFrom_of_pending pending]
    exact drainFrom_seen _ _ _

theorem drainFrom_keeps {P : Engine → Prop} (step : ∀ {e : Engine}, P e → e.advance.IsBrokenOff ∨ P e.advance)
    (seen : List Suspension) {e : Engine} (paced : e.IsPaced) (holds : P e)
    (undisturbed : (e.drainFrom seen).2.cancelled = false) : P (e.drainFrom seen).2 := by
  fun_induction drainFrom seen e with
  | case1 seen e suspension pending ih =>
    rcases step holds with broken | onward
    · have finished := broken.over
      rw [isActive_of_pending pending] at finished
      cases finished
    · exact ih ((advance_pace e).isPaced paced) onward undisturbed
  | case2 seen e finished =>
    rcases step holds with broken | reached
    · cases broken with
      | cancelled phase aborted requested =>
        rw [undisturbed] at requested
        cases requested
      | faltered falters =>
        rcases (advance_pace e).isPaced paced with ⟨pause, computed⟩
        have failed := falters.2
        rw [computed] at failed
        cases failed
    · exact reached

theorem drainFrom_leadsTo (seen : List Suspension) {e : Engine} {course : Course}
    (leads : e.IsPaced ∧ e.LeadsTo course) (undisturbed : (e.drainFrom seen).2.cancelled = false) :
    (e.drainFrom seen).2.LeadsTo course :=
  drainFrom_keeps advance_leadsTo seen leads.1 leads.2 undisturbed

theorem drainFrom_over (seen : List Suspension) (e : Engine) : (e.drainFrom seen).2.isActive = false := by
  fun_induction drainFrom seen e with
  | case1 seen e suspension pending ih => exact ih
  | case2 seen e finished => exact over_of_pending finished

theorem fault?_of_result {e : Engine} {result : RunResult} (ended : e.result? = some result)
    (fault : RunFault) :
    e.fault? = some fault ↔ result.ending = .crashed fault := by
  unfold result? at ended
  split at ended
  · rename_i phase
    cases ended
    obtain ⟨ending, world, executed⟩ := result
    cases ending <;> simp [fault?, phase]
  · cases ended

end Engine

theorem Course.ending_eq_crashed (course : Course) (fault : RunFault) :
    course.ending = .crashed fault ↔ course.halt = some (.fault fault) := by
  obtain ⟨trail, halt⟩ := course
  cases halt with
  | none =>
    simp only [ending]
    split <;> simp
  | some halt => cases halt <;> simp [ending, Halt.ending]

/-- A program with pauses that cannot be computed is broken off at its first instruction, if it has one. -/
def Course.faltering (fault : PauseFault) (program : Body) (trail : Trail) : Course :=
  match program with
  | [] => trail.onward
  | _ :: _ => trail.enter.stop (.fault (.pause fault))

/-- A drained run ended as a course does: with its result, its world and its random numbers, and the host
is told of a fault just where the course has one. -/
structure Engine.EndsAs (course : Course) (drained : Engine × Except HostError (List Suspension)) : Prop where
  result : drained.1.result? = some course.result
  world : drained.1.world = course.trail.world
  draws : drained.1.draws = course.trail.draws
  raised : ∀ fault, drained.2 = .error (.fault fault) ↔ course.halt = some (.fault fault)

namespace Engine

theorem LeadsTo.reached {e : Engine} {course : Course} (leads : e.LeadsTo course)
    (finished : e.isActive = false) :
    e.result? = some course.result ∧ e.trail = course.trail := by
  unfold LeadsTo at leads
  unfold isActive at finished
  cases phase : e.phase with
  | idle =>
    rw [phase] at leads
    exact leads.elim
  | active pending frames =>
    rw [phase] at finished
    cases finished
  | completed result =>
    rw [phase] at leads
    rcases leads with ⟨rfl, reached⟩
    unfold result?
    rw [phase]
    exact ⟨rfl, reached⟩

theorem drain_of_active {e : Engine} (active : e.isActive = true) : e.drain.1 = (e.drainFrom []).2 := by
  unfold drain
  rw [if_pos active]
  dsimp only
  split <;> rfl

theorem drain_raised {e : Engine} (active : e.isActive = true) (fault : RunFault) :
    e.drain.2 = .error (.fault fault) ↔ (e.drainFrom []).2.fault? = some fault := by
  unfold drain
  rw [if_pos active]
  dsimp only
  split
  · rename_i found
    simp [found]
  · rename_i found
    simp [found]

theorem drain_endsAs {e : Engine} {course : Course} (active : e.isActive = true)
    (leads : (e.drainFrom []).2.LeadsTo course) : EndsAs course e.drain := by
  rcases leads.reached (e.drainFrom_over []) with ⟨ended, reached⟩
  constructor
  · rw [drain_of_active active]
    exact ended
  · rw [drain_of_active active]
    exact congrArg Trail.world reached
  · rw [drain_of_active active]
    exact congrArg Trail.draws reached
  · intro fault
    rw [drain_raised active, fault?_of_result ended, ← course.ending_eq_crashed]
    rfl

variable {e : Engine} (program : Body) (functions : FunctionTable) {speed : Json} (interactive : Json)

theorem delay_armed (e : Engine) (speed : Json) : (e.armed program functions speed interactive).delay =
    if interactive.isTruthy then .ok (Binary64.zero false) else Pause.atSpeed speed e.baseDelay := rfl

theorem leadsTo_meaning (speed : Json) (e : Engine) :
    (e.armed program functions speed interactive).LeadsTo (meaning program functions e.callLimit e.world e.draws) :=
  Course.andThen_onward (meaning program functions e.callLimit e.world e.draws)

theorem armed_leadsTo (speed : Json)
    (paced : interactive.isTruthy = true ∨ ∃ pause, Pause.atSpeed speed e.baseDelay = .ok pause) :
    (e.armed program functions speed interactive).IsPaced ∧
      (e.armed program functions speed interactive).LeadsTo
        (meaning program functions e.callLimit e.world e.draws) := by
  have computed : (e.armed program functions speed interactive).IsPaced := by
    unfold IsPaced
    rw [delay_armed]
    -- Whoever steps through a run waits for nothing, so the speed is not looked at.
    rcases paced with stepped | ⟨pause, computed⟩
    · exact ⟨_, if_pos stepped⟩
    · by_cases stepped : interactive.isTruthy = true
      · exact ⟨_, if_pos stepped⟩
      · exact ⟨pause, (if_neg stepped).trans computed⟩
  exact ⟨computed, leadsTo_meaning program functions interactive speed e⟩

theorem armed_breaks (node : Instruction) (rest : Body) (speed : Json) {fault : PauseFault}
    (alone : interactive.isTruthy = false) (failed : Pause.atSpeed speed e.baseDelay = .error fault) :
    (e.armed (node :: rest) functions speed interactive).advance =
      ((e.armed (node :: rest) functions speed interactive).announce node).crash (.pause fault) := by
  have unpaced : (e.armed (node :: rest) functions speed interactive).delay = .error fault := by
    rw [delay_armed, alone]
    exact failed
  have advanced : (e.armed (node :: rest) functions speed interactive).advance =
      (e.armed (node :: rest) functions speed interactive).proceed [.block (node :: rest)] := rfl
  rw [advanced, proceed]
  exact enter_falters node _ (cancelled_logAs _ _ _) unpaced

theorem armed_falters (speed : Json) {fault : PauseFault} (alone : interactive.isTruthy = false)
    (failed : Pause.atSpeed speed e.baseDelay = .error fault) :
    ((e.armed program functions speed interactive).drainFrom []).2.LeadsTo
      (Course.faltering fault program ⟨e.world, e.draws, 0⟩) := by
  cases program with
  | nil =>
    have ends : (e.armed [] functions speed interactive).advance = (e.armed [] functions speed interactive).conclude := by
      have advanced : (e.armed [] functions speed interactive).advance =
          (e.armed [] functions speed interactive).proceed [.block []] := rfl
      rw [advanced, proceed, proceed]
    have finished : (e.armed [] functions speed interactive).advance.pending? = none := by
      rw [ends, conclude]
      split <;> rfl
    rw [drainFrom_of_over finished, ends]
    exact conclude_leadsTo _
  | cons node rest =>
    have breaks := armed_breaks functions interactive node rest speed alone failed
    have finished : (e.armed (node :: rest) functions speed interactive).advance.pending? = none := by
      rw [breaks]
      rfl
    rw [drainFrom_of_over finished, breaks, crash]
    have leads := stop_leadsTo (.fault (.pause fault)) ((e.armed (node :: rest) functions speed interactive).announce node)
    rwa [trail_announce] at leads

/-- Where a run leads if nobody stops it: where its program does, unless its pauses cannot be computed. -/
def prospect (speed : Json) (e : Engine) : Course :=
  match (e.armed program functions speed interactive).delay with
  | .ok _ => meaning program functions e.callLimit e.world e.draws
  | .error fault => Course.faltering fault program ⟨e.world, e.draws, 0⟩

theorem armed_endsAs_prospect (speed : Json)
    (undisturbed : (e.armed program functions speed interactive).drain.1.cancelled = false) :
    EndsAs (e.prospect program functions interactive speed) (e.armed program functions speed interactive).drain := by
  have active : (e.armed program functions speed interactive).isActive = true := rfl
  apply drain_endsAs active
  rw [drain_of_active active] at undisturbed
  unfold prospect
  cases delay : (e.armed program functions speed interactive).delay with
  | ok pause =>
    exact drainFrom_leadsTo [] ⟨⟨pause, delay⟩, leadsTo_meaning program functions interactive speed e⟩ undisturbed
  | error fault =>
    have alone : interactive.isTruthy = false := by
      cases stepped : interactive.isTruthy with
      | false => rfl
      | true => simp [delay_armed, stepped] at delay
    exact armed_falters program functions interactive speed alone (failed_of_delay delay)

variable {interactive}

/-- A run that is begun and then advanced to its end, with nobody stopping it, ends where its program
leads. The only exception are pauses that cannot be computed, where a run that nobody steps through
breaks at its first instruction. -/
theorem drain_endsAs_meaning (idle : e.isActive = false)
    (positive : Relation.greater.check speed (.int 0) = .ok true)
    (undisturbed : (e.begin program functions speed interactive).1.drain.1.cancelled = false) :
    (e.begin program functions speed interactive).2 = .ok () ∧
      (interactive.isTruthy = true ∨ (∃ pause, Pause.atSpeed speed e.baseDelay = .ok pause) →
        EndsAs (meaning program functions e.callLimit e.world e.draws)
          (e.begin program functions speed interactive).1.drain) ∧
      ∀ fault, interactive.isTruthy = false → Pause.atSpeed speed e.baseDelay = .error fault →
        EndsAs (Course.faltering fault program ⟨e.world, e.draws, 0⟩)
          (e.begin program functions speed interactive).1.drain := by
  rw [begin_eq_armed program functions interactive idle positive] at undisturbed ⊢
  have active : (e.armed program functions speed interactive).isActive = true := rfl
  refine ⟨rfl, fun paced => ?_, fun fault alone failed => ?_⟩
  · apply drain_endsAs active
    rw [drain_of_active active] at undisturbed
    exact drainFrom_leadsTo [] (armed_leadsTo program functions interactive speed paced) undisturbed
  · exact drain_endsAs active (armed_falters program functions interactive speed alone failed)

/-- A loop around a function that calls itself at random, until the random numbers run out. -/
theorem drain_endsAs_meaning_nested :
    let e : Engine :=
      { world := .ofBoard { size := 3, start := ⟨⟨0, 0⟩, .right, false⟩, goal := ⟨2, 0⟩, obstacles := [] }
        draws := .ofList [.num (.float ⟨0x3fd0000000000000⟩), .num (.float ⟨0x3fe8000000000000⟩),
          .num (.float ⟨0x3fd0000000000000⟩)]
        observers := [.silent], baseDelay := .num (.float ⟨0x3fe0000000000000⟩), callLimit := .ofInt 3 }
    let functions : FunctionTable :=
      [(.str "f", [.repeatTimes (.int 2) [.increment .r1, .ifThen (.sensor .coin) [.call (.str "f")], .turnRight],
        .turnLeft])]
    let program : Body := [.whileDo (.negate (.sensor .wallAhead)) [.move, .call (.str "f")]]
    EndsAs (meaning program functions e.callLimit e.world e.draws)
        (e.begin program functions (.num (.float defaultSpeed)) (.bool false)).1.drain ∧
      (meaning program functions e.callLimit e.world e.draws).ending = .crashed .drawsExhausted ∧
      (meaning program functions e.callLimit e.world e.draws).trail.executed = 17 := by
  intro e functions program
  have above : Number.lt (.int 0) (.float defaultSpeed) = true := by decide +kernel
  have positive : Relation.greater.check (.num (.float defaultSpeed)) (.int 0) = .ok true := congrArg Except.ok above
  have undisturbed :
      (e.begin program functions (.num (.float defaultSpeed)) (.bool false)).1.drain.1.cancelled = false := by
    decide +kernel
  obtain ⟨-, ends, -⟩ := drain_endsAs_meaning program functions rfl positive undisturbed
  exact ⟨ends (.inr ⟨_, Pause.atSpeed_float _ _⟩), by decide +kernel, by decide +kernel⟩

/-- A run that would succeed breaks where an integer beyond every double is divided: one for the pause at
speed 1, or one for the speed. -/
theorem drain_falters_of_integerTooLarge :
    let e (baseDelay : Json) : Engine :=
      { world := .ofBoard { size := 3, start := ⟨⟨0, 0⟩, .right, false⟩, goal := ⟨0, 0⟩, obstacles := [] }
        draws := .ofList [], observers := [], baseDelay, callLimit := .ofInt 50 }
    let begun (baseDelay speed : Json) := (e baseDelay).begin [.turnLeft] [] speed (.bool false)
    let falters (baseDelay speed : Json) : Prop :=
      Relation.greater.check speed (.int 0) = .ok true ∧ (begun baseDelay speed).2 = .ok () ∧
        (begun baseDelay speed).1.drain.1.cancelled = false ∧
        (begun baseDelay speed).1.drain.1.result?.map RunResult.ending = some (.crashed (.pause .integerTooLarge)) ∧
        (meaning [.turnLeft] [] (e baseDelay).callLimit (e baseDelay).world (e baseDelay).draws).ending = .success
    falters (.int (Nat.pow 2 1024)) (.num (.float ⟨0x3ff0000000000000⟩)) ∧
      falters (.num (.float ⟨0x3fe0000000000000⟩)) (.int (Nat.pow 2 1024)) := by
  intro e begun falters
  have accepted {baseDelay speed : Json} (positive : Relation.greater.check speed (.int 0) = .ok true) :
      (begun baseDelay speed).2 = .ok () := congrArg Prod.snd (begin_eq_armed [.turnLeft] [] (.bool false) rfl positive)
  constructor
  · have above : Number.lt (.int 0) (.float ⟨0x3ff0000000000000⟩) = true := by decide +kernel
    have positive : Relation.greater.check (.num (.float ⟨0x3ff0000000000000⟩)) (.int 0) = .ok true :=
      congrArg Except.ok above
    exact ⟨positive, accepted positive, by decide +kernel, by decide +kernel, by decide +kernel⟩
  · have above : Number.lt (.int 0) (.int (Nat.pow 2 1024)) = true := by decide +kernel
    have positive : Relation.greater.check (.int (Nat.pow 2 1024)) (.int 0) = .ok true := congrArg Except.ok above
    exact ⟨positive, accepted positive, by decide +kernel, by decide +kernel, by decide +kernel⟩

end Engine

end GridRobot
