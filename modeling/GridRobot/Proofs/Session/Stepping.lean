import GridRobot.Proofs.Run.Calls
import GridRobot.Proofs.Session.Refusal

/-!
How a run is stepped through. Between two things that happen to it a session is at rest: its run is over, or it stands
at a suspension, where it waits for a step just if somebody steps through it, and else sits in a delay. There is one
other place where it can be left: a delay that is too long to be waited out strands the run, and nothing drives it any
more.
-/
namespace GridRobot

/-! ### Pauses of no length -/

namespace Binary64

theorem value_nearest_zero (negative : Bool) (den : Nat) : (nearest negative 0 den).value = .finite 0 := by
  rw [nearest, if_pos rfl]
  exact value_zero negative

theorem isPositive_of_value {x : Binary64} (small : x.value = .nan ∨ x.value = .finite 0) : x.isPositive = false := by
  unfold isPositive lt
  rw [value_zero]
  rcases small with small | small
  · rw [small]
    rfl
  · rw [small]
    rfl

theorem isPositive_zero_div {x : Binary64} (zero : x.value = .finite 0) (y : Binary64) : (x.div y).isPositive = false := by
  apply isPositive_of_value
  unfold div
  rw [zero]
  cases there : y.value with
  | nan => exact .inl there
  | infinite negative => exact .inr (value_nearest_zero (x.negative != y.negative) 1)
  | finite units =>
    dsimp only
    split
    · rw [if_pos rfl]
      exact .inl (by decide +kernel)
    · exact .inr (value_nearest_zero _ _)

end Binary64

namespace Pause

theorem double_zero {x : Number} (zero : (Number.int 0).same x = true) : ∃ d, double x = .ok d ∧ d.value = .finite 0 := by
  cases x with
  | int n =>
    rcases (beq_iff_eq.mp zero : 0 = n) with rfl
    refine ⟨Binary64.ofInt 0, ?_, by decide +kernel⟩
    rw [double, if_neg (by decide +kernel)]
  | float d =>
    have none : d.value = .finite (0 * Binary64.unitsPerOne) := beq_iff_eq.mp zero
    rw [Int.zero_mul] at none
    exact ⟨d, rfl, none⟩

theorem isPositive_of_zero {speed base : Json} {pause : Binary64} (zero : (Json.int 0).same base = true)
    (computed : atSpeed speed base = .ok pause) : pause.isPositive = false := by
  have divided {base : Number} (speed : Number) (zero : (Number.int 0).same base = true)
      (computed : (do return (← double base).div (← double speed)) = Except.ok pause) : pause.isPositive = false := by
    rcases double_zero zero with ⟨x, converted, none⟩
    rw [converted] at computed
    cases other : double speed with
    | error fault =>
      rw [other] at computed
      cases computed
    | ok y =>
      rw [other] at computed
      cases computed
      exact Binary64.isPositive_zero_div none y
  simp only [atSpeed] at computed
  simp only [Json.same] at zero
  split at computed
  · rename_i base speed here given
    simp only [here] at zero
    unfold quotient at computed
    split at computed
    · rename_i a b
      rcases (beq_iff_eq.mp zero : 0 = a) with rfl
      dsimp only at computed
      split at computed
      · cases computed
      · cases computed
        exact Binary64.isPositive_of_value (.inr (Binary64.value_nearest_zero _ _))
    · exact divided speed zero computed
  · cases computed

end Pause

/-! ### Where an advance leaves a run -/

namespace Engine

variable {e : Engine} {stop : Suspension}

/-- The run stands at a suspension: it is the last one counted, and its pause is the one of the run. -/
structure StandsAt (e : Engine) (stop : Suspension) : Prop where
  pending : e.pending? = some stop
  index : stop.index = e.executed
  suspends : e.Suspends stop

theorem sleep_cancelled (cancelled : e.cancelled = true) (seconds : Json) : e.sleep seconds = .ok true := by
  rw [sleep, if_pos cancelled]

theorem sleep_short {x : Binary64} (running : e.cancelled = false) (short : Pause.isTooLong (.float x) = false) :
    e.sleep (.num (.float x)) = .ok false := by
  simp [sleep, running, Json.number?, short]

theorem short_of_sleep {x : Binary64} (slept : e.sleep (.num (.float x)) = .ok false) :
    Pause.isTooLong (.float x) = false := by
  unfold sleep at slept
  split at slept
  · cases slept
  · simp only [Json.number?] at slept
    split at slept
    · cases slept
    · rename_i short
      exact Bool.eq_false_iff.mpr short

theorem cancelled_of_slept {seconds : Json} {cancelled : Bool} (slept : e.sleep seconds = .ok cancelled) :
    e.cancelled = cancelled := by
  unfold sleep at slept
  split at slept
  · rename_i stopped
    rw [stopped]
    exact Except.ok.inj slept
  · rename_i going
    split at slept
    · cases slept
    · split at slept
      · cases slept
      · cases slept
        exact Bool.eq_false_iff.mpr going

theorem enter_index {node : Instruction} {frames : List Frame} (pending : (e.enter node frames).pending? = some stop) :
    stop.index = (e.enter node frames).executed := by
  rw [enter_eq] at pending ⊢
  split at pending
  · cases pending
  · rename_i running
    rw [if_neg running]
    split at pending
    · cases pending
    · cases pending
      rfl

theorem proceed_index {frames : List Frame} (pending : (e.proceed frames).pending? = some stop) :
    stop.index = (e.proceed frames).executed := by
  rcases proceed_cases e frames with ⟨mid, -, ends | ⟨-, ends⟩ | ⟨halt, ends⟩ | ⟨node, after, ends⟩⟩
  · rw [ends, conclude_pending] at pending
    cases pending
  · rw [ends] at pending
    cases pending
  · rw [ends] at pending
    cases pending
  · rw [ends] at pending ⊢
    exact enter_index pending

theorem advance_index (pending : e.advance.pending? = some stop) : stop.index = e.advance.executed := by
  revert pending
  fun_cases advance e with intro pending
  | case1 frames phase => exact proceed_index pending
  | case2 suspension frames phase cancelled => cases pending
  | case3 suspension frames phase running next after performed => exact proceed_index pending
  | case4 suspension frames phase running last performed =>
    rcases perform_ended performed with ⟨mid, halt, -, rfl⟩
    cases pending
  | case5 phase | case6 result phase => simp [pending?, phase] at pending

theorem advance_standsAt (pending : e.advance.pending? = some stop) : e.advance.StandsAt stop where
  pending := pending
  index := advance_index pending
  suspends := by
    have same := advance_pace e
    rcases advance_suspends pending with ⟨interactive, computed⟩
    exact ⟨interactive.trans same.interactive.symm, same.delay.trans computed⟩

namespace StandsAt

variable (stands : e.StandsAt stop)

include stands

theorem isActive : e.isActive = true := isActive_of_pending stands.pending

theorem isInteractive : stop.isInteractive = e.isInteractive := congrArg Json.isTruthy stands.suspends.1

theorem delay_of_stepped (stepped : e.isInteractive = true) : stop.delay = Binary64.zero false := by
  have computed := stands.suspends.2
  rw [delay, if_pos stepped] at computed
  exact (Except.ok.inj computed).symm

theorem alone_of_long (long : Pause.isTooLong (.float stop.delay) = true) : stop.isInteractive = false := by
  rw [stands.isInteractive, Bool.eq_false_iff]
  intro stepped
  rw [stands.delay_of_stepped stepped, Pause.isTooLong_zero] at long
  cases long

theorem delay_of_alone (alone : e.isInteractive = false) : Pause.atSpeed e.speed e.baseDelay = .ok stop.delay := by
  have computed := stands.suspends.2
  rwa [delay, alone] at computed

theorem of_same {next : Engine} (phase : next.phase = e.phase) (executed : next.executed = e.executed)
    (pace : e.SamePace next) : next.StandsAt stop where
  pending := by
    unfold pending?
    rw [phase]
    exact stands.pending
  index := stands.index.trans executed.symm
  suspends := ⟨stands.suspends.1.trans pace.interactive.symm, pace.delay.trans stands.suspends.2⟩

end StandsAt

end Engine

namespace Session

variable {s next last : Session} {stop : Suspension}

/-- Where a session is left by what happens to it. -/
inductive AtRest (s : Session) : Prop
  | idle (finished : s.isRunning = false) (free : s.waiting = false)
  /-- The run waits for a step, or sits in its delay. -/
  | standing {stop : Suspension} (stands : s.engine.StandsAt stop) (asked : s.waiting = stop.isInteractive)
      (held : stop.isInteractive = true ∨ stop.delay.isPositive = true)
      (short : Pause.isTooLong (.float stop.delay) = false) (sound : s.fault = none)
  /-- The delay is too long to be waited out. -/
  | stranded {stop : Suspension} (stands : s.engine.StandsAt stop) (free : s.waiting = false)
      (alone : stop.isInteractive = false) (long : Pause.isTooLong (.float stop.delay) = true)
      (broken : s.fault = some (.pause .tooLong))

theorem drive_atRest (patient : Bool) (sound : s.fault = none) : (s.drive patient).AtRest := by
  fun_induction drive patient s with
  | case1 s finished => exact .idle ((ended_isRunning _).trans (Engine.over_of_pending finished)) (ended_waiting _)
  | case2 s suspension pending fault stuck =>
    have stands := Engine.advance_standsAt pending
    rcases Engine.sleep_error stuck with ⟨rfl, long⟩
    exact .stranded (stands.of_same rfl rfl ⟨rfl, rfl, rfl⟩) rfl (stands.alone_of_long long) long rfl
  | case3 s suspension pending cancelled slept waits rests =>
    -- A drive stops short of the end only where it has to wait.
    have held : suspension.isInteractive = true ∨ suspension.delay.isPositive = true ∧ patient = false := by
      simpa [waits] using (Bool.and_eq_true_iff.mp rests).1
    have going : cancelled = false := by simpa using (Bool.and_eq_true_iff.mp rests).2
    rw [going] at slept
    exact .standing (Engine.advance_standsAt pending) rfl (held.imp_right And.left) (Engine.short_of_sleep slept) sound
  | case4 s suspension pending cancelled slept waits goes ih => exact ih sound

structure SameStand (s next : Session) : Prop where
  phase : next.engine.phase = s.engine.phase
  executed : next.engine.executed = s.engine.executed
  pace : s.engine.SamePace next.engine
  waiting : next.waiting = s.waiting
  fault : next.fault = s.fault

theorem isRunning_of_phase (phase : next.engine.phase = s.engine.phase) : next.isRunning = s.isRunning := by
  unfold isRunning Engine.isActive
  rw [phase]

theorem isRunning_of_stranded (stranded : s.isStranded = true) : s.isRunning = true :=
  (Bool.and_eq_true_iff.mp stranded).1

namespace AtRest

theorem of_same (rests : s.AtRest) (same : s.SameStand next) : next.AtRest := by
  cases rests with
  | idle finished free => exact .idle ((isRunning_of_phase same.phase).trans finished) (same.waiting.trans free)
  | standing stands asked held short sound =>
    exact .standing (stands.of_same same.phase same.executed same.pace) (same.waiting.trans asked) held short
      (same.fault.trans sound)
  | stranded stands free alone long broken =>
    exact .stranded (stands.of_same same.phase same.executed same.pace) (same.waiting.trans free) alone long
      (same.fault.trans broken)

theorem free (rests : s.AtRest) (idle : s.isRunning = false) : s.waiting = false := by
  cases rests with
  | idle finished free => exact free
  | standing stands =>
    rw [isRunning, stands.isActive] at idle
    cases idle
  | stranded stands free => exact free

theorem short (rests : s.AtRest) (pending : s.engine.pending? = some stop) (sound : s.fault = none) :
    Pause.isTooLong (.float stop.delay) = false := by
  cases rests with
  | idle finished =>
    rw [Engine.pending?_of_over finished] at pending
    cases pending
  | standing stands asked held short =>
    rcases Option.some.inj (stands.pending.symm.trans pending) with rfl
    exact short
  | stranded stands free alone long broken =>
    rw [broken] at sound
    cases sound

theorem fault_of_stranded (rests : s.AtRest) (stranded : s.isStranded = true) : s.fault = some (.pause .tooLong) := by
  cases rests with
  | idle finished =>
    rw [isStranded, finished] at stranded
    cases stranded
  | standing stands asked held short sound => simp [isStranded, sound] at stranded
  | stranded stands free alone long broken => exact broken

theorem sound (rests : s.AtRest) (moving : s.isStranded = false) (running : s.isRunning = true) : s.fault = none := by
  cases rests with
  | idle finished =>
    rw [finished] at running
    cases running
  | standing stands asked held short sound => exact sound
  | stranded stands free alone long broken =>
    rw [isStranded, running, broken] at moving
    cases moving

end AtRest

/-! ### Cancelling and resetting -/

/-- A run that is cancelled where it stands is aborted there. -/
theorem cancel_eq (stands : s.engine.StandsAt stop) (moving : s.isStranded = false) :
    s.cancel = { s with engine := s.engine.cancel.abort, waiting := false, fault := none } := by
  have told : s.engine.cancel.advance = s.engine.cancel.abort := Engine.advance_of_cancelled stands.pending rfl
  have goes : (({ s with engine := s.engine.cancel } : Session).isRunning &&
      !({ s with engine := s.engine.cancel } : Session).isStranded) = true := by
    have running : ({ s with engine := s.engine.cancel } : Session).isRunning = true := stands.isActive
    have free : ({ s with engine := s.engine.cancel } : Session).isStranded = false := moving
    rw [running, free]
    rfl
  have finished : ({ s with engine := s.engine.cancel, waiting := false } : Session).engine.advance.pending? = none :=
    congrArg Engine.pending? told
  rw [cancel, if_pos goes, release, drive_ended finished]
  show ({ s with engine := s.engine.cancel.advance, waiting := false } : Session).ended = _
  rw [told]
  rfl

theorem cancel_unheard (unheard : (s.isRunning && !s.isStranded) = false) :
    s.cancel = { s with engine := s.engine.cancel } := if_neg (Bool.eq_false_iff.mp unheard)

theorem cancel_heard (heard : (s.isRunning && !s.isStranded) = true) :
    s.cancel = ({ s with engine := s.engine.cancel } : Session).release := if_pos heard

theorem cancel_stranded (stranded : s.isStranded = true) : s.cancel = { s with engine := s.engine.cancel } := by
  apply cancel_unheard
  rw [stranded, Bool.not_true, Bool.and_false]

theorem cancel_idle (idle : s.isRunning = false) : s.cancel = { s with engine := s.engine.cancel } := by
  apply cancel_unheard
  rw [idle, Bool.false_and]

theorem restore_idle (idle : s.isRunning = false) : s.restore = match s.level.world s.allocation with
    | .error unbuilt => ({ s with engine := s.engine.setInteractive (.bool false) }, .error (.world unbuilt))
    | .ok world => (({ s with engine := { s.engine.setInteractive (.bool false) with world } } : Session).logAs
        "Level reset" .info, .ok ()) := by
  have still : ({ s with engine := s.engine.setInteractive (.bool false) } : Session).isRunning = false := idle
  have level : ({ s with engine := s.engine.setInteractive (.bool false) } : Session).level = s.level := rfl
  rw [restore, rebuildWorld_idle still, level]
  cases s.level.world s.allocation with
  | error unbuilt => rfl
  | ok world => rfl

theorem reset_idle (idle : s.isRunning = false) : s.reset = s.restore := by
  rw [reset, if_neg (Bool.eq_false_iff.mp idle)]

theorem reset_running (stands : s.engine.StandsAt stop) (moving : s.isStranded = false) :
    s.reset = ({ s with engine := s.engine.cancel.abort, waiting := false, fault := none } : Session).restore := by
  have running : s.isRunning = true := stands.isActive
  rw [reset, if_pos running, cancel_eq stands moving]

theorem reset_stranded (stranded : s.isStranded = true) {fault : RunFault} (broken : s.fault = some fault) :
    s.reset = ({ s with engine := s.engine.cancel }, .error (.run fault)) := by
  rw [reset, if_pos (isRunning_of_stranded stranded), cancel_stranded stranded]
  dsimp only
  rw [broken]

/-! ### Requests that leave a run where it stands -/

def Request.IsPlain : Request → Prop
  | .run .. | .step _ | .continueRun | .cancel | .reset | .join => False
  | _ => True

/-- The run stands where it did, and nobody has asked it to stop. -/
structure Holds (s next : Session) : Prop extends s.SameStand next where
  cancelled : next.engine.cancelled = s.engine.cancelled

namespace Holds

theorem refl (s : Session) : s.Holds s := ⟨⟨rfl, rfl, ⟨rfl, rfl, rfl⟩, rfl, rfl⟩, rfl⟩

theorem trans (first : s.Holds next) (second : next.Holds last) : s.Holds last where
  phase := second.phase.trans first.phase
  executed := second.executed.trans first.executed
  pace := first.pace.trans second.pace
  waiting := second.waiting.trans first.waiting
  fault := second.fault.trans first.fault
  cancelled := second.cancelled.trans first.cancelled

theorem logAs (holds : s.Holds next) (text : String) (severity : Severity) : s.Holds (next.logAs text severity) :=
  holds.trans ⟨⟨rfl, rfl, ⟨rfl, rfl, rfl⟩, rfl, rfl⟩, Engine.cancelled_logAs _ _ _⟩

theorem warn (holds : s.Holds next) (warnings : List String) :
    s.Holds (warnings.foldl (fun s warning => s.logAs warning .warning) next) := by
  induction warnings generalizing next with
  | nil => exact holds
  | cons warning rest ih => exact ih (holds.logAs _ _)

theorem introduce (holds : s.Holds next) (table : FunctionTable) : s.Holds (next.introduce table) := by
  unfold Session.introduce
  induction table generalizing next with
  | nil => exact holds
  | cons entry rest ih => exact ih (holds.logAs _ _)

theorem logGiven (holds : s.Holds next) (label : String) (value : Json) : s.Holds (next.logGiven label value) := by
  unfold Session.logGiven
  split
  · exact holds.logAs _ _
  · exact holds

theorem rebuildWorld (holds : s.Holds next) : s.Holds next.rebuildWorld.1 := by
  unfold Session.rebuildWorld Engine.setWorld
  split
  · exact holds
  · split
    · exact holds
    · rename_i set
      split at set
      · cases set
      · cases set
        exact holds.trans ⟨⟨rfl, rfl, ⟨rfl, rfl, rfl⟩, rfl, rfl⟩, rfl⟩

theorem loadLevel (wanted : Json) (s : Session) : s.Holds (s.loadLevel wanted).1 := by
  unfold Session.loadLevel
  split
  · exact .refl s
  · dsimp only
    have taken : s.Holds (({ s with level := (s.catalog.get wanted).2 } : Session).print (s.catalog.get wanted).1) :=
      ⟨⟨rfl, rfl, ⟨rfl, rfl, rfl⟩, rfl, rfl⟩, rfl⟩
    have rebuilt := taken.rebuildWorld
    split
    · rename_i built
      rwa [built] at rebuilt
    · rename_i built
      rw [built] at rebuilt
      exact ((rebuilt.logAs _ _).logGiven _ _).logGiven _ _

theorem nextLevel (s : Session) : s.Holds s.nextLevel.1 := by
  unfold Session.nextLevel
  split
  · exact (refl s).logAs _ _
  · exact loadLevel _ s

theorem importProgram (source : Source) (s : Session) : s.Holds (s.importProgram source).1 := by
  unfold Session.importProgram
  split
  · exact .refl s
  · dsimp only
    have printed : s.Holds (s.print (ProgramFile.import? s.verbose source).1) :=
      ⟨⟨rfl, rfl, ⟨rfl, rfl, rfl⟩, rfl, rfl⟩, rfl⟩
    split
    · exact printed.logAs _ _
    · rename_i file read
      have installed : s.Holds ({ s.print (ProgramFile.import? s.verbose source).1 with
          program := file.main, functions := file.functions } : Session) :=
        printed.trans ⟨⟨rfl, rfl, ⟨rfl, rfl, rfl⟩, rfl, rfl⟩, rfl⟩
      dsimp only
      split
      · exact (installed.warn _).logAs _ _
      · exact ((installed.warn _).logAs _ _).logAs _ _

end Holds

theorem serve_holds {request : Request} (plain : request.IsPlain) (s : Session) : s.Holds (s.serve request).1 := by
  cases request with
  | run | step | continueRun | cancel | reset | join => exact plain.elim
  | loadLevel wanted => exact .loadLevel wanted s
  | nextLevel => exact .nextLevel s
  | importProgram source => exact .importProgram source s
  | observe observer => exact ⟨⟨rfl, rfl, ⟨rfl, rfl, rfl⟩, rfl, rfl⟩, rfl⟩
  | exportProgram files path stamp date =>
    have printed (lines : List String) : s.Holds (s.print lines) := ⟨⟨rfl, rfl, ⟨rfl, rfl, rfl⟩, rfl, rfl⟩, rfl⟩
    exact (printed _).logAs _ _
  | loadFile files path =>
    unfold serve Answer.settled loadFile
    dsimp only
    split
    · exact .refl s
    · split
      · exact .refl s
      · exact .importProgram _ s
  | setProgram main functions =>
    unfold serve setProgram
    dsimp only
    split
    · exact .refl s
    · split
      · exact .refl s
      · exact ⟨⟨rfl, rfl, ⟨rfl, rfl, rfl⟩, rfl, rfl⟩, rfl⟩
  | clearProgram | clearFunctions =>
    unfold serve
    dsimp only [clearProgram, clearFunctions]
    split
    · exact .refl s
    · apply Holds.logAs
      exact ⟨⟨rfl, rfl, ⟨rfl, rfl, rfl⟩, rfl, rfl⟩, rfl⟩
  | setRegister name value =>
    unfold serve setRegister
    dsimp only
    split
    · exact .refl s
    · exact ⟨⟨rfl, rfl, ⟨rfl, rfl, rfl⟩, rfl, rfl⟩, rfl⟩

/-! ### Everything leaves a session at rest -/

namespace AtRest

theorem waits (rests : s.AtRest) (waiting : s.waiting = true) :
    ∃ stop, s.engine.StandsAt stop ∧ stop.isInteractive = true ∧ s.fault = none := by
  cases rests with
  | idle finished free =>
    rw [free] at waiting
    cases waiting
  | standing stands asked held short sound => exact ⟨_, stands, asked.symm.trans waiting, sound⟩
  | stranded stands free =>
    rw [free] at waiting
    cases waiting

theorem stands (rests : s.AtRest) (running : s.isRunning = true) : ∃ stop, s.engine.StandsAt stop := by
  cases rests with
  | idle finished =>
    rw [finished] at running
    cases running
  | standing stands => exact ⟨_, stands⟩
  | stranded stands => exact ⟨_, stands⟩

theorem of_noted (rests : s.AtRest) (idle : s.isRunning = false) (noted : s.Noted next) : next.AtRest :=
  .idle ((isRunning_of_phase noted.phase).trans idle) (noted.waiting.trans (rests.free idle))

theorem refused (rests : s.AtRest) (running : s.isRunning = true) (intrusion : Intrusion) :
    (s.intrude intrusion).1.AtRest := by
  rcases (intrude_running running intrusion).2 with same | ⟨note, severity, noted⟩
  · rwa [same]
  · rw [noted]
    exact rests.of_same ⟨rfl, rfl, ⟨rfl, rfl, rfl⟩, rfl, rfl⟩

theorem run (rests : s.AtRest) (speed : Option Json) (interactive : Json) : (s.run speed interactive).1.AtRest := by
  cases running : s.isRunning with
  | true => exact rests.refused running (.run speed interactive)
  | false =>
    rcases run_cases speed interactive s with noted | ⟨begun, -, sound, driven⟩
    · exact rests.of_noted running noted
    · rw [driven]
      exact drive_atRest false sound

theorem step (rests : s.AtRest) (speed : Option Json) : (s.step speed).1.AtRest := by
  unfold Session.step
  split
  · exact rests.run speed _
  · split
    · exact rests
    · rename_i waiting
      rcases rests.waits (by simpa using waiting) with ⟨stop, -, -, sound⟩
      exact drive_atRest false sound

theorem continueRun (rests : s.AtRest) : s.continueRun.1.AtRest := by
  unfold Session.continueRun
  split
  · exact rests
  · rename_i waiting
    rcases rests.waits (by simpa using waiting) with ⟨stop, -, -, sound⟩
    exact drive_atRest false sound

theorem cancel (rests : s.AtRest) : s.cancel.AtRest := by
  have same : s.SameStand { s with engine := s.engine.cancel } := ⟨rfl, rfl, ⟨rfl, rfl, rfl⟩, rfl, rfl⟩
  cases running : s.isRunning with
  | false =>
    rw [cancel_idle running]
    exact rests.of_same same
  | true =>
    cases moving : s.isStranded with
    | true =>
      rw [cancel_stranded moving]
      exact rests.of_same same
    | false =>
      rcases rests.stands running with ⟨stop, stands⟩
      rw [cancel_eq stands moving]
      exact .idle rfl rfl

theorem cancel_idles (rests : s.AtRest) (running : s.isRunning = true) (sound : s.cancel.fault = none) :
    s.cancel.isRunning = false := by
  rcases rests.stands running with ⟨stop, stands⟩
  cases moving : s.isStranded with
  | true =>
    rw [cancel_stranded moving] at sound
    have broken : s.fault = none := sound
    rw [rests.fault_of_stranded moving] at broken
    cases broken
  | false =>
    rw [cancel_eq stands moving]
    rfl

theorem restore (idle : s.isRunning = false) (free : s.waiting = false) : s.restore.1.AtRest := by
  rw [restore_idle idle]
  split
  · exact .idle idle free
  · exact .idle idle free

theorem reset (rests : s.AtRest) : s.reset.1.AtRest := by
  cases running : s.isRunning with
  | false =>
    rw [reset_idle running]
    exact restore running (rests.free running)
  | true =>
    rcases rests.stands running with ⟨stop, stands⟩
    cases moving : s.isStranded with
    | true =>
      rw [reset_stranded moving (rests.fault_of_stranded moving)]
      exact rests.of_same ⟨rfl, rfl, ⟨rfl, rfl, rfl⟩, rfl, rfl⟩
    | false =>
      rw [reset_running stands moving]
      exact restore rfl rfl

theorem pass (rests : s.AtRest) (patient : Bool) :
    (if s.isRunning && !s.waiting && !s.isStranded then s.drive patient else s).AtRest := by
  split
  · rename_i moving
    simp only [Bool.and_eq_true, Bool.not_eq_true'] at moving
    exact drive_atRest patient (rests.sound moving.2 moving.1.1)
  · exact rests

theorem serve_plain {request : Request} (rests : s.AtRest) (plain : request.IsPlain) : (s.serve request).1.AtRest :=
  rests.of_same (serve_holds plain s).toSameStand

theorem serve (rests : s.AtRest) (request : Request) : (s.serve request).1.AtRest := by
  cases request with
  | run speed interactive => exact rests.run speed interactive
  | step speed => exact rests.step speed
  | continueRun => exact rests.continueRun
  | cancel => exact rests.cancel
  | reset => exact rests.reset
  | join => exact rests.pass true
  | _ => exact rests.serve_plain trivial

theorem undergo (rests : s.AtRest) (happening : Happening) : (s.undergo happening).1.AtRest := by
  cases happening with
  | request request => exact rests.serve request
  | elapse => exact rests.pass false

theorem undergoAll (rests : s.AtRest) (happenings : List Happening) : (s.undergoAll happenings).AtRest := by
  induction happenings generalizing s with
  | nil => exact rests
  | cons happening rest ih => exact ih (rests.undergo happening)

theorem of_start {allocation : Allocation} {catalog : Catalog} {wanted : Json} {draws : Draws}
    {observers : List Observer} {baseDelay : Json} {callLimit : CallLimit} {verbose : Bool} {lines : List String}
    (started : start allocation catalog wanted draws observers baseDelay callLimit verbose = (lines, .ok s)) : s.AtRest := by
  rcases start_ok started with ⟨world, -, rfl⟩
  exact .idle rfl rfl

end AtRest

/-! ### One step, and going on without stepping -/

section Steps

variable {patient : Bool}

theorem drive_completed (running : s.isRunning = true) (finished : (s.drive patient).isRunning = false) :
    (s.drive patient).engine.state = .completed := by
  fun_induction drive patient s with
  | case1 s halts =>
    rcases ended_engine { s with engine := s.engine.advance } with ⟨lines, same⟩
    rw [same]
    exact Engine.advance_completed running (Engine.over_of_pending halts)
  | case2 s suspension pending | case3 s suspension pending =>
    have still : s.engine.advance.isActive = true := Engine.isActive_of_pending pending
    rw [isRunning] at finished
    exact (Bool.eq_false_iff.mp finished still).elim
  | case4 s suspension pending cancelled slept waits goes ih => exact ih (Engine.isActive_of_pending pending) finished

theorem drive_finished (running : s.isRunning = true) (finished : s.engine.advance.pending? = none) :
    (s.drive patient).engine.state = .completed := by
  apply drive_completed running
  rw [drive_ended finished, ended_isRunning]
  exact Engine.over_of_pending finished

theorem drive_stepped (running : s.isRunning = true) (stepped : s.engine.isInteractive = true) :
    (s.drive patient).engine.state = .completed ∨
      ∃ next, (s.drive patient).pending? = some next ∧ next.index = s.engine.executed + 1 := by
  cases pending : s.engine.advance.pending? with
  | none => exact .inl (drive_finished running pending)
  | some next =>
    have stands := Engine.advance_standsAt pending
    have still : s.engine.advance.isInteractive = true := by
      unfold Engine.isInteractive
      rwa [(Engine.advance_pace s.engine).interactive]
    have asked : next.isInteractive = true := stands.isInteractive.trans still
    have short : Pause.isTooLong (.float next.delay) = false := by
      rw [stands.delay_of_stepped still]
      exact Pause.isTooLong_zero
    rw [drive_suspended pending]
    cases cancelled : s.engine.advance.cancelled with
    | true =>
      -- The observers stopped the run on the way to the suspension, which it does not wait at.
      have halts : ({ s with engine := s.engine.advance } : Session).engine.advance.pending? = none :=
        congrArg Engine.pending? (Engine.advance_of_cancelled pending cancelled)
      rw [Engine.sleep_cancelled cancelled]
      dsimp only
      rw [Bool.not_true, Bool.and_false, if_neg Bool.false_ne_true]
      exact .inl (drive_finished stands.isActive halts)
    | false =>
      rw [Engine.sleep_short cancelled short]
      dsimp only
      rw [asked, Bool.true_or, Bool.not_false, Bool.and_true, if_pos rfl]
      refine .inr ⟨next, ?_, ?_⟩
      · rw [pending?, if_pos rfl]
        exact pending
      · rw [stands.index]
        exact (s.engine.advance_spends.2 stands.isActive).2

end Steps

theorem step_idle (idle : s.isRunning = false) (speed : Option Json) : s.step speed = s.run speed (.bool true) := by
  rw [step, idle]
  rfl

theorem step_waiting (running : s.isRunning = true) (waiting : s.waiting = true) (speed : Option Json) :
    s.step speed = (({ s with engine := s.engine.setInteractive (.bool true) } : Session).release, .ok true) := by
  rw [step, running, waiting]
  rfl

theorem step_moving (running : s.isRunning = true) (moving : s.waiting = false) (speed : Option Json) :
    s.step speed = (s, .ok false) := by
  rw [step, running, moving]
  rfl

theorem pending?_of_moving (moving : s.waiting = false) : s.pending? = none := by
  rw [pending?, moving]
  rfl

/-- The run under way lasts until the last of this happens. -/
def Lasts (s : Session) : List Happening → Prop
  | [] => True
  | happening :: rest => s.isRunning = true ∧ (s.undergo happening).1.Lasts rest

namespace AtRest

theorem moving (rests : s.AtRest) (alone : s.engine.isInteractive = false) : s.waiting = false := by
  cases rests with
  | idle finished free => exact free
  | standing stands asked held short sound => rw [asked, stands.isInteractive, alone]
  | stranded stands free => exact free

theorem pass_alone (alone : s.engine.isInteractive = false) (patient : Bool) :
    (if s.isRunning && !s.waiting && !s.isStranded then s.drive patient else s).engine.isInteractive = false := by
  split
  · unfold Engine.isInteractive
    rwa [drive_interactive]
  · exact alone

theorem undergo_alone (rests : s.AtRest) (running : s.isRunning = true) (alone : s.engine.isInteractive = false)
    (happening : Happening) (lasts : (s.undergo happening).1.isRunning = true) :
    (s.undergo happening).1.engine.isInteractive = false := by
  have moving := rests.moving alone
  -- What is turned down leaves the engine as it is, but for a note.
  have refused (intrusion : Intrusion) : (s.intrude intrusion).1.engine.isInteractive = false := by
    rcases (intrude_running running intrusion).2 with same | ⟨note, severity, noted⟩
    · rwa [same]
    · rwa [noted]
  rcases rests.stands running with ⟨stop, stands⟩
  cases happening with
  | elapse => exact pass_alone alone false
  | request request =>
    cases request with
    | loadLevel wanted => exact refused (.loadLevel wanted)
    | nextLevel => exact refused .nextLevel
    | setProgram main functions => exact refused (.setProgram main functions)
    | importProgram source => exact refused (.importProgram source)
    | loadFile files path => exact refused (.loadFile files path)
    | clearProgram => exact refused .clearProgram
    | clearFunctions => exact refused .clearFunctions
    | run speed interactive => exact refused (.run speed interactive)
    | exportProgram | observe => exact alone
    | step speed =>
      rw [Session.undergo, Session.serve, step_moving running moving]
      exact alone
    | continueRun =>
      rw [Session.undergo, Session.serve, continueRun_moving moving]
      exact alone
    | cancel =>
      cases broken : s.isStranded with
      | true =>
        rw [Session.undergo, Session.serve, cancel_stranded broken]
        exact alone
      | false =>
        -- A run that hears of it does not last.
        rw [Session.undergo, Session.serve, cancel_eq stands broken] at lasts
        cases lasts
    | reset =>
      cases broken : s.isStranded with
      | true =>
        rw [Session.undergo, Session.serve, reset_stranded broken (rests.fault_of_stranded broken)]
        exact alone
      | false =>
        rw [Session.undergo, Session.serve, reset_running stands broken, restore_idle rfl] at lasts
        split at lasts
        · cases lasts
        · cases lasts
    | join => exact pass_alone alone true
    | setRegister name value =>
      unfold Session.undergo Session.serve setRegister
      dsimp only
      split
      · exact alone
      · exact alone

theorem lasts_alone (rests : s.AtRest) (alone : s.engine.isInteractive = false) {happenings : List Happening}
    (lasts : s.Lasts happenings) : (s.undergoAll happenings).pending? = none := by
  induction happenings generalizing s with
  | nil => exact pending?_of_moving (rests.moving alone)
  | cons happening rest ih =>
    cases running : (s.undergo happening).1.isRunning with
    | true => exact ih (rests.undergo happening) (undergo_alone rests lasts.1 alone happening running) lasts.2
    | false =>
      cases rest with
      | nil => exact pending?_of_moving ((rests.undergo happening).free running)
      | cons next rest =>
        have still := lasts.2.1
        rw [running] at still
        cases still

end AtRest

def HasNoDelay (s : Session) : Prop :=
  ∀ pause, Pause.atSpeed s.engine.speed s.engine.baseDelay = .ok pause → pause.isPositive = false

/-- How a session answers those who step through its run. -/
structure Steps (s : Session) : Prop where
  /-- A suspension waits just while the engine is paused, and it is the engine's. -/
  paused : s.pending?.isSome = true ↔ s.engine.state = .paused
  pending : ∀ stop, s.pending? = some stop → s.engine.pending? = some stop
  step : ∀ speed stop, s.pending? = some stop → (s.step speed).2 = .ok true ∧
    ((s.step speed).1.engine.state = .completed ∨
      ∃ next, (s.step speed).1.pending? = some next ∧ next.index = stop.index + 1)
  /-- A run that goes on without stepping waits at no suspension any more. -/
  continues : ∀ stop, s.pending? = some stop → s.continueRun.2 = true ∧
    ∀ happenings, s.continueRun.1.Lasts happenings → (s.continueRun.1.undergoAll happenings).pending? = none
  instant : s.HasNoDelay → s.isRunning = true → s.pending?.isSome = true
  /-- A run is stranded where its delay is too long to be waited out. -/
  stranded : s.isStranded = true ↔ ∃ stop, s.engine.pending? = some stop ∧ Pause.isTooLong (.float stop.delay) = true
  cancel : s.isRunning = true → s.isStranded = false → s.cancel.engine.state = .completed ∧
    s.cancel.engine.result? = some ⟨.aborted, s.world, s.engine.executed⟩ ∧ s.cancel.pending? = none
  /-- What is stranded cannot be stopped. -/
  uncancelled : s.isStranded = true → s.cancel = { s with engine := s.engine.cancel }
  moving : s.isRunning = true → s.pending? = none → (∀ speed, s.step speed = (s, .ok false)) ∧ s.continueRun = (s, false)
  idle : s.isRunning = false → s.continueRun = (s, false)

theorem of_pending? (pending : s.pending? = some stop) : s.waiting = true ∧ s.engine.pending? = some stop := by
  unfold pending? at pending
  split at pending
  · rename_i waiting
    exact ⟨waiting, pending⟩
  · cases pending

theorem of_not_pending? (rests : s.AtRest) (none : s.pending? = none) : s.waiting = false := by
  rw [Bool.eq_false_iff]
  intro waiting
  rcases rests.waits waiting with ⟨stop, stands, -, -⟩
  rw [pending?, if_pos waiting, stands.pending] at none
  cases none

namespace AtRest

theorem paused_iff (rests : s.AtRest) : s.pending?.isSome = true ↔ s.engine.state = .paused := by
  rw [Engine.paused_iff]
  constructor
  · intro some
    rcases Option.isSome_iff_exists.mp some with ⟨stop, pending⟩
    rcases of_pending? pending with ⟨waiting, there⟩
    rcases rests.waits waiting with ⟨stop, stands, stepped, -⟩
    exact ⟨stop, stands.pending, stepped⟩
  · rintro ⟨stop, there, stepped⟩
    cases rests with
    | idle finished =>
      rw [Engine.pending?_of_over finished] at there
      cases there
    | standing stands asked =>
      rcases Option.some.inj (stands.pending.symm.trans there) with rfl
      rw [pending?, asked, if_pos stepped, there]
      rfl
    | stranded stands free alone =>
      rcases Option.some.inj (stands.pending.symm.trans there) with rfl
      rw [alone] at stepped
      cases stepped

theorem steps_on (rests : s.AtRest) (pending : s.pending? = some stop) (speed : Option Json) :
    (s.step speed).2 = .ok true ∧ ((s.step speed).1.engine.state = .completed ∨
      ∃ next, (s.step speed).1.pending? = some next ∧ next.index = stop.index + 1) := by
  rcases of_pending? pending with ⟨waiting, there⟩
  rcases rests.waits waiting with ⟨stop, stands, -, -⟩
  rcases Option.some.inj (stands.pending.symm.trans there) with rfl
  let going : Session := { s with engine := s.engine.setInteractive (.bool true), waiting := false }
  have running : going.isRunning = true := stands.isActive
  have stepped : going.engine.isInteractive = true := rfl
  rw [step_waiting stands.isActive waiting, stands.index]
  exact ⟨rfl, drive_stepped running stepped⟩

theorem continues_alone (waiting : s.waiting = true) : s.continueRun.1.engine.isInteractive = false := by
  rw [continueRun_waiting waiting, release, Engine.isInteractive, drive_interactive]
  rfl

theorem waits_of_instant (rests : s.AtRest) (none : s.HasNoDelay) (running : s.isRunning = true) :
    s.pending?.isSome = true := by
  -- A run that does not wait sits in a delay, and there is none.
  have held {stop : Suspension} (stands : s.engine.StandsAt stop) (alone : stop.isInteractive = false) :
      stop.delay.isPositive = false := none _ (stands.delay_of_alone (stands.isInteractive.symm.trans alone))
  cases rests with
  | idle finished =>
    rw [finished] at running
    cases running
  | @standing stop stands asked positive =>
    cases stepped : stop.isInteractive with
    | true =>
      rw [pending?, asked, if_pos stepped, stands.pending]
      rfl
    | false =>
      have some := positive.resolve_left (Bool.eq_false_iff.mp stepped)
      rw [held stands stepped] at some
      cases some
  | stranded stands free alone long =>
    have some := Pause.isPositive_of_isTooLong long
    rw [held stands alone] at some
    cases some

theorem isStranded_iff_tooLong (rests : s.AtRest) :
    s.isStranded = true ↔ ∃ stop, s.engine.pending? = some stop ∧ Pause.isTooLong (.float stop.delay) = true := by
  cases rests with
  | idle finished =>
    rw [isStranded, finished, Engine.pending?_of_over finished]
    simp
  | @standing stop stands asked held short sound =>
    rw [isStranded, sound, stands.pending]
    simp [short]
  | @stranded stop stands free alone long broken =>
    have running : s.isRunning = true := stands.isActive
    rw [isStranded, running, broken, stands.pending]
    simp [long]

theorem steps (rests : s.AtRest) : s.Steps where
  paused := rests.paused_iff
  pending stop pending := (of_pending? pending).2
  step speed stop pending := rests.steps_on pending speed
  continues stop pending := by
    have waiting := (of_pending? pending).1
    constructor
    · rw [continueRun_waiting waiting]
    · intro happenings lasts
      exact rests.continueRun.lasts_alone (continues_alone waiting) lasts
  instant none running := rests.waits_of_instant none running
  stranded := rests.isStranded_iff_tooLong
  cancel running moving := by
    rcases rests.stands running with ⟨stop, stands⟩
    rw [cancel_eq stands moving]
    exact ⟨rfl, rfl, rfl⟩
  uncancelled stranded := cancel_stranded stranded
  moving running none := by
    have moving := of_not_pending? rests none
    exact ⟨fun speed => step_moving running moving speed, continueRun_moving moving⟩
  idle idle := continueRun_moving (rests.free idle)

end AtRest

/-- However a session is used, it answers those who step through its run by the same rules. Without a base delay a run
that is under way waits for a step. The only run that cannot be stopped is one that is stranded in a delay which is too
long to be waited out. -/
theorem steps_among_happenings {allocation : Allocation} {catalog : Catalog} {wanted : Json} {draws : Draws}
    {observers : List Observer} {baseDelay : Json} {callLimit : CallLimit} {verbose : Bool} {lines : List String} {first : Session}
    (started : start allocation catalog wanted draws observers baseDelay callLimit verbose = (lines, .ok first))
    (happenings : List Happening) :
    let s := first.undergoAll happenings
    s.Steps ∧ ((Json.int 0).same baseDelay = true → s.isRunning = true → s.pending?.isSome = true) := by
  intro s
  have rests : s.AtRest := (AtRest.of_start started).undergoAll happenings
  have settled : s.settings = ⟨allocation, catalog, verbose, baseDelay, callLimit⟩ :=
    (Becomes.start.undergoAll happenings).settings.trans (IsListed.of_start started).2
  have base : s.engine.baseDelay = baseDelay := congrArg Settings.baseDelay settled
  constructor
  · exact rests.steps
  · intro zero running
    apply rests.waits_of_instant ?_ running
    intro pause computed
    rw [base] at computed
    exact Pause.isPositive_of_zero zero computed

/-- A loop that is stepped through waits at its second instruction; one step on it waits at the third, and cancelled it
is aborted. -/
theorem steps_among_happenings_loop :
    let level : Level :=
      { id := 1, name := "A", size := 3, start := ⟨0, 0⟩, direction := .right, goal := ⟨2, 0⟩, obstacles := []
        description := .null, hint := .null }
    let catalog : Catalog := ⟨[level], by simp, false⟩
    let engine : Engine :=
      { world := .ofBoard { size := 3, start := ⟨⟨0, 0⟩, .right, false⟩, goal := ⟨2, 0⟩, obstacles := [] }
        draws := .ofList [], observers := [], baseDelay := .int 60, callLimit := .ofInt 3 }
    let first : Session := { allocation := .within 9, catalog, level, engine }
    let happenings : List Happening :=
      [.request (.setProgram [.repeatTimes (.int 2) [.move]] []), .request (.step none), .elapse, .request (.step none)]
    let s := first.undergoAll happenings
    start (.within 9) catalog (.int 1) (.ofList []) [] (.int 60) (.ofInt 3) false = ([], .ok first) ∧ s.Steps ∧
      s.pending?.map Suspension.index = some 2 ∧ (s.step none).1.pending?.map Suspension.index = some 3 ∧
      s.cancel.engine.result?.map RunResult.ending = some .aborted := by
  intro level catalog engine first happenings s
  have started : start (.within 9) catalog (.int 1) (.ofList []) [] (.int 60) (.ofInt 3) false = ([], .ok first) := rfl
  refine ⟨started, (steps_among_happenings started happenings).1, ?_⟩
  decide +kernel

/-- A minute's pause at a speed of 1e-10 is nineteen thousand years: the run is under way and cannot be stopped. -/
theorem cancel_leaves_stranded :
    let level : Level :=
      { id := 1, name := "A", size := 3, start := ⟨0, 0⟩, direction := .right, goal := ⟨2, 0⟩, obstacles := []
        description := .null, hint := .null }
    let catalog : Catalog := ⟨[level], by simp, false⟩
    let engine : Engine :=
      { world := .ofBoard { size := 3, start := ⟨⟨0, 0⟩, .right, false⟩, goal := ⟨2, 0⟩, obstacles := [] }
        draws := .ofList [], observers := [], baseDelay := .int 60, callLimit := .ofInt 3 }
    let first : Session := { allocation := .within 9, catalog, level, engine }
    let slow : Json := .num (.float ⟨0x3ddb7cdfd9d7bdbb⟩)
    let s := first.undergoAll [.request (.setProgram [.turnLeft] []), .request (.run (some slow) (.bool false))]
    start (.within 9) catalog (.int 1) (.ofList []) [] (.int 60) (.ofInt 3) false = ([], .ok first) ∧
      s.isRunning = true ∧ s.isStranded = true ∧ s.cancel.isRunning = true ∧ s.cancel.engine.result?.isSome = false := by
  intro level catalog engine first slow s
  have started : start (.within 9) catalog (.int 1) (.ofList []) [] (.int 60) (.ofInt 3) false = ([], .ok first) := rfl
  refine ⟨started, ?_⟩
  decide +kernel

end Session

end GridRobot
