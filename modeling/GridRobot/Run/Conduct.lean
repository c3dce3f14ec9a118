import GridRobot.Run.Engine

/-!
What the engine may do between one suspension and the next. `Deliberates` says that it only tested
conditions and logged notes on the way; `proceed_cases` and `perform_cases` list everything a stretch of
a run can come to, so that what a run keeps is read off these two.
-/
namespace GridRobot.Engine

structure SameTerms (e next : Engine) : Prop where
  functions : next.functions = e.functions
  callLimit : next.callLimit = e.callLimit
  baseDelay : next.baseDelay = e.baseDelay
  speed : next.speed = e.speed
  interactive : next.interactive = e.interactive
  executed : next.executed = e.executed

structure SamePace (e next : Engine) : Prop where
  baseDelay : next.baseDelay = e.baseDelay
  speed : next.speed = e.speed
  interactive : next.interactive = e.interactive

namespace SamePace

variable {a b c : Engine}

theorem trans (first : a.SamePace b) (second : b.SamePace c) : a.SamePace c where
  baseDelay := second.baseDelay.trans first.baseDelay
  speed := second.speed.trans first.speed
  interactive := second.interactive.trans first.interactive

theorem delay (same : a.SamePace b) : b.delay = a.delay := by
  unfold Engine.delay isInteractive
  rw [same.interactive, same.speed, same.baseDelay]

end SamePace

/-- The pause in front of an instruction can be computed. -/
def IsPaced (e : Engine) : Prop := ∃ pause, e.delay = .ok pause

theorem SamePace.isPaced {e next : Engine} (same : e.SamePace next) (paced : e.IsPaced) : next.IsPaced := by
  unfold IsPaced
  rwa [same.delay]

theorem failed_of_delay {e : Engine} {fault : PauseFault} (failed : e.delay = .error fault) :
    Pause.atSpeed e.speed e.baseDelay = .error fault := by
  unfold delay at failed
  split at failed
  · cases failed
  · exact failed

def Falters (e : Engine) (fault : PauseFault) : Prop := e.fault? = some (.pause fault) ∧ e.delay = .error fault

theorem result_of_fault {e : Engine} {fault : RunFault} (broken : e.fault? = some fault) :
    ∃ result, e.phase = .completed result ∧ result.ending = .crashed fault := by
  unfold fault? at broken
  split at broken
  · rename_i fault world executed phase
    cases broken
    exact ⟨_, phase, rfl⟩
  · cases broken

theorem isActive_of_fault {e : Engine} {fault : RunFault} (broken : e.fault? = some fault) : e.isActive = false := by
  rcases result_of_fault broken with ⟨result, phase, -⟩
  simp [isActive, phase]

namespace SameTerms

variable {a b c : Engine}

theorem refl (e : Engine) : e.SameTerms e := ⟨rfl, rfl, rfl, rfl, rfl, rfl⟩

theorem trans (first : a.SameTerms b) (second : b.SameTerms c) : a.SameTerms c where
  functions := second.functions.trans first.functions
  callLimit := second.callLimit.trans first.callLimit
  baseDelay := second.baseDelay.trans first.baseDelay
  speed := second.speed.trans first.speed
  interactive := second.interactive.trans first.interactive
  executed := second.executed.trans first.executed

theorem pace (same : a.SameTerms b) : a.SamePace b := ⟨same.baseDelay, same.speed, same.interactive⟩

end SameTerms

theorem cancelled_logAs (note : Note) (severity : Severity) (e : Engine) :
    (e.logAs note severity).cancelled = e.cancelled := by
  simp [logAs, emit, Observer.react, Event.isStep]

theorem observers_logAs (note : Note) (severity : Severity) (e : Engine) :
    (e.logAs note severity).observers = e.observers := by
  simp [logAs, emit, Observer.react, Event.isStep, Function.comp_def]

/-- Nothing was done on the way but logging notes and drawing random numbers. -/
inductive Deliberates (e : Engine) : Engine → Prop
  | start : Deliberates e e
  | log {next : Engine} (note : Note) : Deliberates e next → Deliberates e (next.log note)
  | draw {next : Engine} (draws : Draws) : Deliberates e next → Deliberates e { next with draws }

namespace Deliberates

variable {a b c e next : Engine}

theorem trans (first : a.Deliberates b) (second : b.Deliberates c) : a.Deliberates c := by
  induction second with
  | start => exact first
  | log note _ ih => exact ih.log note
  | draw draws _ ih => exact ih.draw draws

theorem terms (quiet : e.Deliberates next) : e.SameTerms next := by
  induction quiet with
  | start => exact .refl e
  | log note _ ih => exact ih.trans ⟨rfl, rfl, rfl, rfl, rfl, rfl⟩
  | draw draws _ ih => exact ih.trans ⟨rfl, rfl, rfl, rfl, rfl, rfl⟩

theorem world (quiet : e.Deliberates next) : next.world = e.world := by
  induction quiet with
  | start => rfl
  | log note _ ih => exact ih
  | draw draws _ ih => exact ih

theorem cancelled (quiet : e.Deliberates next) : next.cancelled = e.cancelled := by
  induction quiet with
  | start => rfl
  | log note _ ih => exact (cancelled_logAs _ _ _).trans ih
  | draw draws _ ih => exact ih

end Deliberates

theorem log_deliberates (note : Note) (e : Engine) : e.Deliberates (e.log note) := .log note .start

theorem logAll_deliberates (notes : List Note) (e : Engine) : e.Deliberates (e.logAll notes) := by
  induction notes generalizing e with
  | nil => exact .start
  | cons note rest ih => exact (log_deliberates note e).trans (ih (e.log note))

theorem announceLoop_deliberates (condition : Condition) (e : Engine) :
    e.Deliberates (e.announceLoop condition) := by
  unfold announceLoop
  split
  · exact log_deliberates _ e
  · exact .start

theorem deliberates_of_test {condition : Condition} {e next : Engine} {value : Except RunFault Bool}
    (tested : e.test condition = (next, value)) : e.Deliberates next := by
  have drawn : e.Deliberates { e with draws := (condition.evaluate e.world e.draws).draws } := .draw _ .start
  obtain ⟨rfl, -⟩ := Prod.mk.inj tested
  exact drawn.trans (logAll_deliberates _ _)

def announce (node : Instruction) (e : Engine) : Engine :=
  let e := { e with executed := e.executed + 1 }.emit (.entered node)
  if e.isInteractive then e.log (.pausedAt node) else e

theorem enter_eq (node : Instruction) (frames : List Frame) (e : Engine) : e.enter node frames =
    if e.cancelled then e.abort
    else match (e.announce node).delay with
      | .error fault => (e.announce node).crash (.pause fault)
      | .ok delay =>
        { e.announce node with
          phase := .active (some ⟨node, (e.announce node).interactive, delay, (e.announce node).executed⟩) frames } := rfl

theorem announce_terms (node : Instruction) (e : Engine) :
    { e with executed := e.executed + 1 }.SameTerms (e.announce node) := by
  unfold announce
  dsimp only
  split
  · exact ⟨rfl, rfl, rfl, rfl, rfl, rfl⟩
  · exact ⟨rfl, rfl, rfl, rfl, rfl, rfl⟩

theorem announce_executed (node : Instruction) (e : Engine) : (e.announce node).executed = e.executed + 1 :=
  (announce_terms node e).executed

/-- A run that goes on comes, after some thought, to its end, to a request to stop, to a failure or a
fault, or to the next instruction. -/
theorem proceed_cases (e : Engine) (frames : List Frame) :
    ∃ mid, e.Deliberates mid ∧
      (e.proceed frames = mid.conclude ∨ (mid.cancelled = true ∧ e.proceed frames = mid.abort) ∨
        (∃ halt, e.proceed frames = mid.stop halt) ∨ ∃ node after, e.proceed frames = mid.enter node after) := by
  -- Along the recursion of `proceed`: what it tests and notes on its way is the thought in front of the end.
  fun_induction proceed e frames with
  | case1 e => exact ⟨e, .start, .inl rfl⟩
  | case2 e outer ih => exact ih
  | case3 e node rest outer => exact ⟨e, .start, .inr (.inr (.inr ⟨node, _, rfl⟩))⟩
  | case4 e name outer ih =>
    obtain ⟨mid, quiet, ending⟩ := ih
    exact ⟨mid, (log_deliberates _ e).trans quiet, ending⟩
  | case5 e loop done body outer more cancelled => exact ⟨e, .start, .inr (.inl ⟨cancelled, rfl⟩)⟩
  | case6 e loop done body outer more cancelled ih =>
    obtain ⟨mid, quiet, ending⟩ := ih
    exact ⟨mid, (log_deliberates _ e).trans quiet, ending⟩
  | case7 e loop done body outer more ih => exact ih
  | case8 e condition body done outer cancelled => exact ⟨e, .start, .inr (.inl ⟨cancelled, rfl⟩)⟩
  | case9 e condition body done outer cancelled next fault tested =>
    exact ⟨next, deliberates_of_test tested, .inr (.inr (.inl ⟨.fault fault, rfl⟩))⟩
  | case10 e condition body done outer cancelled next more tested ih =>
    obtain ⟨mid, quiet, ending⟩ := ih
    exact ⟨mid, ((deliberates_of_test tested).log _).trans quiet, ending⟩
  | case11 e condition body done outer cancelled next value tested more low ih =>
    obtain ⟨mid, quiet, ending⟩ := ih
    exact ⟨mid, (deliberates_of_test tested).trans quiet, ending⟩
  | case12 e condition body done outer cancelled next value tested more =>
    exact ⟨next, deliberates_of_test tested, .inr (.inr (.inl ⟨.failure .loopLimit, rfl⟩))⟩

theorem perform_onward {node : Instruction} {frames after : List Frame} {e next : Engine}
    (performed : e.perform node frames = .onward next after) :
    e.Deliberates next ∨ (∃ world note, next = ({ e with world }.log note).showWorld) ∨
      ∃ registers note, next = ({ e with world := { e.world with registers } }.log note).showRegisters := by
  revert performed
  fun_cases perform node frames e with rintro ⟨⟩
  | case2 world free | case3 | case4 => exact .inr (.inl ⟨_, _, rfl⟩)
  | case6 r value n read | case7 r | case8 r => exact .inr (.inr ⟨_, _, rfl⟩)
  | case11 count body shown said loop rounds => exact .inl (log_deliberates _ e)
  | case13 condition body next value tested => exact .inl ((deliberates_of_test tested).log _)
  | case15 condition thenBody elseBody next value tested =>
    exact .inl (((deliberates_of_test tested).log _).log _)
  | case16 condition body => exact .inl (announceLoop_deliberates condition e)
  | case18 name missing | case20 name body found room => exact .inl (log_deliberates _ e)
  | case21 name body | case22 kind fields | case23 => exact .inl (log_deliberates _ e)

theorem perform_ended {node : Instruction} {frames : List Frame} {e last : Engine}
    (performed : e.perform node frames = .ended last) : ∃ mid halt, e.Deliberates mid ∧ last = mid.stop halt := by
  revert performed
  fun_cases perform node frames e with rintro ⟨⟩
  | case1 collision blocked => exact ⟨_, _, log_deliberates _ e, rfl⟩
  | case5 r value fault unread => exact ⟨_, _, .start, rfl⟩
  | case9 count body fault unsaid => exact ⟨_, _, .start, rfl⟩
  | case10 count body shown said fault unfit => exact ⟨_, _, log_deliberates _ e, rfl⟩
  | case12 condition body next fault tested | case14 condition thenBody elseBody next fault tested =>
    exact ⟨_, _, deliberates_of_test tested, rfl⟩
  | case17 name fault unusable | case19 name body found full => exact ⟨_, _, .start, rfl⟩

theorem call_onward {name : Json} {frames after : List Frame} {e next : Engine}
    (performed : e.perform (.call name) frames = .onward next after) :
    (e.functions.look name = .ok none ∧ next = e.log (.undefinedFunction name) ∧ after = frames) ∨
      ∃ body, e.functions.look name = .ok (some body) ∧ Frame.callDepth frames < e.callLimit.depth ∧
        next = e.log (.calling name) ∧ after = .block body :: .calling name :: frames := by
  simp only [perform] at performed
  split at performed
  · cases performed
  · cases performed
    exact .inl ⟨‹_›, rfl, rfl⟩
  · split at performed
    · cases performed
    · cases performed
      exact .inr ⟨_, ‹_›, Nat.not_le.mp ‹_›, rfl, rfl⟩

theorem call_ended {name : Json} {frames : List Frame} {e last : Engine}
    (performed : e.perform (.call name) frames = .ended last) :
    (∃ fault, e.functions.look name = .error fault ∧ last = e.stop (.fault (.name fault))) ∨
      ∃ body, e.functions.look name = .ok (some body) ∧ e.callLimit.depth ≤ Frame.callDepth frames ∧
        last = e.stop (e.callLimit.halt name) := by
  simp only [perform] at performed
  split at performed
  · cases performed
    exact .inl ⟨_, ‹_›, rfl⟩
  · cases performed
  · split at performed
    · cases performed
      exact .inr ⟨_, ‹_›, ‹_›, rfl⟩
    · cases performed

theorem proceed_table (e : Engine) (frames : List Frame) :
    (e.proceed frames).functions = e.functions ∧ (e.proceed frames).callLimit = e.callLimit := by
  obtain ⟨mid, quiet, ends | ⟨-, ends⟩ | ⟨halt, ends⟩ | ⟨node, after, ends⟩⟩ := proceed_cases e frames
  · rw [ends, ← quiet.terms.functions, ← quiet.terms.callLimit, conclude]
    split
    · exact ⟨rfl, rfl⟩
    · exact ⟨rfl, rfl⟩
  · exact ends ▸ ⟨quiet.terms.functions, quiet.terms.callLimit⟩
  · exact ends ▸ ⟨quiet.terms.functions, quiet.terms.callLimit⟩
  · have announced := announce_terms node mid
    rw [ends, ← quiet.terms.functions, ← quiet.terms.callLimit, enter_eq]
    split
    · exact ⟨rfl, rfl⟩
    · split
      · exact ⟨announced.functions, announced.callLimit⟩
      · exact ⟨announced.functions, announced.callLimit⟩

theorem enter_pace (node : Instruction) (frames : List Frame) (e : Engine) : e.SamePace (e.enter node frames) := by
  have announced : e.SamePace (e.announce node) := by
    have same := (announce_terms node e).pace
    exact ⟨same.baseDelay, same.speed, same.interactive⟩
  rw [enter_eq]
  split
  · exact ⟨rfl, rfl, rfl⟩
  · split
    · exact announced.trans ⟨rfl, rfl, rfl⟩
    · exact announced.trans ⟨rfl, rfl, rfl⟩

theorem conclude_pace (e : Engine) : e.SamePace e.conclude := by
  unfold conclude
  split
  · exact ⟨rfl, rfl, rfl⟩
  · exact ⟨rfl, rfl, rfl⟩

theorem proceed_pace (e : Engine) (frames : List Frame) : e.SamePace (e.proceed frames) := by
  rcases proceed_cases e frames with ⟨mid, quiet, ends | ⟨-, ends⟩ | ⟨halt, ends⟩ | ⟨node, after, ends⟩⟩
  · exact ends ▸ quiet.terms.pace.trans (conclude_pace mid)
  · exact ends ▸ quiet.terms.pace.trans ⟨rfl, rfl, rfl⟩
  · exact ends ▸ quiet.terms.pace.trans ⟨rfl, rfl, rfl⟩
  · exact ends ▸ quiet.terms.pace.trans (enter_pace node after mid)

theorem perform_pace {node : Instruction} {frames after : List Frame} {e next : Engine}
    (performed : e.perform node frames = .onward next after) : e.SamePace next := by
  rcases perform_onward performed with quiet | ⟨world, note, rfl⟩ | ⟨registers, note, rfl⟩
  · exact quiet.terms.pace
  · exact ⟨rfl, rfl, rfl⟩
  · exact ⟨rfl, rfl, rfl⟩

theorem advance_pace (e : Engine) : e.SamePace e.advance := by
  fun_cases advance e with
  | case1 frames phase => exact proceed_pace e frames
  | case2 suspension frames phase cancelled => exact ⟨rfl, rfl, rfl⟩
  | case3 suspension frames phase running next after performed =>
    exact (perform_pace performed).trans (proceed_pace next after)
  | case4 suspension frames phase running last performed =>
    rcases perform_ended performed with ⟨mid, halt, quiet, rfl⟩
    exact quiet.terms.pace.trans ⟨rfl, rfl, rfl⟩
  | case5 phase | case6 result phase => exact ⟨rfl, rfl, rfl⟩

theorem phase_of_pending {e : Engine} {suspension : Suspension} (pending : e.pending? = some suspension) :
    ∃ frames, e.phase = .active (some suspension) frames := by
  unfold pending? at pending
  split at pending
  · rename_i frames phase
    subst pending
    exact ⟨frames, phase⟩
  · cases pending

theorem isActive_of_pending {e : Engine} {suspension : Suspension} (pending : e.pending? = some suspension) :
    e.isActive = true := by
  rcases phase_of_pending pending with ⟨frames, phase⟩
  simp [isActive, phase]

theorem pending?_of_over {e : Engine} (finished : e.isActive = false) : e.pending? = none := by
  cases pending : e.pending? with
  | none => rfl
  | some suspension =>
    rw [isActive_of_pending pending] at finished
    cases finished

theorem advance_of_cancelled {e : Engine} {suspension : Suspension} (pending : e.pending? = some suspension)
    (cancelled : e.cancelled = true) : e.advance = e.abort := by
  rcases phase_of_pending pending with ⟨frames, phase⟩
  simp [advance, phase, cancelled]

theorem advance_onward {e next : Engine} {suspension : Suspension} {frames after : List Frame}
    (phase : e.phase = .active (some suspension) frames) (running : e.cancelled = false)
    (performed : e.perform suspension.node frames = .onward next after) : e.advance = next.proceed after := by
  simp [advance, phase, running, performed]

theorem advance_ended {e last : Engine} {suspension : Suspension} {frames : List Frame}
    (phase : e.phase = .active (some suspension) frames) (running : e.cancelled = false)
    (performed : e.perform suspension.node frames = .ended last) : e.advance = last := by
  simp [advance, phase, running, performed]

theorem advance_of_over {e : Engine} (finished : e.isActive = false) : e.advance = e := by
  fun_cases advance e with
  | case1 frames phase | case2 suspension frames phase => simp [isActive, phase] at finished
  | case3 suspension frames phase | case4 suspension frames phase => simp [isActive, phase] at finished
  | case5 phase | case6 result phase => rfl

theorem conclude_pending (e : Engine) : e.conclude.pending? = none := by
  unfold conclude
  split <;> rfl

def Suspends (e : Engine) (s : Suspension) : Prop := s.interactive = e.interactive ∧ e.delay = .ok s.delay

theorem SamePace.suspends {e next : Engine} {s : Suspension} (same : e.SamePace next) (suspends : next.Suspends s) :
    e.Suspends s :=
  ⟨suspends.1.trans same.interactive, same.delay.symm.trans suspends.2⟩

theorem enter_suspends {node : Instruction} {frames : List Frame} {e : Engine} {s : Suspension}
    (pending : (e.enter node frames).pending? = some s) : e.Suspends s := by
  rw [enter_eq] at pending
  split at pending
  · cases pending
  · split at pending
    · cases pending
    · rename_i delay computed
      cases pending
      have announced : { e with executed := e.executed + 1 }.SamePace (e.announce node) := (announce_terms node e).pace
      exact announced.suspends ⟨rfl, computed⟩

theorem proceed_suspends {frames : List Frame} {e : Engine} {s : Suspension}
    (pending : (e.proceed frames).pending? = some s) : e.Suspends s := by
  rcases proceed_cases e frames with ⟨mid, quiet, ends | ⟨-, ends⟩ | ⟨halt, ends⟩ | ⟨node, after, ends⟩⟩
  · rw [ends, conclude_pending] at pending
    cases pending
  · rw [ends] at pending
    cases pending
  · rw [ends] at pending
    cases pending
  · rw [ends] at pending
    exact quiet.terms.pace.suspends (enter_suspends pending)

theorem advance_suspends {e : Engine} {s : Suspension} (pending : e.advance.pending? = some s) :
    e.Suspends s := by
  revert pending
  fun_cases advance e with intro pending
  | case1 frames phase => exact proceed_suspends pending
  | case2 suspension frames phase cancelled => cases pending
  | case3 suspension frames phase running next after performed =>
    exact (perform_pace performed).suspends (proceed_suspends pending)
  | case4 suspension frames phase running last performed =>
    rcases perform_ended performed with ⟨mid, halt, -, rfl⟩
    cases pending
  | case5 phase | case6 result phase => simp [pending?, phase] at pending

def armed (program : Body) (functions : FunctionTable) (speed interactive : Json) (e : Engine) : Engine :=
  { e with
    speed, interactive, cancelled := false, functions, executed := 0
    phase := .active none [.block program] }.log .started

theorem begin_eq_armed {e : Engine} (program : Body) (functions : FunctionTable) {speed : Json}
    (interactive : Json)
    (idle : e.isActive = false) (positive : Relation.greater.check speed (.int 0) = .ok true) :
    e.begin program functions speed interactive = (e.armed program functions speed interactive, .ok ()) := by
  unfold begin
  simp only [idle, Relation.not_atMost_of_greater positive]
  rfl

theorem armed_of_begin {e first : Engine} {program : Body} {functions : FunctionTable}
    {speed interactive : Json}
    (begun : e.begin program functions speed interactive = (first, .ok ())) :
    first = e.armed program functions speed interactive := by
  unfold begin at begun
  split at begun
  · cases begun
  · split at begun
    · cases begun
    · cases begun
    · cases begun
      rfl

end GridRobot.Engine
