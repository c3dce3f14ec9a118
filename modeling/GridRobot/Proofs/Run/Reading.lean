import GridRobot.Run.Host
import GridRobot.Run.Meaning

/-!
A run beside the plain evaluator. What is left of a run is a stack of frames, and where it leads depends on what the
calls do that are made from there. A `Frame.Reading` says so, and `Engine.LeadsBy` says that a run leads somewhere by a
reading of its calls; the evaluator may count fewer instructions than the engine. Whatever calls do, the engine treats
everything else as the evaluator does: `perform_courseBy`, `perform_halts` and `proceed_leadsBy` hold by any reading.
-/
namespace GridRobot

open Instruction (bodyMeaning)

namespace Course

theorem andThen_onward (course : Course) : course.andThen Trail.onward = course := by
  obtain ⟨trail, halt⟩ := course
  cases halt <;> rfl

@[simp] theorem onward_andThen (trail : Trail) (next : Trail → Course) :
    trail.onward.andThen next = next trail := rfl

@[simp] theorem stop_andThen (trail : Trail) (halt : Halt) (next : Trail → Course) :
    (trail.stop halt).andThen next = trail.stop halt := rfl

theorem andThen_assoc (course : Course) (f g : Trail → Course) :
    (course.andThen f).andThen g = course.andThen fun trail => (f trail).andThen g := by
  obtain ⟨trail, halt⟩ := course
  cases halt <;> rfl

end Course

namespace FunctionTable

variable {functions : FunctionTable} {name : Json}

theorem call_undefined (missing : functions.look name = .ok none) (limit : CallLimit) (room : Nat) (trail : Trail) :
    functions.call limit room name trail = trail.onward := by
  unfold call
  simp only [missing]

theorem call_fault {fault : KeyFault} (unusable : functions.look name = .error fault) (limit : CallLimit) (room : Nat)
    (trail : Trail) : functions.call limit room name trail = trail.stop (.fault (.name fault)) := by
  unfold call
  simp only [unusable]

end FunctionTable

namespace Frame

def course (calls : Json → Trail → Course) : Frame → Trail → Course
  | .block rest => bodyMeaning calls rest
  | .repeating loop done body => Course.rounds (bodyMeaning calls body) (loop.rounds - done)
  | .looping condition body done => Course.loop condition (bodyMeaning calls body) (maxIterations - done)
  | .calling _ => Trail.onward

abbrev Reading := List Frame → Json → Trail → Course

/-- A call does the same from inside a loop or a body as from outside. -/
def Reading.IsSteady (calls : Reading) : Prop :=
  ∀ (frame : Frame) (frames : List Frame), frame.isCall = false → calls (frame :: frames) = calls frames

/-- Where a stack of frames leads: what the innermost has left to do, and then the rest. -/
def courseBy (calls : Reading) : List Frame → Trail → Course
  | [], trail => trail.onward
  | frame :: outer, trail => (frame.course (calls outer) trail).andThen (courseBy calls outer)

def courseFrom (calls : Reading) (node : Instruction) (frames : List Frame) (trail : Trail) : Course :=
  (node.meaning (calls frames) trail).andThen (courseBy calls frames)

section Courses

variable {calls : Reading} (steady : calls.IsSteady)
include steady

theorem courseBy_block (node : Instruction) (rest : Body) (outer : List Frame) (trail : Trail) :
    courseBy calls (.block (node :: rest) :: outer) trail =
      courseFrom calls node (.block rest :: outer) trail.enter := by
  have inner : calls (.block rest :: outer) = calls outer := steady _ _ rfl
  simp only [courseFrom, courseBy, course, bodyMeaning, inner, Course.andThen_assoc]

theorem courseBy_repeating {loop : Repetition} {done : Nat} (more : done < loop.rounds) (body : Body)
    (outer : List Frame) (trail : Trail) :
    courseBy calls (.repeating loop done body :: outer) trail =
      courseBy calls (.block body :: .repeating loop (done + 1) body :: outer) trail := by
  have inner : calls (.repeating loop (done + 1) body :: outer) = calls outer := steady _ _ rfl
  obtain ⟨left, here⟩ : ∃ left, loop.rounds - done = left + 1 := ⟨loop.rounds - done - 1, by omega⟩
  have next : loop.rounds - (done + 1) = left := by omega
  simp only [courseBy, course, inner, here, next, Course.rounds, Course.andThen_assoc]

end Courses

end Frame

open GridRobot.Frame (courseBy courseFrom)

namespace Engine

/-- Where a run stands for an evaluator that has counted so many instructions. -/
def trailAt (counted : Nat) (e : Engine) : Trail := ⟨e.world, e.draws, counted⟩

/-- A run ends as a course does, or what is left of it leads there by a reading of its calls. The course counts all its
instructions but `spared` of them. -/
def LeadsBy (calls : Frame.Reading) (spared : Nat) (course : Course) (e : Engine) : Prop :=
  ∃ counted, e.executed = counted + spared ∧ match e.phase with
    | .idle => False
    | .active none frames => courseBy calls frames (e.trailAt counted) = course
    | .active (some suspension) frames =>
      0 < counted ∧ courseFrom calls suspension.node frames (e.trailAt counted) = course
    | .completed result => result = ⟨course.ending, e.world, e.executed⟩ ∧ e.trailAt counted = course.trail

theorem LeadsBy.reached {calls : Frame.Reading} {spared : Nat} {course : Course} {e : Engine}
    (leads : e.LeadsBy calls spared course) (finished : e.isActive = false) :
    e.result? = some ⟨course.ending, e.world, e.executed⟩ ∧
      ∃ counted, e.executed = counted + spared ∧ e.trailAt counted = course.trail := by
  obtain ⟨counted, counts, there⟩ := leads
  cases phase : e.phase with
  | idle =>
    rw [phase] at there
    exact there.elim
  | active pending frames => simp [isActive, phase] at finished
  | completed result =>
    rw [phase] at there
    obtain ⟨rfl, reached⟩ := there
    refine ⟨?_, counted, counts, reached⟩
    simp [result?, phase]

/-- What may keep a run from ending as its program does: a request to stop, or a pause that cannot be computed. -/
inductive IsBrokenOff (e : Engine) : Prop
  | cancelled {result : RunResult} (phase : e.phase = .completed result) (aborted : result.ending = .aborted)
      (requested : e.cancelled = true)
  | faltered {fault : PauseFault} (falters : e.Falters fault)

theorem IsBrokenOff.over {e : Engine} (broken : e.IsBrokenOff) : e.isActive = false := by
  cases broken with
  | cancelled phase => simp [isActive, phase]
  | faltered falters => exact isActive_of_fault falters.1

theorem cancelled_abort {e : Engine} (cancelled : e.cancelled = true) : e.abort.cancelled = true := by
  have noted : (e.log .aborted).cancelled = true := (cancelled_logAs _ _ e).trans cancelled
  simp [abort, finish, emit, noted]

theorem abort_isBrokenOff {e : Engine} (cancelled : e.cancelled = true) : e.abort.IsBrokenOff :=
  .cancelled rfl rfl (cancelled_abort cancelled)

variable {e next last : Engine} {counted spared : Nat}

@[simp] theorem trailAt_log (counted : Nat) (note : Note) (e : Engine) :
    (e.log note).trailAt counted = e.trailAt counted := rfl

theorem trailAt_logAll (counted : Nat) (notes : List Note) (e : Engine) :
    (e.logAll notes).trailAt counted = e.trailAt counted := by
  induction notes generalizing e with
  | nil => rfl
  | cons note rest ih => exact ih (e.log note)

@[simp] theorem trailAt_announceLoop (counted : Nat) (condition : Condition) (e : Engine) :
    (e.announceLoop condition).trailAt counted = e.trailAt counted := by
  unfold announceLoop
  split <;> rfl

theorem trailAt_announce (counted : Nat) (node : Instruction) (e : Engine) :
    (e.announce node).trailAt (counted + 1) = (e.trailAt counted).enter := by
  unfold announce
  dsimp only
  split <;> rfl

theorem branch_of_fault {condition : Condition} {fault : RunFault} (tested : e.test condition = (next, .error fault))
    (counted : Nat) (onward : Bool → Trail → Course) :
    (e.trailAt counted).branch condition onward = (next.trailAt counted).stop (.fault fault) := by
  obtain ⟨rfl, failed⟩ := Prod.mk.inj tested
  have evaluated : (condition.evaluate (e.trailAt counted).world (e.trailAt counted).draws).value = .error fault :=
    failed
  rw [trailAt_logAll]
  simp only [Trail.branch, evaluated]
  rfl

theorem branch_of_value {condition : Condition} {value : Bool} (tested : e.test condition = (next, .ok value))
    (counted : Nat) (onward : Bool → Trail → Course) :
    (e.trailAt counted).branch condition onward = onward value (next.trailAt counted) := by
  obtain ⟨rfl, held⟩ := Prod.mk.inj tested
  have evaluated : (condition.evaluate (e.trailAt counted).world (e.trailAt counted).draws).value = .ok value := held
  rw [trailAt_logAll]
  simp only [Trail.branch, evaluated]
  rfl

/-! ### On the way to the next instruction -/

section Proceed

variable {calls : Frame.Reading} (counts : e.executed = counted + spared)
include counts

theorem stop_leadsBy (calls : Frame.Reading) (halt : Halt) :
    (e.stop halt).LeadsBy calls spared ((e.trailAt counted).stop halt) := ⟨counted, counts, rfl, rfl⟩

theorem conclude_leadsBy (calls : Frame.Reading) : e.conclude.LeadsBy calls spared (e.trailAt counted).onward := by
  unfold conclude
  by_cases there : e.world.atGoal = true
  · rw [if_pos there]
    refine ⟨counted, counts, ?_, rfl⟩
    simp [Course.ending, Trail.onward, trailAt, there, finish, log, logAs, emit]
  · rw [if_neg there]
    refine ⟨counted, counts, ?_, rfl⟩
    simp [Course.ending, Trail.onward, trailAt, there, finish, log, logAs, emit]

theorem enter_leadsBy (node : Instruction) (frames : List Frame) :
    (e.enter node frames).IsBrokenOff ∨
      (e.enter node frames).LeadsBy calls spared (courseFrom calls node frames (e.trailAt counted).enter) := by
  rw [enter_eq]
  split
  · rename_i cancelled
    exact .inl (abort_isBrokenOff cancelled)
  · split
    · rename_i fault failed
      exact .inl (.faltered ⟨rfl, failed⟩)
    · right
      refine ⟨counted + 1, ?_, Nat.succ_pos counted, ?_⟩
      · have entered := announce_executed node e
        change (e.announce node).executed = counted + 1 + spared
        omega
      · exact congrArg (courseFrom calls node frames) (trailAt_announce counted node e)

theorem proceed_leadsBy (steady : calls.IsSteady) (frames : List Frame) :
    (e.proceed frames).IsBrokenOff ∨
      (e.proceed frames).LeadsBy calls spared (courseBy calls frames (e.trailAt counted)) := by
  -- Along the recursion of `proceed`: what a case takes off the frames is the first step of their course.
  fun_induction proceed e frames with
  | case1 e => exact .inr (conclude_leadsBy counts calls)
  | case2 e outer ih => exact ih counts
  | case3 e node rest outer =>
    rw [Frame.courseBy_block steady]
    exact enter_leadsBy counts node _
  | case4 e name outer ih => exact ih counts
  | case5 e loop done body outer more cancelled => exact .inl (abort_isBrokenOff cancelled)
  | case6 e loop done body outer more cancelled ih =>
    rw [Frame.courseBy_repeating steady more]
    exact ih counts
  | case7 e loop done body outer more ih =>
    have finished : loop.rounds - done = 0 := by omega
    simpa [courseBy, Frame.course, finished, Course.rounds] using ih counts
  | case8 e condition body done outer cancelled => exact .inl (abort_isBrokenOff cancelled)
  | case9 e condition body done outer cancelled next fault tested =>
    -- The test comes before the limit, so a course breaks here even after its last round.
    have stopped : courseBy calls (.looping condition body done :: outer) (e.trailAt counted) =
        (next.trailAt counted).stop (.fault fault) := by
      simp only [courseBy, Frame.course]
      cases maxIterations - done <;> simp [Course.loop, branch_of_fault tested]
    rw [stopped]
    exact .inr (stop_leadsBy ((deliberates_of_test tested).terms.executed.trans counts) calls (.fault fault))
  | case10 e condition body done outer cancelled next more tested ih =>
    have inner : calls (.looping condition body (done + 1) :: outer) = calls outer := steady _ _ rfl
    obtain ⟨left, here⟩ : ∃ left, maxIterations - done = left + 1 := ⟨maxIterations - done - 1, by omega⟩
    have following : maxIterations - (done + 1) = left := by omega
    have onward := ih ((deliberates_of_test tested).terms.executed.trans counts)
    simpa [courseBy, Frame.course, inner, here, following, Course.loop, branch_of_value tested,
      Course.andThen_assoc] using onward
  | case11 e condition body done outer cancelled next value tested more low ih =>
    obtain ⟨left, here⟩ : ∃ left, maxIterations - done = left + 1 := ⟨maxIterations - done - 1, by omega⟩
    have onward := ih ((deliberates_of_test tested).terms.executed.trans counts)
    simpa [courseBy, Frame.course, here, Course.loop, branch_of_value tested, low] using onward
  | case12 e condition body done outer cancelled next value tested more =>
    have spent : maxIterations - done = 0 := by omega
    have stopped : courseBy calls (.looping condition body done :: outer) (e.trailAt counted) =
        (next.trailAt counted).stop (.failure .loopLimit) := by
      simp [courseBy, Frame.course, spent, Course.loop, branch_of_value tested]
    rw [stopped]
    exact .inr (stop_leadsBy ((deliberates_of_test tested).terms.executed.trans counts) calls (.failure .loopLimit))

end Proceed

/-! ### Executing an instruction that is no call -/

section Perform

variable {calls : Frame.Reading} {node : Instruction} {frames after : List Frame}
  (plain : ∀ name, node ≠ .call name)
include plain

theorem perform_courseBy (steady : calls.IsSteady) (performed : e.perform node frames = .onward next after)
    (counted : Nat) :
    courseBy calls after (next.trailAt counted) = courseFrom calls node frames (e.trailAt counted) := by
  have inner (frame : Frame) (other : frame.isCall = false) : calls (frame :: frames) = calls frames := steady _ _ other
  rw [courseFrom]
  revert performed
  fun_cases perform node frames e with rintro ⟨⟩
  | case2 world moved =>
    have free : (e.trailAt counted).world.move = .ok world := moved
    simp only [Instruction.meaning, free]
    rfl
  | case6 r value n read =>
    simp only [Instruction.meaning, read]
    rfl
  | case11 count body shown said loop rounds =>
    have counted : Repetition.ofCount count = .ok loop := by
      rw [Repetition.ofCount, said]
      exact rounds
    simp only [Instruction.meaning, counted, courseBy, Frame.course, Nat.sub_zero, trailAt_log]
  | case13 condition body next value tested | case15 condition thenBody elseBody next value tested =>
    simp only [Instruction.meaning, branch_of_value tested, trailAt_log]
    cases value <;> simp [courseBy, Frame.course]
  | case16 condition body => simp [Instruction.meaning, courseBy, Frame.course]
  | case18 name | case20 name => exact absurd rfl (plain name)
  -- Turns, steps of a register and what is passed over mean the same by definition.
  | _ => rfl

theorem perform_halts (performed : e.perform node frames = .ended last) (counted : Nat)
    (calls : Json → Trail → Course) :
    ∃ (mid : Engine) (halt : Halt), last = mid.stop halt ∧ mid.executed = e.executed ∧
      node.meaning calls (e.trailAt counted) = (mid.trailAt counted).stop halt := by
  revert performed
  fun_cases perform node frames e with rintro ⟨⟩
  | case1 collision blocked =>
    have stopped : (e.trailAt counted).world.move = .error collision := blocked
    refine ⟨e.log (.blocked collision.cell), .failure (.collision collision.cell), rfl, rfl, ?_⟩
    simp only [Instruction.meaning, stopped]
    rfl
  | case5 r value fault unread =>
    refine ⟨e, .fault (.value fault), rfl, rfl, ?_⟩
    simp only [Instruction.meaning, unread]
  | case9 count body fault unsaid =>
    have uncounted : Repetition.ofCount count = .error fault := by
      rw [Repetition.ofCount, unsaid]
      rfl
    refine ⟨e, .fault fault, rfl, rfl, ?_⟩
    simp only [Instruction.meaning, uncounted]
  | case10 count body shown said fault unfit =>
    have uncounted : Repetition.ofCount count = .error fault := by
      rw [Repetition.ofCount, said]
      exact unfit
    refine ⟨e.log (.repeating shown.text), .fault fault, rfl, rfl, ?_⟩
    simp only [Instruction.meaning, uncounted]
    rfl
  | case12 condition body next fault tested | case14 condition thenBody elseBody next fault tested =>
    refine ⟨next, .fault fault, rfl, (deliberates_of_test tested).terms.executed, ?_⟩
    simp only [Instruction.meaning, branch_of_fault tested]
  | case17 name | case19 name => exact absurd rfl (plain name)

end Perform

end Engine

end GridRobot
