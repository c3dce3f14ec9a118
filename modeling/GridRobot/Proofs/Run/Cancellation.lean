import GridRobot.Proofs.Run.Calls
import GridRobot.Proofs.Run.Effect

/-!
What is left of a run that is asked to stop. The flag may be set by the host between two advances, or by an observer
that is told of an instruction that is entered or has acted. `Rests` says that nothing happened from one engine to
another but notes; a cancelled engine rests until another run is begun.
-/
namespace GridRobot

def HostCall.IsHandsOff : HostCall → Prop
  | .meddle (.register ..) | .meddle (.setWorld _) => False
  | _ => True

namespace Engine

variable {e next : Engine}

def restarts (e : Engine) : List HostCall → Bool
  | [] => false
  | call :: rest => e.accepts call || (e.undergo call).restarts rest

/-- Nothing was entered or drawn, and the request to stop stands. -/
structure Stands (e next : Engine) : Prop where
  entered : next.entered = e.entered
  draws : next.draws = e.draws
  cancelled : next.cancelled = true

/-- Nor did the world change. -/
structure Rests (e next : Engine) : Prop extends e.Stands next where
  world : next.world = e.world

theorem Stands.trans {mid : Engine} (first : e.Stands mid) (second : mid.Stands next) : e.Stands next where
  entered := second.entered.trans first.entered
  draws := second.draws.trans first.draws
  cancelled := second.cancelled

theorem Rests.trans {mid : Engine} (first : e.Rests mid) (second : mid.Rests next) : e.Rests next where
  toStands := first.toStands.trans second.toStands
  world := second.world.trans first.world

section Cancelled

variable (cancelled : e.cancelled = true)
include cancelled

theorem rests_refl : e.Rests e := ⟨⟨rfl, rfl, cancelled⟩, rfl⟩

theorem log_rests (note : Note) : e.Rests (e.log note) := by
  constructor
  · exact ⟨entered_logAs _ _ e, rfl, (cancelled_logAs _ _ e).trans cancelled⟩
  · rfl

theorem finish_rests (ending : Ending) : e.Rests (e.finish ending) := by
  constructor
  · constructor
    · simp [entered, finish, emit]
    · rfl
    · simp [finish, emit, cancelled]
  · rfl

theorem stop_rests (halt : Halt) : e.Rests (e.stop halt) :=
  have logged := log_rests cancelled halt.note
  logged.trans (finish_rests logged.cancelled _)

theorem abort_rests : e.Rests e.abort :=
  have logged := log_rests cancelled .aborted
  logged.trans (finish_rests logged.cancelled _)

theorem conclude_rests : e.Rests e.conclude := by
  unfold conclude
  split
  · exact (log_rests cancelled _).trans (finish_rests (log_rests cancelled _).cancelled _)
  · exact (log_rests cancelled _).trans (finish_rests (log_rests cancelled _).cancelled _)

theorem proceed_rests (frames : List Frame) : e.Rests (e.proceed frames) ∧ (e.proceed frames).isActive = false := by
  fun_induction proceed e frames with
  | case1 e =>
    refine ⟨conclude_rests cancelled, ?_⟩
    unfold conclude
    split <;> rfl
  | case2 e outer ih => exact ih cancelled
  | case3 e node rest outer =>
    rw [enter_eq, if_pos cancelled]
    exact ⟨abort_rests cancelled, rfl⟩
  | case4 e name outer ih =>
    have logged := log_rests cancelled (.returned name)
    rcases ih logged.cancelled with ⟨rests, ended⟩
    exact ⟨logged.trans rests, ended⟩
  | case5 e loop done body outer more stopped => exact ⟨abort_rests cancelled, rfl⟩
  | case6 e loop done body outer more running ih => exact (running cancelled).elim
  | case7 e loop done body outer finished ih => exact ih cancelled
  | case8 e condition body done outer stopped => exact ⟨abort_rests cancelled, rfl⟩
  | case9 e condition body done outer running => exact (running cancelled).elim
  | case10 e condition body done outer running => exact (running cancelled).elim
  | case11 e condition body done outer running => exact (running cancelled).elim
  | case12 e condition body done outer running => exact (running cancelled).elim

theorem advance_rests : e.Rests e.advance := by
  fun_cases advance e with
  | case1 frames phase => exact (proceed_rests cancelled frames).1
  | case2 suspension frames phase stopped => exact abort_rests cancelled
  | case3 suspension frames phase running => exact (running cancelled).elim
  | case4 suspension frames phase running => exact (running cancelled).elim
  | case5 phase | case6 result phase => exact rests_refl cancelled

theorem declined_rests (declined : next = e ∨ next = e.log .alreadyRunning) : e.Rests next := by
  rcases declined with rfl | rfl
  · exact rests_refl cancelled
  · exact log_rests cancelled _

theorem meddle_stands {meddling : Meddling} (declined : e.begins meddling = false) :
    e.Stands (e.meddle meddling) := by
  have same := meddle_declined declined
  constructor
  · exact same.entered
  · exact same.draws
  · cases meddling with
    | interactive | observe => exact cancelled
    | cancel => rfl
    | log content severity => exact (cancelled_logAs _ _ e).trans cancelled
    | begin program functions speed interactive => exact (declined_rests cancelled (begin_of_declined declined)).cancelled
    | register name value =>
      unfold meddle
      dsimp only
      split
      · exact cancelled
      · exact cancelled
    | setWorld world =>
      by_cases active : e.isActive = true
      · rw [meddle_setWorld active]
        exact cancelled
      · simp [meddle, setWorld, active, cancelled]

theorem undergo_stands {call : HostCall} (declined : e.accepts call = false) : e.Stands (e.undergo call) := by
  cases call with
  | advance =>
    rw [undergo, resume_engine]
    exact (advance_rests cancelled).toStands
  | meddle meddling => exact meddle_stands cancelled declined
  | run program functions speed interactive actions => exact (declined_rests cancelled (run_declined declined)).toStands

theorem undergo_world {call : HostCall} (declined : e.accepts call = false) (handsOff : call.IsHandsOff) :
    (e.undergo call).world = e.world := by
  cases call with
  | advance =>
    rw [undergo, resume_engine]
    exact (advance_rests cancelled).world
  | run program functions speed interactive actions => exact (declined_rests cancelled (run_declined declined)).world
  | meddle meddling =>
    cases meddling with
    | register | setWorld => exact handsOff.elim
    | interactive | cancel | observe | log => rfl
    | begin program functions speed interactive =>
      exact (declined_rests cancelled (begin_of_declined declined)).world

end Cancelled

theorem cancelled_finish (ending : Ending) (e : Engine) : (e.finish ending).cancelled = e.cancelled := by
  simp [finish, emit, Observer.react, Event.isStep]

theorem cancelled_stop (halt : Halt) (e : Engine) : (e.stop halt).cancelled = e.cancelled :=
  (cancelled_finish _ _).trans (cancelled_logAs _ _ e)

theorem cancelled_conclude (e : Engine) : e.conclude.cancelled = e.cancelled := by
  unfold conclude
  split
  · exact (cancelled_finish _ _).trans (cancelled_logAs _ _ e)
  · exact (cancelled_finish _ _).trans (cancelled_logAs _ _ e)

/-- Until another run is begun, no instruction is entered, no random number is drawn, and the world changes only by
the host's own hand. -/
def Standstill (e : Engine) : Prop :=
  ∀ calls, e.restarts calls = false →
    let later := e.undergoAll calls
    later.entered = e.entered ∧ later.draws = e.draws ∧ later.advance.world = later.world ∧
      ((∀ call ∈ calls, call.IsHandsOff) → later.world = e.world)

theorem undergoAll_stands (cancelled : e.cancelled = true) {calls : List HostCall} (same : e.restarts calls = false) :
    e.Stands (e.undergoAll calls) ∧ ((∀ call ∈ calls, call.IsHandsOff) → (e.undergoAll calls).world = e.world) := by
  induction calls generalizing e with
  | nil => exact ⟨⟨rfl, rfl, cancelled⟩, fun _ => rfl⟩
  | cons call rest ih =>
    rcases Bool.or_eq_false_iff.mp same with ⟨declined, others⟩
    have first := undergo_stands cancelled declined
    rcases ih first.cancelled others with ⟨stands, untouched⟩
    constructor
    · exact first.trans stands
    · intro handsOff
      have here := undergo_world cancelled declined (handsOff call (List.mem_cons_self ..))
      apply Eq.trans _ here
      apply untouched
      intro call member
      exact handsOff call (List.mem_cons_of_mem _ member)

theorem standstill_of_cancelled (cancelled : e.cancelled = true) : e.Standstill := by
  intro calls same later
  rcases undergoAll_stands cancelled same with ⟨stands, untouched⟩
  exact ⟨stands.entered, stands.draws, (advance_rests stands.cancelled).world, untouched⟩

/-- Once it is cancelled, at whatever time before the next `advance` and with whatever else the host does except to
write registers, that `advance` answers nothing more: the run was aborted in this world, at that suspension. -/
def HeedsAt (s : Suspension) (world : World) (e : Engine) : Prop :=
  ∀ visit : List Meddling, (∀ m ∈ visit, m.IsHandsOff) →
    let left := visit.foldl meddle e
    left.cancelled = true →
      left.resume.2 = .ok none ∧ left.resume.1.result? = some ⟨.aborted, world, s.index⟩

theorem resume_of_cancelled {s : Suspension} (pending : e.pending? = some s) (cancelled : e.cancelled = true) :
    e.resume = (e.abort, .ok none) := by
  unfold resume
  rw [if_pos (isActive_of_pending pending), advance_of_cancelled pending cancelled]
  rfl

theorem heedsAt_of_pending {s : Suspension} (pending : e.pending? = some s) (index : s.index = e.executed) :
    e.HeedsAt s e.world := by
  intro visit handsOff left cancelled
  have active := isActive_of_pending pending
  have same := visit_sameRun visit active
  have suspended : left.pending? = some s := by
    unfold pending? at pending ⊢
    rwa [same.phase]
  rw [resume_of_cancelled suspended cancelled]
  refine ⟨rfl, ?_⟩
  show some (⟨.aborted, left.world, left.executed⟩ : RunResult) = _
  rw [visit_world active handsOff, same.executed, index]

def tell (node : Instruction) (e : Engine) : Engine := { e with executed := e.executed + 1 }.emit (.entered node)

def settle (node : Instruction) (frames : List Frame) (e : Engine) : Engine :=
  let e := if e.isInteractive then e.log (.pausedAt node) else e
  match e.delay with
  | .error fault => e.crash (.pause fault)
  | .ok delay => { e with phase := .active (some ⟨node, e.interactive, delay, e.executed⟩) frames }

theorem enter_eq_settle (running : e.cancelled = false) (node : Instruction) (frames : List Frame) :
    e.enter node frames = (e.tell node).settle node frames := by
  rw [enter_eq, running]
  rfl

/-- The observers were just told, and `moment` is where the engine then is: the instruction it was suspended at has
acted, and `after` is left. -/
def ActsAt (e moment : Engine) (after : List Frame) : Prop :=
  ∃ s frames, e.phase = .active (some s) frames ∧ e.cancelled = false ∧ e.perform s.node frames = .onward moment after

/-- The observers were just told, and `moment` is where the engine then is: it has entered an instruction. -/
def EntersAt (e moment : Engine) (node : Instruction) (frames : List Frame) : Prop :=
  ∃ before : Engine, before.cancelled = false ∧ e.advance = before.enter node frames ∧ moment = before.tell node

section Moments

variable {moment : Engine} {node : Instruction} {frames after : List Frame}

theorem advance_of_actsAt (acts : e.ActsAt moment after) : e.advance = moment.proceed after := by
  rcases acts with ⟨s, frames, phase, running, performed⟩
  exact advance_onward phase running performed

theorem advance_of_entersAt (enters : e.EntersAt moment node frames) : e.advance = moment.settle node frames := by
  rcases enters with ⟨before, running, reached, rfl⟩
  rw [reached, enter_eq_settle running]

theorem settle_rests (cancelled : e.cancelled = true) (node : Instruction) (frames : List Frame) :
    e.Rests (e.settle node frames) := by
  have told : e.Rests (if e.isInteractive then e.log (.pausedAt node) else e) := by
    split
    · exact log_rests cancelled _
    · exact rests_refl cancelled
  unfold settle
  dsimp only
  split
  · exact told.trans (stop_rests told.cancelled _)
  · exact told.trans ⟨⟨rfl, rfl, told.cancelled⟩, rfl⟩

theorem settle_pending {s : Suspension} (pending : (e.settle node frames).pending? = some s) :
    s.index = (e.settle node frames).executed := by
  unfold settle at pending ⊢
  dsimp only at pending ⊢
  split at pending
  · cases pending
  · cases pending
    rfl

theorem settle_suspends (paced : e.IsPaced) (node : Instruction) (frames : List Frame) :
    ∃ s, (e.settle node frames).pending? = some s ∧ s.node = node := by
  rcases paced with ⟨pause, computed⟩
  have same : (if e.isInteractive then e.log (.pausedAt node) else e).delay = .ok pause := by
    split
    · exact computed
    · exact computed
  unfold settle
  simp only [same]
  exact ⟨_, rfl, rfl⟩

theorem cancelled_settle (node : Instruction) (frames : List Frame) (e : Engine) :
    (e.settle node frames).cancelled = e.cancelled := by
  have told : (if e.isInteractive then e.log (.pausedAt node) else e).cancelled = e.cancelled := by
    split
    · exact cancelled_logAs _ _ e
    · rfl
  unfold settle
  dsimp only
  split
  · exact (cancelled_stop _ _).trans told
  · exact told

/-- From a moment at which nobody has asked to stop, a run is stopped only while it enters an instruction. -/
theorem proceed_heard (running : next.cancelled = false) (heard : (next.proceed after).cancelled = true) :
    ∃ (mid : Engine) (node : Instruction) (frames : List Frame), mid.cancelled = false ∧
      next.proceed after = mid.enter node frames ∧ (mid.tell node).cancelled = true := by
  rcases proceed_cases next after with ⟨mid, quiet, ends | ⟨stopped, -⟩ | ⟨halt, ends⟩ | ⟨node, frames, ends⟩⟩
  · rw [ends, cancelled_conclude, quiet.cancelled, running] at heard
    cases heard
  · rw [quiet.cancelled, running] at stopped
    cases stopped
  · rw [ends, cancelled_stop, quiet.cancelled, running] at heard
    cases heard
  · have going : mid.cancelled = false := quiet.cancelled.trans running
    refine ⟨mid, node, frames, going, ends, ?_⟩
    rwa [ends, enter_eq_settle going, cancelled_settle] at heard

theorem advance_heard (running : e.cancelled = false) (heard : e.advance.cancelled = true) :
    (∃ moment after, e.ActsAt moment after ∧ moment.cancelled = true) ∨
      ∃ moment node frames, e.EntersAt moment node frames ∧ moment.cancelled = true := by
  revert heard
  fun_cases advance e with intro heard
  | case1 frames phase =>
    rcases proceed_heard running heard with ⟨mid, node, left, going, reached, stopped⟩
    refine .inr ⟨mid.tell node, node, left, ⟨mid, going, ?_, rfl⟩, stopped⟩
    simp [Engine.advance, phase, reached]
  | case2 suspension frames phase stopped =>
    rw [running] at stopped
    cases stopped
  | case3 suspension frames phase unstopped next after performed =>
    -- The run is stopped by what is performed, or else by what is entered after it.
    cases acted : next.cancelled with
    | true => exact .inl ⟨next, after, ⟨suspension, frames, phase, running, performed⟩, acted⟩
    | false =>
      rcases proceed_heard acted heard with ⟨mid, node, left, going, reached, stopped⟩
      refine .inr ⟨mid.tell node, node, left, ⟨mid, going, ?_, rfl⟩, stopped⟩
      rw [advance_onward phase running performed, reached]
  | case4 suspension frames phase unstopped last performed =>
    rcases perform_ended performed with ⟨mid, halt, quiet, rfl⟩
    rw [cancelled_stop, quiet.cancelled, running] at heard
    cases heard
  | case5 phase | case6 result phase =>
    rw [running] at heard
    cases heard

end Moments

structure HeedsCancel (e : Engine) : Prop where
  /-- Between two advances. -/
  between : e.cancelled = true → e.Standstill
  pending : ∀ s, e.pending? = some s → e.HeedsAt s e.world
  /-- Made when an instruction has acted, it ends the run within that `advance`. -/
  acted : ∀ moment after, e.ActsAt moment after →
    let last := moment.cancel.proceed after
    e.advance = moment.proceed after ∧ moment.Rests last ∧ last.Standstill ∧ last.isActive = false
  /-- Made when an instruction is entered, it is heard by the next `advance`. -/
  entered : ∀ moment node frames, e.EntersAt moment node frames →
    let last := moment.cancel.settle node frames
    e.advance = moment.settle node frames ∧ moment.Rests last ∧ last.Standstill ∧
      (moment.IsPaced → ∃ s, last.pending? = some s ∧ s.node = node) ∧
      ∀ s, last.pending? = some s → last.HeedsAt s moment.world
  /-- At no other moment of an `advance` is it made. -/
  heard : e.cancelled = false → e.advance.cancelled = true →
    (∃ moment after, e.ActsAt moment after ∧ moment.cancelled = true) ∨
      ∃ moment node frames, e.EntersAt moment node frames ∧ moment.cancelled = true

theorem IsPlaced.heedsCancel {limit : CallLimit} (placed : e.IsPlaced limit) : e.HeedsCancel where
  between := standstill_of_cancelled
  pending s pending := heedsAt_of_pending pending (placed.index s pending)
  acted := by
    intro moment after acts last
    rcases proceed_rests (e := moment.cancel) rfl after with ⟨rests, ended⟩
    refine ⟨advance_of_actsAt acts, ?_, standstill_of_cancelled rests.cancelled, ended⟩
    exact ⟨⟨rests.entered, rests.draws, rests.cancelled⟩, rests.world⟩
  entered := by
    intro moment node frames enters last
    have rests := settle_rests (e := moment.cancel) rfl node frames
    refine ⟨advance_of_entersAt enters, ?_, standstill_of_cancelled rests.cancelled, ?_, ?_⟩
    · exact ⟨⟨rests.entered, rests.draws, rests.cancelled⟩, rests.world⟩
    · intro paced
      exact settle_suspends (e := moment.cancel) paced node frames
    · intro s pending
      have world : last.world = moment.world := rests.world
      rw [← world]
      exact heedsAt_of_pending pending (settle_pending pending)
  heard := advance_heard

/-- Whatever a host has called on an engine, a request to stop is heeded: made between two advances or by an observer
within one, nothing is entered, drawn or done from then on until another run is begun, and a run that is suspended
is aborted where it is. -/
theorem heedsCancel_among_calls (world : World) (draws : Draws) (observers : List Observer) (baseDelay : Json)
    (callLimit : CallLimit) (calls : List HostCall) :
    let first : Engine := { world, draws, observers, baseDelay, callLimit }
    (first.undergoAll calls).HeedsCancel := by
  intro first
  have staged : first.IsStaged callLimit 0 := by
    constructor
    · exact .of_over rfl rfl
    · rfl
  exact (staged.undergoAll calls).toIsPlaced.heedsCancel

-- A watchdog stops a run at its sixth instruction, in a loop inside a call inside a call inside a loop; the coin of
-- the next loop is never tossed.
example :
    let first : Engine :=
      { world := .ofBoard { size := 3, start := ⟨⟨0, 0⟩, .right, false⟩, goal := ⟨2, 0⟩, obstacles := [] }
        draws := .ofList [.int 0], observers := [.watchdog "Stop" (some (.int 6)) none], baseDelay := .int 0
        callLimit := .ofInt 5 }
    let functions : FunctionTable :=
      [(.str "f", [.increment .r1, .call (.str "g")]),
        (.str "g", [.repeatTimes (.int 2) [.turnLeft, .whileDo (.sensor .coin) [.move]]])]
    let begun : HostCall := .meddle (.begin [.whileDo (.sensor .always) [.call (.str "f")]] functions (.int 1) (.bool false))
    let stopped := first.undergoAll
      [begun, .advance, .advance, .advance, .advance, .advance, .advance, .meddle (.interactive (.bool true))]
    stopped.cancelled = true ∧ stopped.callDepth = 2 ∧ stopped.pending?.map Suspension.index = some 6 ∧
      stopped.world.registers.get .r1 = 1 ∧
      stopped.resume.1.result? = some ⟨.aborted, stopped.world, 6⟩ ∧ stopped.resume.1.draws.taken = 0 := by
  decide +kernel

end Engine

end GridRobot
