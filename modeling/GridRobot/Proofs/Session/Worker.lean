import GridRobot.Controller
import GridRobot.Proofs.Session.Stepping

/-!
A session with its worker does what the session does by itself. `Rests` says where the worker may be when it has
nothing left to do, and which signals are given there: it is let go on by no signal that was left over. Whatever
happens to a session, its worker comes to rest again, and the session is then what it would be without a worker.
-/
namespace GridRobot

namespace Controller

variable {c next : Controller} {patient : Bool}

/-- Where the worker may be when it has nothing left to do, with what it has signalled. -/
inductive Stands (c : Controller) : Prop
  | new (absent : c.worker = none) (silent : c.paused = false) (idle : c.session.isRunning = false)
      (sound : c.session.fault = none)
  /-- It has brought a run to its end, or cannot wait out its delay. -/
  | ended (past : c.worker = some .ended) (told : c.paused = true)
      (left : c.session.isRunning = false ∨ c.session.fault.isSome = true)
  /-- It waits for a step. -/
  | blocked (here : c.worker = some .blocked) (told : c.paused = true) (waits : c.session.waiting = true)
  | sleeping {stop : Suspension} (here : c.worker = some (.sleeping stop.delay)) (silent : c.paused = false)
      (pending : c.session.engine.pending? = some stop) (alone : stop.isInteractive = false)
      (running : c.session.engine.cancelled = false) (sound : c.session.fault = none)

/-- The worker has nothing left to do, and no signal to go on is left over. -/
structure Rests (c : Controller) : Prop where
  session : c.session.AtRest
  unsignalled : c.resume = false
  stands : c.Stands

theorem follow_unwinding (here : c.worker = some .unwinding) :
    c.follow patient = some { c with session.waiting := false, paused := true, worker := some .ended } := by
  have works : c.work patient = some { c with session.waiting := false, paused := true, worker := some .ended } := by
    rw [work, here]
  rw [follow_of_work works]
  exact follow_of_stuck rfl

theorem follow_failing {fault : RunFault} (here : c.worker = some (.failing fault)) :
    c.follow patient = some { c with session := c.session.broken fault, paused := true, worker := some .ended } := by
  have works : c.work patient = some { c with
      session := ({ c.session with fault := some fault } : Session).print
        ["[Debugger] ERROR run crashed: " ++ fault.message]
      worker := some .unwinding } := by
    rw [work, here]
  rw [follow_of_work works]
  exact follow_unwinding rfl

/-- The worker is about to advance a run, and nothing is signalled. -/
structure Advances (c : Controller) : Prop where
  here : c.worker = some .advancing
  unsignalled : c.resume = false
  silent : c.paused = false
  running : c.session.isRunning = true
  free : c.session.waiting = false
  sound : c.session.fault = none

def GoesOn (c : Controller) (patient : Bool) : Prop :=
  ∃ again : Controller, c.follow patient = again.follow patient ∧ again.Advances ∧
    again.session = { c.session with engine := c.session.engine.advance }

namespace Advances

variable {stop : Suspension}

theorem follow_eq (advances : c.Advances) (patient : Bool) :
    c.follow patient = ({ c with
      session.engine := c.session.engine.advance
      worker := some (afterAdvance c.session.engine.resume.2) } : Controller).follow patient := by
  apply follow_of_work
  rw [work, advances.here]
  dsimp only
  rw [Engine.resume_engine]

theorem follow_ended (advances : c.Advances) (finished : c.session.engine.advance.pending? = none) (patient : Bool) :
    ∃ next, c.follow patient = some next ∧
      next.session = ({ c.session with engine := c.session.engine.advance } : Session).ended ∧ next.resume = false ∧
      next.paused = true ∧ next.worker = some .ended := by
  rw [advances.follow_eq, Engine.resume_of_ended advances.running finished, Session.ended]
  dsimp only
  cases c.session.engine.advance.fault? with
  | some fault =>
    rw [follow_failing rfl]
    exact ⟨_, rfl, rfl, advances.unsignalled, rfl, rfl⟩
  | none =>
    rw [follow_unwinding rfl]
    refine ⟨_, rfl, ?_, advances.unsignalled, rfl, rfl⟩
    dsimp only
    rw [advances.sound]

/-- At an interactive suspension the worker makes it known, and waits. -/
theorem follow_waits (advances : c.Advances) (pending : c.session.engine.advance.pending? = some stop)
    (stepped : stop.isInteractive = true) (running : c.session.engine.advance.cancelled = false) (patient : Bool) :
    c.follow patient = some { c with
      session := { c.session with engine := c.session.engine.advance, waiting := true }
      paused := true
      worker := some .blocked } := by
  rw [advances.follow_eq, Engine.resume_of_pending pending, afterAdvance, if_pos stepped, follow_of_work rfl]
  have checked : work patient { c with
      session := { c.session with engine := c.session.engine.advance, waiting := true }
      paused := true
      worker := some .checking } = some { c with
      session := { c.session with engine := c.session.engine.advance, waiting := true }
      paused := true
      worker := some .blocked } := by
    simp [work, running]
  rw [follow_of_work checked, follow_of_stuck]
  simp [work, advances.unsignalled]

theorem goesOn_cancelled (advances : c.Advances) (pending : c.session.engine.advance.pending? = some stop)
    (stepped : stop.isInteractive = true) (cancelled : c.session.engine.advance.cancelled = true) (patient : Bool) :
    c.GoesOn patient := by
  let freed : Session := { c.session with engine := c.session.engine.advance, waiting := false }
  -- The worker that is cancelled gives itself the signal that it then waits for, and takes it up at once.
  have checked : work patient { c with
      session := { c.session with engine := c.session.engine.advance, waiting := true }
      paused := true
      worker := some .checking } =
        some { session := freed, resume := true, paused := false, worker := some .blocked } := by
    simp [work, cancelled, release, freed]
  refine ⟨{ session := freed, resume := false, paused := false, worker := some .advancing }, ?_, ?_, ?_⟩
  · rw [advances.follow_eq, Engine.resume_of_pending pending, afterAdvance, if_pos stepped, follow_of_work rfl,
      follow_of_work checked, follow_of_work rfl, follow_of_work rfl]
  · exact ⟨rfl, rfl, rfl, Engine.isActive_of_pending pending, rfl, advances.sound⟩
  · dsimp only [freed]
    rw [advances.free]

section Alone

variable (advances : c.Advances) (pending : c.session.engine.advance.pending? = some stop)
  (alone : stop.isInteractive = false)

include advances pending alone

theorem goesOn_instant (instant : stop.delay.isPositive = false) (patient : Bool) : c.GoesOn patient := by
  refine ⟨_, advances.follow_eq patient, ?_, rfl⟩
  rw [Engine.resume_of_pending pending, afterAdvance, alone, instant]
  exact ⟨rfl, advances.unsignalled, advances.silent, Engine.isActive_of_pending pending, advances.free, advances.sound⟩

theorem follow_sleeping (held : stop.delay.isPositive = true) (patient : Bool) :
    c.follow patient = ({ c with
      session.engine := c.session.engine.advance, worker := some (.sleeping stop.delay) } : Controller).follow patient := by
  rw [advances.follow_eq, Engine.resume_of_pending pending, afterAdvance, alone, held]
  rfl

theorem goesOn_passed (held : stop.delay.isPositive = true) {cancelled : Bool}
    (slept : c.session.engine.advance.sleep (.num (.float stop.delay)) = .ok cancelled)
    (passes : (cancelled || patient) = true) : c.GoesOn patient := by
  have woken : work patient { c with
      session.engine := c.session.engine.advance, worker := some (.sleeping stop.delay) } =
        some { c with session.engine := c.session.engine.advance, worker := some .advancing } := by
    simp only [work, slept, passes, if_true]
  refine ⟨{ c with session.engine := c.session.engine.advance, worker := some .advancing }, ?_, ?_, rfl⟩
  · rw [follow_sleeping advances pending alone held, follow_of_work woken]
  · exact ⟨rfl, advances.unsignalled, advances.silent, Engine.isActive_of_pending pending, advances.free,
      advances.sound⟩

theorem follow_sits (held : stop.delay.isPositive = true)
    (slept : c.session.engine.advance.sleep (.num (.float stop.delay)) = .ok false) :
    c.follow false = some { c with
      session.engine := c.session.engine.advance, worker := some (.sleeping stop.delay) } := by
  rw [follow_sleeping advances pending alone held, follow_of_stuck]
  simp [work, slept]

theorem follow_stuck (held : stop.delay.isPositive = true) {fault : RunFault}
    (stuck : c.session.engine.advance.sleep (.num (.float stop.delay)) = .error fault) (patient : Bool) :
    c.follow patient = some { c with
      session := ({ c.session with engine := c.session.engine.advance } : Session).broken fault
      paused := true
      worker := some .ended } := by
  have broken : work patient { c with
      session.engine := c.session.engine.advance, worker := some (.sleeping stop.delay) } =
        some { c with session.engine := c.session.engine.advance, worker := some (.failing fault) } := by
    simp only [work, stuck]
  rw [follow_sleeping advances pending alone held, follow_of_work broken, follow_failing rfl]

end Alone

/-- A worker that drives a run comes to rest, where the session drives it by itself. -/
theorem follow (advances : c.Advances) (patient : Bool) :
    ∃ next, c.follow patient = some next ∧ next.session = c.session.drive patient ∧ next.Rests := by
  have rests := Session.drive_atRest patient advances.sound
  generalize same : c.session = s at rests ⊢
  -- Along the recursion of `drive`: a round of it is what the worker does between two advances.
  fun_induction Session.drive patient s generalizing c with
  | case1 s finished =>
    subst same
    rcases advances.follow_ended finished patient with ⟨next, followed, session, unsignalled, told, past⟩
    refine ⟨next, followed, session, ?_, unsignalled, .ended past told (.inl ?_)⟩
    · rwa [session]
    · rw [session, Session.ended_isRunning]
      exact Engine.over_of_pending finished
  | case2 s stop pending fault stuck =>
    subst same
    -- A delay that is too long belongs to a run that nobody steps through.
    have long := (Engine.sleep_error stuck).2
    have alone := (Engine.advance_standsAt pending).alone_of_long long
    refine ⟨_, advances.follow_stuck pending alone (Pause.isPositive_of_isTooLong long) stuck patient, rfl, rests, ?_, ?_⟩
    · exact advances.unsignalled
    · exact .ended rfl rfl (.inr rfl)
  | case3 s stop pending cancelled slept waits =>
    rename_i held
    subst same
    rcases Bool.and_eq_true_iff.mp held with ⟨stays, going⟩
    have still : cancelled = false := by simpa using going
    rw [still] at slept
    have running := Engine.cancelled_of_slept slept
    -- The session rests here because somebody is to step, or because the delay has to be sat in.
    cases stepped : stop.isInteractive with
    | true =>
      rw [stepped] at rests
      refine ⟨_, advances.follow_waits pending stepped running patient, rfl, rests, advances.unsignalled, ?_⟩
      exact .blocked rfl rfl rfl
    | false =>
      have sits : stop.delay.isPositive = true ∧ patient = false := by simpa [waits, stepped] using stays
      rw [sits.2, advances.follow_sits pending stepped sits.1 slept]
      rw [stepped] at rests
      refine ⟨_, rfl, by rw [← advances.free], ?_, advances.unsignalled, ?_⟩
      · dsimp only
        rwa [advances.free]
      · exact .sleeping rfl advances.silent pending stepped running advances.sound
  | case4 s stop pending cancelled slept waits =>
    rename_i goes ih
    subst same
    have stopped := Engine.cancelled_of_slept slept
    -- It goes on because it was cancelled, because there is no delay, or because nobody minds the delay.
    have goesOn : c.GoesOn patient := by
      cases stepped : stop.isInteractive with
      | true => exact advances.goesOn_cancelled pending stepped (by simpa [waits, stepped, ← stopped] using goes) patient
      | false =>
        cases held : stop.delay.isPositive with
        | false => exact advances.goesOn_instant pending stepped held patient
        | true =>
          have passes : patient = false → cancelled = true := by simpa [waits, stepped, held] using goes
          apply advances.goesOn_passed pending stepped held slept
          cases patient with
          | true => exact Bool.or_true _
          | false => exact (Bool.or_false _).trans (passes rfl)
    rcases goesOn with ⟨again, followed, advancing, session⟩
    rw [followed]
    exact ih advancing session rests

end Advances

theorem cancel_free (free : c.session.waiting = false) :
    c.cancel = { c with session.engine := c.session.engine.cancel } := if_neg (Bool.eq_false_iff.mp free)

theorem cancel_waiting (waits : c.session.waiting = true) :
    c.cancel = ({ c with session.engine := c.session.engine.cancel } : Controller).release := if_pos waits

/-- Its worker followed, the controller comes to rest with this session. -/
def ComesTo (c : Controller) (s : Session) : Prop := ∃ next, c.follow false = some next ∧ next.session = s ∧ next.Rests

namespace Rests

theorem work (rests : c.Rests) : c.work false = none := by
  cases rests.stands with
  | new absent => rw [Controller.work, absent]
  | ended past => rw [Controller.work, past]
  | blocked here =>
    rw [Controller.work, here]
    dsimp only
    rw [rests.unsignalled]
    rfl
  | @sleeping stop here silent pending alone running sound =>
    have short : Pause.isTooLong (.float stop.delay) = false := rests.session.short pending sound
    rw [Controller.work, here]
    dsimp only
    rw [Engine.sleep_short running short]
    rfl

theorem comesTo (rests : c.Rests) : c.ComesTo c.session := ⟨c, follow_of_stuck rests.work, rfl, rests⟩

theorem holds {s : Session} (rests : c.Rests) (holds : c.session.Holds s) : Rests { c with session := s } where
  session := rests.session.of_same holds.toSameStand
  unsignalled := rests.unsignalled
  stands := by
    have running : s.isRunning = c.session.isRunning := Session.isRunning_of_phase holds.phase
    cases rests.stands with
    | new absent silent idle sound => exact .new absent silent (running.trans idle) (holds.fault.trans sound)
    | ended past told left =>
      refine .ended past told (left.imp running.trans fun broken => ?_)
      rwa [holds.fault]
    | blocked here told waits => exact .blocked here told (holds.waiting.trans waits)
    | sleeping here silent pending alone going sound =>
      have same : s.engine.pending? = c.session.engine.pending? := by
        unfold Engine.pending?
        rw [holds.phase]
      exact .sleeping here silent (same.trans pending) alone (holds.cancelled.trans going) (holds.fault.trans sound)

theorem edit {request : Session.Request} (rests : c.Rests) (plain : request.IsPlain) :
    (c.edit fun s => s.serve request).1.ComesTo (c.session.serve request).1 :=
  (rests.holds (Session.serve_holds plain c.session)).comesTo

theorem blocked_of_waiting (rests : c.Rests) (waits : c.session.waiting = true) :
    c.worker = some .blocked ∧ c.session.fault = none ∧ c.session.isRunning = true := by
  rcases rests.session.waits waits with ⟨stop, stands, stepped, sound⟩
  have running : c.session.isRunning = true := stands.isActive
  refine ⟨?_, sound, running⟩
  cases rests.stands with
  | new absent silent idle =>
    rw [running] at idle
    cases idle
  | ended past told left =>
    rw [running, sound] at left
    rcases left with left | left <;> cases left
  | blocked here => exact here
  | sleeping here silent pending alone =>
    rcases Option.some.inj (stands.pending.symm.trans pending) with rfl
    rw [stepped] at alone
    cases alone

theorem release {s : Session} (rests : c.Rests) (waits : c.session.waiting = true)
    (running : s.isRunning = true) (sound : s.fault = none) :
    (Controller.release { c with session := s }).ComesTo s.release := by
  have here := (rests.blocked_of_waiting waits).1
  have advances : Advances
      { session := { s with waiting := false }, resume := false, paused := false, worker := some .advancing } :=
    ⟨rfl, rfl, rfl, running, rfl, sound⟩
  rcases advances.follow false with ⟨next, followed, session, rested⟩
  refine ⟨next, ?_, session, rested⟩
  have woken : Controller.work false (Controller.release { c with session := s }) = some
      { session := { s with waiting := false }, resume := true, paused := false, worker := some .resumed } := by
    simp [Controller.work, Controller.release, here]
  rw [follow_of_work woken, follow_of_work rfl]
  exact followed

theorem run (rests : c.Rests) (speed : Option Json) (interactive : Json) :
    (c.run speed interactive).1.ComesTo (c.session.run speed interactive).1 ∧
      (c.run speed interactive).2 = (c.session.run speed interactive).2 := by
  have outcome := c.session.prepare_preparesTo speed interactive
  unfold Controller.run Session.run
  generalize c.session.prepare speed interactive = answer at outcome
  cases outcome with
  | refused running =>
    have noted : c.session.Holds { c.session with engine := c.session.engine.log .alreadyRunning } :=
      ⟨⟨rfl, rfl, ⟨rfl, rfl, rfl⟩, rfl, rfl⟩, Engine.cancelled_logAs _ _ _⟩
    exact ⟨(rests.holds noted).comesTo, rfl⟩
  | nothing => exact ⟨(rests.holds ((Session.Holds.refl _).logAs _ _)).comesTo, rfl⟩
  | unusable fault => exact ⟨rests.comesTo, rfl⟩
  | declined table error => exact ⟨(rests.holds ((Session.Holds.refl _).introduce table)).comesTo, rfl⟩
  | begun idle table =>
    have advances : Advances
        { session := c.session.begun table speed interactive, resume := false, paused := false
          worker := some .advancing } := ⟨rfl, rfl, rfl, rfl, rfl, rfl⟩
    exact ⟨advances.follow false, rfl⟩

theorem step (rests : c.Rests) (speed : Option Json) :
    (c.step speed).1.ComesTo (c.session.step speed).1 ∧ (c.step speed).2 = (c.session.step speed).2 := by
  unfold Controller.step Session.step
  rw [Controller.isRunning]
  split
  · exact rests.run speed _
  · rename_i going
    split
    · exact ⟨rests.comesTo, rfl⟩
    · rename_i waiting
      have waits : c.session.waiting = true := by simpa using waiting
      rcases rests.blocked_of_waiting waits with ⟨-, sound, running⟩
      exact ⟨rests.release waits running sound, rfl⟩

theorem continueRun (rests : c.Rests) :
    c.continueRun.1.ComesTo c.session.continueRun.1 ∧ c.continueRun.2 = c.session.continueRun.2 := by
  unfold Controller.continueRun Session.continueRun
  split
  · exact ⟨rests.comesTo, rfl⟩
  · rename_i waiting
    have waits : c.session.waiting = true := by simpa using waiting
    rcases rests.blocked_of_waiting waits with ⟨-, sound, running⟩
    let going : Session := ({ c.session with engine := c.session.engine.setInteractive (.bool false) } : Session).print
      (if c.session.verbose then ["[Debugger] Continuing without stepping"] else [])
    have going_running : going.isRunning = true := running
    exact ⟨rests.release waits going_running sound, rfl⟩

theorem free (rests : c.Rests) (elsewhere : c.worker ≠ some .blocked) : c.session.waiting = false := by
  rw [Bool.eq_false_iff]
  intro waits
  exact elsewhere (rests.blocked_of_waiting waits).1

theorem cancel_noted (rests : c.Rests) (elsewhere : c.worker ≠ some .blocked)
    (unheard : (c.session.isRunning && !c.session.isStranded) = false)
    (stands : Stands { c with session.engine := c.session.engine.cancel }) : c.cancel.ComesTo c.session.cancel := by
  have rested : Rests { c with session.engine := c.session.engine.cancel } :=
    ⟨rests.session.of_same ⟨rfl, rfl, ⟨rfl, rfl, rfl⟩, rfl, rfl⟩, rests.unsignalled, stands⟩
  rw [Session.cancel_unheard unheard, cancel_free (rests.free elsewhere)]
  exact rested.comesTo

theorem cancel (rests : c.Rests) : c.cancel.ComesTo c.session.cancel := by
  cases rests.stands with
  | new absent silent idle sound =>
    apply rests.cancel_noted
    · simp [absent]
    · rw [idle]
      rfl
    · exact .new absent silent idle sound
  | ended past told left =>
    apply rests.cancel_noted
    · simp [past]
    -- Nothing runs, or the run is stranded; either way the worker has ended and does not hear of it.
    · rcases left with idle | broken
      · rw [idle]
        rfl
      · rw [Session.isStranded, broken, Bool.and_true, Bool.and_not_self]
    · exact .ended past told left
  | blocked here told waits =>
    rcases rests.blocked_of_waiting waits with ⟨-, sound, running⟩
    have heard : (c.session.isRunning && !c.session.isStranded) = true := by
      rw [Session.isStranded, running, sound]
      rfl
    let stopped : Session := { c.session with engine := c.session.engine.cancel }
    have still : stopped.isRunning = true := running
    rw [Session.cancel_heard heard, cancel_waiting waits]
    exact rests.release waits still sound
  | sleeping here silent pending alone going sound =>
    have running : c.session.isRunning = true := Engine.isActive_of_pending pending
    have heard : (c.session.isRunning && !c.session.isStranded) = true := by
      rw [Session.isStranded, running, sound]
      rfl
    have free : c.session.waiting = false := by
      apply rests.free
      simp [here]
    -- The request wakes the sleeper, and its next advance ends the run.
    have woken : Controller.work false { c with session.engine := c.session.engine.cancel } = some
        { c with session.engine := c.session.engine.cancel, worker := some .advancing } := by
      rw [Controller.work, here]
      rfl
    have advances : Advances { c with session.engine := c.session.engine.cancel, worker := some .advancing } :=
      ⟨rfl, rests.unsignalled, silent, running, free, sound⟩
    rcases advances.follow false with ⟨next, followed, session, rested⟩
    rw [Session.cancel_heard heard, cancel_free free]
    refine ⟨next, ?_, ?_, rested⟩
    · rw [follow_of_work woken, followed]
    · rw [session, Session.release]
      dsimp only
      rw [free]

theorem wait_eq (rests : c.Rests) : c.wait = c.session.wait := by
  unfold Controller.wait Session.wait
  cases rests.stands with
  | new absent silent idle sound =>
    rw [absent, sound, idle]
    rfl
  | ended past told left =>
    rw [past]
    dsimp only
    cases broken : c.session.fault with
    | some fault => rfl
    | none =>
      rw [broken] at left
      rw [left.resolve_right Bool.false_ne_true]
      rfl
  | blocked here told waits =>
    rcases rests.blocked_of_waiting waits with ⟨-, sound, running⟩
    rw [here, sound, running]
    rfl
  | sleeping here silent pending alone going sound =>
    have running : c.session.isRunning = true := Engine.isActive_of_pending pending
    rw [here, sound, running]
    rfl

theorem waitUntilPaused_eq (rests : c.Rests) : c.waitUntilPaused = c.session.pending? := by
  unfold Controller.waitUntilPaused
  split
  · rfl
  · rename_i silent
    rw [Session.pending?_of_moving]
    apply rests.free
    intro here
    cases rests.stands with
    | new absent =>
      rw [absent] at here
      cases here
    | ended past told => exact silent told
    | blocked here told => exact silent told
    | sleeping sleeps =>
      rw [sleeps] at here
      cases here

theorem of_idle {s : Session} (rests : c.Rests) (idle : c.session.isRunning = false) (still : s.isRunning = false)
    (free : s.waiting = false) (fault : s.fault = c.session.fault) : Rests { c with session := s } where
  session := .idle still free
  unsignalled := rests.unsignalled
  stands := by
    cases rests.stands with
    | new absent silent ended sound => exact .new absent silent still (fault.trans sound)
    | ended past told => exact .ended past told (.inl still)
    | blocked here told waits =>
      rw [rests.session.free idle] at waits
      cases waits
    | sleeping here silent pending =>
      rw [Session.isRunning, Engine.isActive_of_pending pending] at idle
      cases idle

theorem restore (rests : c.Rests) (idle : c.session.isRunning = false) : Rests (c.edit Session.restore).1 := by
  have free := rests.session.free idle
  unfold Controller.edit
  dsimp only
  rw [Session.restore_idle idle]
  split
  · exact rests.of_idle idle idle free rfl
  · exact rests.of_idle idle idle free rfl

theorem reset (rests : c.Rests) :
    ∃ next, c.reset = some (next, c.session.reset.2) ∧ next.ComesTo c.session.reset.1 := by
  unfold Controller.reset Session.reset
  rw [Controller.isRunning]
  cases running : c.session.isRunning with
  | false =>
    rw [if_neg Bool.false_ne_true, if_neg Bool.false_ne_true]
    exact ⟨_, rfl, (rests.restore running).comesTo⟩
  | true =>
    rw [if_pos rfl, if_pos rfl]
    rcases rests.cancel with ⟨stopped, followed, session, rested⟩
    have waited : stopped.wait = c.session.cancel.wait := rested.wait_eq.trans (congrArg Session.wait session)
    rw [followed, Option.map_some, waited, Session.wait]
    dsimp only
    cases broken : c.session.cancel.fault with
    | some fault =>
      refine ⟨stopped, rfl, ?_⟩
      rw [← session]
      exact rested.comesTo
    | none =>
      -- A worker that has ended without a fault leaves no run behind.
      have past : stopped.session.isRunning = false := by
        rw [session]
        exact rests.session.cancel_idles running broken
      refine ⟨(stopped.edit Session.restore).1, ?_, ?_⟩
      · rw [← session]
        rfl
      · rw [← session]
        exact (rested.restore past).comesTo

theorem passes (rests : c.Rests) {delay : Binary64} (here : c.worker = some (.sleeping delay)) :
    c.work true = some { c with worker := some .advancing } ∧ Advances { c with worker := some .advancing } ∧
      (c.session.isRunning && !c.session.waiting && !c.session.isStranded) = true := by
  have free : c.session.waiting = false := by
    apply rests.free
    simp [here]
  cases rests.stands with
  | new absent =>
    rw [absent] at here
    cases here
  | ended past =>
    rw [past] at here
    cases here
  | blocked blocked =>
    rw [blocked] at here
    cases here
  | sleeping sleeps silent pending alone going sound =>
    have running : c.session.isRunning = true := Engine.isActive_of_pending pending
    refine ⟨?_, ⟨rfl, rests.unsignalled, silent, running, free, sound⟩, ?_⟩
    · rw [Controller.work, sleeps]
      dsimp only
      rw [Engine.sleep_short going (rests.session.short pending sound)]
      rfl
    · rw [Session.isStranded, running, free, sound]
      rfl

theorem stays (rests : c.Rests) (elsewhere : ∀ delay, c.worker ≠ some (.sleeping delay)) :
    c.work true = none ∧ (c.session.isRunning && !c.session.waiting && !c.session.isStranded) = false := by
  cases rests.stands with
  | new absent silent idle =>
    rw [Controller.work, absent, idle]
    exact ⟨rfl, rfl⟩
  | ended past told left =>
    rw [Controller.work, past]
    refine ⟨rfl, ?_⟩
    rcases left with idle | broken
    · rw [idle]
      rfl
    · rw [Session.isStranded, broken, Bool.and_true]
      cases c.session.isRunning <;> cases c.session.waiting <;> rfl
  | blocked here told waits =>
    rw [Controller.work, here, waits]
    dsimp only
    rw [rests.unsignalled, Bool.not_true, Bool.and_false, Bool.false_and]
    exact ⟨rfl, rfl⟩
  | sleeping here => exact (elsewhere _ here).elim

theorem join (rests : c.Rests) :
    ∃ next, c.follow true = some next ∧ next.session = c.session.join ∧ next.Rests := by
  unfold Session.join
  by_cases sleeps : ∃ delay, c.worker = some (.sleeping delay)
  · rcases sleeps with ⟨delay, here⟩
    rcases rests.passes here with ⟨woken, advances, moves⟩
    rw [if_pos moves, follow_of_work woken]
    exact advances.follow true
  · rcases rests.stays (not_exists.mp sleeps) with ⟨stuck, still⟩
    rw [if_neg (Bool.eq_false_iff.mp still)]
    exact ⟨c, follow_of_stuck stuck, rfl, rests⟩

theorem elapse (rests : c.Rests) :
    ∃ next, c.elapse = some next ∧ next.session = c.session.obey .elapse ∧ next.Rests := by
  unfold Session.obey Controller.elapse
  dsimp only
  by_cases sleeps : ∃ delay, c.worker = some (.sleeping delay)
  · rcases sleeps with ⟨delay, here⟩
    rcases rests.passes here with ⟨woken, advances, moves⟩
    rw [if_pos moves, here]
    dsimp only
    rw [woken, Option.getD_some]
    exact advances.follow false
  · rcases rests.stays (not_exists.mp sleeps) with ⟨stuck, still⟩
    rw [if_neg (Bool.eq_false_iff.mp still)]
    split
    · exact (sleeps ⟨_, ‹_›⟩).elim
    · exact ⟨c, rfl, rfl, rests⟩

end Rests

def meet (c : Controller) : Session.Request → Option (Controller × Except SessionError Unit)
  | .run speed interactive => some ((c.run speed interactive).1, (c.run speed interactive).2.map fun _ => ())
  | .step speed => some ((c.step speed).1, (c.step speed).2.map fun _ => ())
  | .continueRun => some (c.continueRun.1, .ok ())
  | .cancel => some (c.cancel, .ok ())
  | .reset => c.reset
  | .join => (c.follow true).map fun c => (c, .ok ())
  | request => some (c.edit fun s => s.serve request)

def undergo (c : Controller) : Session.Happening → Option (Controller × Except SessionError Unit)
  | .request request => (c.meet request).bind fun (c, answer) => (c.follow false).map fun c => (c, answer)
  | .elapse => c.elapse.map fun c => (c, .ok ())

def undergoAll (c : Controller) : List Session.Happening → Option Controller
  | [] => some c
  | happening :: rest => (c.undergo happening).bind fun (c, _) => c.undergoAll rest

namespace Rests

theorem meet_plain {request : Session.Request} (rests : c.Rests) (plain : request.IsPlain) :
    ∃ next, c.meet request = some (next, (c.session.serve request).2) ∧ next.ComesTo (c.session.serve request).1 := by
  refine ⟨_, ?_, rests.edit plain⟩
  cases request with
  | run | step | continueRun | cancel | reset | join => exact plain.elim
  | _ => rfl

theorem meet (rests : c.Rests) (request : Session.Request) :
    ∃ next, c.meet request = some (next, (c.session.serve request).2) ∧ next.ComesTo (c.session.serve request).1 := by
  cases request with
  | run speed interactive =>
    rcases rests.run speed interactive with ⟨comes, answers⟩
    exact ⟨_, by rw [Controller.meet, answers]; rfl, comes⟩
  | step speed =>
    rcases rests.step speed with ⟨comes, answers⟩
    exact ⟨_, by rw [Controller.meet, answers]; rfl, comes⟩
  | continueRun => exact ⟨_, rfl, rests.continueRun.1⟩
  | cancel => exact ⟨_, rfl, rests.cancel⟩
  | reset => exact rests.reset
  | join =>
    rcases rests.join with ⟨next, followed, session, rested⟩
    refine ⟨next, by rw [Controller.meet, followed]; rfl, ?_⟩
    have comes := rested.comesTo
    rwa [session] at comes
  | _ => exact rests.meet_plain trivial

theorem undergo (rests : c.Rests) (happening : Session.Happening) :
    ∃ next, c.undergo happening = some (next, (c.session.undergo happening).2) ∧
      next.session = (c.session.undergo happening).1 ∧ next.Rests := by
  cases happening with
  | request request =>
    rcases rests.meet request with ⟨met, answered, next, followed, session, rested⟩
    refine ⟨next, ?_, session, rested⟩
    rw [Controller.undergo, answered, Option.bind_some]
    dsimp only
    rw [followed]
    rfl
  | elapse =>
    rcases rests.elapse with ⟨next, elapsed, session, rested⟩
    refine ⟨next, ?_, session, rested⟩
    rw [Controller.undergo, elapsed]
    rfl

theorem undergoAll (rests : c.Rests) (happenings : List Session.Happening) :
    ∃ last, c.undergoAll happenings = some last ∧ last.session = c.session.undergoAll happenings ∧ last.Rests := by
  induction happenings generalizing c with
  | nil => exact ⟨c, rfl, rfl, rests⟩
  | cons happening rest ih =>
    rcases rests.undergo happening with ⟨next, undergone, session, rested⟩
    rcases ih rested with ⟨last, reached, same, final⟩
    refine ⟨last, ?_, ?_, final⟩
    · rw [Controller.undergoAll, undergone]
      exact reached
    · rw [same, session]
      rfl

end Rests

/-- Whatever happens to a new controller, its worker comes to rest each time with no signal left over, where the session
gets to without a worker, and there it tells the same. -/
theorem rests_among_happenings {allocation : Allocation} {catalog : Catalog} {wanted : Json} {draws : Draws}
    {observers : List Observer} {baseDelay : Json} {callLimit : CallLimit} {verbose : Bool} {lines : List String}
    {first : Session}
    (started : Session.start allocation catalog wanted draws observers baseDelay callLimit verbose = (lines, .ok first))
    (happenings : List Session.Happening) :
    ∃ last, ({ session := first } : Controller).undergoAll happenings = some last ∧ last.Rests ∧
      last.session = first.undergoAll happenings ∧ last.wait = last.session.wait ∧
      last.waitUntilPaused = last.session.pending? := by
  -- There is no worker before the first run.
  have rests : Rests { session := first } := by
    have rested := Session.AtRest.of_start started
    rcases Session.start_ok started with ⟨world, -, rfl⟩
    exact ⟨rested, rfl, .new rfl rfl rfl rfl⟩
  rcases rests.undergoAll happenings with ⟨last, reached, same, final⟩
  exact ⟨last, reached, final, same, final.wait_eq, final.waitUntilPaused_eq⟩

end Controller

end GridRobot
