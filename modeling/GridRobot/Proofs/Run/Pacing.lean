import GridRobot.Proofs.Run.Alike
import GridRobot.Proofs.Run.Termination
import GridRobot.Session

/-!
Hosts that only pace a run. `Engine.Paces` is what they may do to it: advance it, change their mind about stepping
through it, print, and ask for another run in vain. Whoever advances a run by hand, drives it with actions or through a
session does no more, and so they all come through the same suspensions to the same end, unless a pause cannot be
computed or waited out.
-/
namespace GridRobot

/-- A pause comes to nothing: it cannot be computed, or it cannot be waited out. -/
inductive Pause.Fails (speed base : Json) : PauseFault → Prop
  | uncomputed {fault : PauseFault} (failed : atSpeed speed base = .error fault) : Pause.Fails speed base fault
  | tooLong {pause : Binary64} (computed : atSpeed speed base = .ok pause) (long : isTooLong (.float pause) = true) :
      Pause.Fails speed base .tooLong

theorem Pause.isTooLong_zero : isTooLong (.float (Binary64.zero false)) = false := by decide +kernel

theorem Pause.not_fails {speed base : Json} {pause : Binary64} (computed : atSpeed speed base = .ok pause)
    (short : isTooLong (.float pause) = false) (fault : PauseFault) : ¬Pause.Fails speed base fault := by
  rintro (failed | ⟨again, long⟩)
  · rw [computed] at failed
    cases failed
  · rw [computed] at again
    cases again
    rw [short] at long
    cases long

namespace Engine

variable {refusals : Bool} {first e : Engine} {stops : List Suspension}

/-- From one engine a run comes through some suspensions to another, with a host that only paces it. -/
inductive Paces (refusals : Bool) (first : Engine) : List Suspension → Engine → Prop
  | start : Paces refusals first [] first
  | interactive {stops : List Suspension} {e : Engine} (paces : Paces refusals first stops e) (value : Json) :
      Paces refusals first stops (e.setInteractive value)
  | refuse {stops : List Suspension} {e : Engine} (paces : Paces refusals first stops e) (allowed : refusals = true) :
      Paces refusals first stops (e.log .alreadyRunning)
  | print {stops : List Suspension} {e : Engine} (paces : Paces refusals first stops e) (lines : List String) :
      Paces refusals first stops (e.print lines)
  | advance {stops : List Suspension} {e : Engine} (paces : Paces refusals first stops e)
      (unbroken : ∀ fault, ¬e.advance.Falters fault) :
      Paces refusals first (stops ++ e.advance.pending?.toList) e.advance

theorem Paces.pace (paces : first.Paces refusals stops e) : e.speed = first.speed ∧ e.baseDelay = first.baseDelay := by
  induction paces with
  | start => exact ⟨rfl, rfl⟩
  | interactive paces value ih => exact ih
  | refuse paces allowed ih => exact ih
  | print paces lines ih => exact ih
  | @advance stops e paces unbroken ih =>
    have same := advance_pace e
    exact ⟨same.speed.trans ih.1, same.baseDelay.trans ih.2⟩

theorem Paces.onward (paces : first.Paces refusals stops e) :
    (∃ fault, Pause.atSpeed first.speed first.baseDelay = .error fault ∧ e.advance.fault? = some (.pause fault)) ∨
      first.Paces refusals (stops ++ e.advance.pending?.toList) e.advance := by
  by_cases falters : ∃ fault, e.advance.Falters fault
  · rcases falters with ⟨fault, broken, failed⟩
    have same := advance_pace e
    have pause := failed_of_delay failed
    rw [same.speed, same.baseDelay, paces.pace.1, paces.pace.2] at pause
    exact .inl ⟨fault, pause, broken⟩
  · exact .inr (paces.advance fun fault found => falters ⟨fault, found⟩)

theorem Paces.suspended (paces : first.Paces refusals stops e) {s : Suspension} (pending : e.advance.pending? = some s) :
    first.Paces refusals (stops ++ [s]) e.advance := by
  rcases paces.onward with ⟨fault, -, broken⟩ | onward
  · rw [pending?_of_over (isActive_of_fault broken)] at pending
    cases pending
  · rwa [pending] at onward

theorem Paces.delay (paces : first.Paces refusals stops e) {s : Suspension} (pending : e.advance.pending? = some s) :
    (s.isInteractive = true ∧ s.delay = Binary64.zero false) ∨
      (s.isInteractive = false ∧ Pause.atSpeed first.speed first.baseDelay = .ok s.delay) := by
  rcases advance_suspends pending with ⟨interactive, computed⟩
  have asked : s.isInteractive = e.isInteractive := congrArg Json.isTruthy interactive
  unfold Engine.delay at computed
  split at computed
  · rename_i stepped
    exact .inl ⟨asked.trans stepped, (Except.ok.inj computed).symm⟩
  · rename_i alone
    rw [paces.pace.1, paces.pace.2] at computed
    exact .inr ⟨asked.trans (by simpa using alone), computed⟩

def alone (e : Engine) (n : Nat) : Engine := e.attend (fun _ => []) n

theorem alone_succ (e : Engine) (n : Nat) : e.alone (n + 1) = (e.alone n).advance := by
  cases active : (e.alone n).isActive with
  | true => exact attend_succ_of_active (fun _ => []) active
  | false =>
    rw [advance_of_over active]
    exact attend_succ_of_over (fun _ => []) active

def places (e : Engine) (n : Nat) : List (Instruction × Nat) := (e.stopsAmong (fun _ => []) n).map Suspension.place

theorem places_succ (e : Engine) (n : Nat) :
    e.places (n + 1) = e.places n ++ (e.alone (n + 1)).pending?.toList.map Suspension.place := by
  rw [places, stopsAmong_succ, List.map_append]
  rfl

theorem alone_isPaced (paced : e.IsPaced) (n : Nat) : (e.alone n).IsPaced := by
  induction n with
  | zero => exact paced
  | succ n ih =>
    rw [alone_succ]
    exact (advance_pace _).isPaced ih

theorem Paces.alike {other : Engine} (begun : first.Alike refusals other) (paced : other.IsPaced)
    (paces : first.Paces refusals stops e) :
    ∃ n, e.Alike refusals (other.alone n) ∧ stops.map Suspension.place = other.places n := by
  induction paces with
  | start => exact ⟨0, begun, rfl⟩
  | interactive paces value ih =>
    rcases ih with ⟨n, alike, same⟩
    exact ⟨n, { alike with world := alike.world }, same⟩
  | refuse paces allowed ih =>
    rcases ih with ⟨n, alike, same⟩
    exact ⟨n, alike.aside allowed, same⟩
  | print paces lines ih =>
    rcases ih with ⟨n, alike, same⟩
    exact ⟨n, { alike with world := alike.world }, same⟩
  | @advance stops e paces unbroken ih =>
    rcases ih with ⟨n, alike, same⟩
    rcases alike.advance (alone_isPaced paced n) with ⟨fault, falters⟩ | after
    · exact (unbroken fault falters).elim
    · rw [← alone_succ] at after
      refine ⟨n + 1, after, ?_⟩
      rw [places_succ, List.map_append, same, ← Option.toList_map, ← Option.toList_map, after.place]

structure Agrees (refusals : Bool) (places : List (Instruction × Nat)) (last first : Engine) (stops : List Suspension)
    (e : Engine) : Prop where
  paces : first.Paces refusals stops e
  places : stops.map Suspension.place = places
  world : e.world = last.world
  draws : e.draws = last.draws
  result : e.result? = last.result?
  raised : e.fault? = last.fault?
  account : e.account refusals = last.account refusals

theorem Paces.agrees {other : Engine} {n : Nat} (begun : first.Alike refusals other) (paced : other.IsPaced)
    (halts : (other.alone n).isActive = false) (paces : first.Paces refusals stops e) (finished : e.isActive = false) :
    Agrees refusals (other.places n) (other.alone n) first stops e := by
  rcases paces.alike begun paced with ⟨m, alike, same⟩
  have ended : (other.alone m).isActive = false := alike.isActive ▸ finished
  -- Neither run goes on after its end, so it does not matter which of them was advanced more often.
  have reached : other.alone m = other.alone n ∧ other.places m = other.places n := by
    unfold places
    rcases Nat.le_total m n with le | le
    · exact ⟨(attend_of_over _ le ended).symm, by rw [stopsAmong_of_over _ le ended]⟩
    · exact ⟨attend_of_over _ le halts, by rw [stopsAmong_of_over _ le halts]⟩
  rw [reached.1] at alike
  rw [reached.2] at same
  exact ⟨paces, same, alike.world, alike.draws, alike.result?, alike.fault?, alike.account⟩

theorem armed_alike {a b : Engine} (program : Body) (functions : FunctionTable) (speed interactive speed' interactive' : Json)
    (world : a.world = b.world) (draws : a.draws = b.draws) (observers : a.observers = b.observers)
    (callLimit : a.callLimit = b.callLimit) :
    (a.armed program functions speed interactive).Alike refusals (b.armed program functions speed' interactive') where
  world := world
  draws := draws
  observers := by
    unfold armed
    rw [Engine.log, Engine.log, observers_logAs, observers_logAs]
    exact observers
  callLimit := callLimit
  functions := rfl
  cancelled := by
    unfold armed
    rw [Engine.log, Engine.log, cancelled_logAs, cancelled_logAs]
  executed := rfl
  reported := rfl
  phase := .fresh _

end Engine

def Meddling.IsPacing (refusals : Bool) : Meddling → Prop
  | .interactive _ => True
  | .begin .. => refusals = true
  | _ => False

namespace Engine

variable {refusals : Bool} {first e : Engine} {stops : List Suspension}

theorem Paces.meddle (paces : first.Paces refusals stops e) (active : e.isActive = true) {meddling : Meddling}
    (allowed : meddling.IsPacing refusals) : first.Paces refusals stops (e.meddle meddling) := by
  cases meddling with
  | interactive value => exact paces.interactive value
  | begin program functions speed interactive =>
    rw [meddle_begin active]
    exact paces.refuse allowed
  | register | cancel | setWorld | observe | log => exact allowed.elim

theorem Paces.visit {visit : List Meddling} (paces : first.Paces refusals stops e) (active : e.isActive = true)
    (pacing : ∀ m ∈ visit, m.IsPacing refusals) : first.Paces refusals stops (visit.foldl Engine.meddle e) :=
  visit_keeps active (fun m member still paces => paces.meddle still (pacing m member)) paces

theorem attend_paces (first : Engine) {visits : Nat → List Meddling}
    (pacing : ∀ n, ∀ m ∈ visits n, m.IsPacing refusals) (n : Nat) :
    (∃ fault, Pause.atSpeed first.speed first.baseDelay = .error fault ∧
      (first.attend visits n).fault? = some (.pause fault)) ∨
      first.Paces refusals (first.stopsAmong visits n) (first.attend visits n) := by
  induction n with
  | zero => exact .inr .start
  | succ n ih =>
    cases active : (first.attend visits n).isActive with
    | false =>
      rw [attend_succ_of_over visits active, stopsAmong_of_over visits (Nat.le_succ n) active]
      exact ih
    | true =>
      rcases ih with ⟨fault, -, broken⟩ | paces
      · rw [isActive_of_fault broken] at active
        cases active
      · rw [stopsAmong_succ, attend_succ_of_active visits active]
        exact (paces.visit active (pacing n)).onward

theorem Paces.fails_of_sleep (paces : first.Paces refusals stops e) {s : Suspension}
    (pending : e.advance.pending? = some s) {fault : RunFault}
    (stuck : e.advance.sleep (.num (.float s.delay)) = .error fault) :
    fault = .pause .tooLong ∧ Pause.Fails first.speed first.baseDelay .tooLong := by
  rcases sleep_error stuck with ⟨rfl, long⟩
  refine ⟨rfl, ?_⟩
  rcases paces.delay pending with ⟨-, none⟩ | ⟨-, computed⟩
  · rw [none, Pause.isTooLong_zero] at long
    cases long
  · exact .tooLong computed long

inductive Driven (refusals : Bool) (first : Engine) : Option HostError × List Suspension × Engine → Prop
  | stuck {fault : PauseFault} (fails : Pause.Fails first.speed first.baseDelay fault) (seen : List Suspension)
      (last : Engine) : Driven refusals first (some (.fault (.pause fault)), seen, last)
  | broken {fault : PauseFault} (fails : Pause.Fails first.speed first.baseDelay fault) (seen : List Suspension)
      {last : Engine} (broken : last.fault? = some (.pause fault)) : Driven refusals first (none, seen, last)
  | ended {stops seen : List Suspension} {last : Engine} (paces : first.Paces refusals stops last)
      (finished : last.isActive = false) (asked : seen.Sublist stops) : Driven refusals first (none, seen, last)

theorem driveFrom_driven {actions : List HostAction} {seen : List Suspension}
    (pacing : ∀ action ∈ actions, action = .step ∨ action = .continue) (paces : first.Paces refusals stops e)
    (asked : seen.reverse.Sublist stops) : Driven refusals first (e.driveFrom actions seen) := by
  -- A suspension where the host was asked is one more that the run came through.
  have more {seen stops : List Suspension} {s : Suspension} (asked : seen.reverse.Sublist stops) :
      (s :: seen).reverse.Sublist (stops ++ [s]) := by
    rw [List.reverse_cons]
    exact asked.append (List.Sublist.refl [s])
  fun_induction driveFrom actions seen e generalizing stops with
  | case1 actions seen e finished =>
    rcases paces.onward with ⟨fault, failed, broken⟩ | onward
    · exact .broken (.uncomputed failed) _ broken
    · rw [finished] at onward
      refine .ended onward (over_of_pending finished) ?_
      simpa using asked
  | case2 seen e s pending interactive ih => exact ih pacing (paces.suspended pending) (more asked)
  | case3 seen e s pending interactive rest =>
    rcases pacing .fail (List.mem_cons_self ..) with never | never <;> cases never
  | case4 seen e s pending interactive action rest going ih =>
    have onward := paces.suspended pending
    have others : ∀ a ∈ rest, a = .step ∨ a = .continue := fun a member => pacing a (List.mem_cons_of_mem _ member)
    rcases pacing action (List.mem_cons_self ..) with rfl | rfl
    · exact ih others onward (more asked)
    · exact ih others (onward.interactive _) (more asked)
  | case5 actions seen e s pending alone fault stuck =>
    rcases paces.fails_of_sleep pending stuck with ⟨rfl, fails⟩
    exact .stuck fails _ _
  | case6 actions seen e s pending alone cancelled waited ih =>
    exact ih pacing (paces.suspended pending) (asked.trans (List.sublist_append_left _ _))

end Engine

namespace Session

variable {refusals : Bool} {first : Engine} {stops : List Suspension} {s : Session}

/-- What the user of a session may do to a run but stop it: ask for another one in vain, step, go on without stepping,
or let the delay pass in which the run sits. -/
inductive Command
  | run (speed : Option Json) (interactive : Json)
  | step (speed : Option Json)
  | continue
  | elapse

def Command.IsPacing (refusals : Bool) : Command → Prop
  | .run .. => refusals = true
  | _ => True

def obey (s : Session) : Command → Session
  | .run speed interactive => (s.run speed interactive).1
  | .step speed => (s.step speed).1
  | .continue => s.continueRun.1
  | .elapse => if s.isRunning && !s.waiting && !s.isStranded then s.drive false else s

def obeyAll (s : Session) (commands : List Command) : Session :=
  commands.foldl (fun s command => if s.isRunning then s.obey command else s) s

def complete (s : Session) : Session := s.continueRun.1.join

/-- Where a session stands that has done no more than pace a run: stuck at a pause that fails, at the end, or at rest at
a suspension, where it waits for a step if somebody steps through the run. -/
inductive Follows (refusals : Bool) (first : Engine) (s : Session) : Prop
  | stuck {fault : PauseFault} (fails : Pause.Fails first.speed first.baseDelay fault)
      (told : s.fault = some (.pause fault)) (moving : s.waiting = false)
  | ended {stops : List Suspension} (paces : first.Paces refusals stops s.engine) (finished : s.isRunning = false)
      (moving : s.waiting = false)
  | resting {stops : List Suspension} (paces : first.Paces refusals stops s.engine) (running : s.isRunning = true)
      (unbroken : s.fault = none) (asked : s.waiting = s.engine.isInteractive)

theorem ended_engine (s : Session) : ∃ lines, s.ended.engine = s.engine.print lines := by
  unfold ended
  split
  · exact ⟨_, rfl⟩
  · exact ⟨[], rfl⟩

theorem ended_waiting (s : Session) : s.ended.waiting = false := by
  unfold ended
  split <;> rfl

theorem ended_fault (s : Session) : s.ended.fault = s.engine.fault? := by
  unfold ended
  split
  · rename_i fault broken
    exact broken.symm
  · rename_i sound
    exact sound.symm

theorem ended_isRunning (s : Session) : s.ended.isRunning = s.isRunning := by
  rcases s.ended_engine with ⟨lines, same⟩
  unfold isRunning
  rw [same]
  rfl

theorem drive_follows (patient : Bool) (unbroken : s.fault = none) (paces : first.Paces refusals stops s.engine) :
    (s.drive patient).Follows refusals first := by
  fun_induction Session.drive patient s generalizing stops with
  | case1 s finished =>
    rcases paces.onward with ⟨fault, failed, broken⟩ | onward
    · exact .stuck (.uncomputed failed) ((ended_fault _).trans broken) (ended_waiting _)
    · rcases ended_engine { s with engine := s.engine.advance } with ⟨lines, same⟩
      exact .ended (same ▸ onward.print lines) ((ended_isRunning _).trans (Engine.over_of_pending finished)) (ended_waiting _)
  | case2 s suspension pending fault stuck =>
    rcases paces.fails_of_sleep pending stuck with ⟨rfl, fails⟩
    exact .stuck fails rfl rfl
  | case3 s suspension pending cancelled waited waits =>
    refine .resting (paces.suspended pending) (Engine.isActive_of_pending pending) unbroken ?_
    have asked := (Engine.advance_suspends pending).1
    have same := (Engine.advance_pace s.engine).interactive
    show suspension.interactive.isTruthy = s.engine.advance.interactive.isTruthy
    rw [asked, same]
  | case4 s suspension pending cancelled waited waits goes =>
    rename_i ih
    exact ih unbroken (paces.suspended pending)

theorem drive_interactive (patient : Bool) (s : Session) : (s.drive patient).engine.interactive = s.engine.interactive := by
  fun_induction Session.drive patient s with
  | case1 s finished =>
    rcases ended_engine { s with engine := s.engine.advance } with ⟨lines, same⟩
    rw [same]
    exact (Engine.advance_pace s.engine).interactive
  | case2 s | case3 s => exact (Engine.advance_pace s.engine).interactive
  | case4 s suspension pending cancelled waited waits goes =>
    rename_i ih
    exact ih.trans (Engine.advance_pace s.engine).interactive

theorem drive_waiting {patient : Bool} (sure : patient = true) (s : Session) (running : (s.drive patient).isRunning = true)
    (unbroken : (s.drive patient).fault = none) : (s.drive patient).waiting = true := by
  fun_induction Session.drive patient s with
  | case1 s finished =>
    have halts : ({ s with engine := s.engine.advance } : Session).isRunning = false := Engine.over_of_pending finished
    rw [ended_isRunning, halts] at running
    cases running
  | case2 s suspension pending fault stuck => cases unbroken
  | case3 s suspension pending cancelled waited waits =>
    rename_i rests
    subst sure
    have both : waits = true ∧ cancelled = false := by simpa using rests
    simpa [waits] using both.1
  | case4 s suspension pending cancelled waited waits goes =>
    rename_i ih
    exact ih running unbroken

theorem Follows.release (follows : s.Follows refusals first) (waiting : s.waiting = true) (value : Json)
    (lines : List String) :
    ({ s with engine := (s.engine.setInteractive value).print lines } : Session).release.Follows refusals first := by
  cases follows with
  | stuck fails told moving =>
    rw [waiting] at moving
    cases moving
  | ended paces finished moving =>
    rw [waiting] at moving
    cases moving
  | resting paces running unbroken asked => exact drive_follows false unbroken ((paces.interactive value).print lines)

theorem Follows.continueRun (follows : s.Follows refusals first) : s.continueRun.1.Follows refusals first := by
  cases waiting : s.waiting with
  | false =>
    have ignored : s.continueRun.1 = s := by simp [Session.continueRun, waiting]
    rw [ignored]
    exact follows
  | true =>
    let lines := if s.verbose then ["[Debugger] Continuing without stepping"] else []
    have resumed : s.continueRun.1 =
        ({ s with engine := (s.engine.setInteractive (.bool false)).print lines } : Session).release := by
      unfold Session.continueRun
      rw [waiting]
      rfl
    exact resumed ▸ follows.release waiting _ _

theorem Follows.obey (follows : s.Follows refusals first) (running : s.isRunning = true) {command : Command}
    (pacing : command.IsPacing refusals) : (s.obey command).Follows refusals first := by
  cases command with
  | run speed interactive =>
    -- The run that is turned down leaves a note, and nothing else.
    have turnedDown : s.obey (.run speed interactive) = { s with engine := s.engine.log .alreadyRunning } := by
      simp [Session.obey, Session.run, Session.prepare, running]
    rw [turnedDown]
    cases follows with
    | stuck fails told moving => exact .stuck fails told moving
    | ended paces finished moving =>
      rw [running] at finished
      cases finished
    | resting paces running unbroken asked => exact .resting (paces.refuse pacing) running unbroken asked
  | step speed =>
    cases waiting : s.waiting with
    | false =>
      have ignored : s.obey (.step speed) = s := by simp [Session.obey, step, running, waiting]
      rw [ignored]
      exact follows
    | true =>
      have resumed : s.obey (.step speed) =
          ({ s with engine := (s.engine.setInteractive (.bool true)).print [] } : Session).release := by
        unfold Session.obey
        simp only [step, running, waiting]
        rfl
      exact resumed ▸ follows.release waiting _ _
  | «continue» => exact follows.continueRun
  | elapse =>
    unfold Session.obey
    dsimp only
    split
    · rename_i moving
      cases follows with
      | stuck fails told still => simp [isStranded, running, told] at moving
      | ended paces finished still =>
        rw [running] at finished
        cases finished
      | resting paces running unbroken asked => exact drive_follows false unbroken paces
    · exact follows

theorem Follows.obeyAll (follows : s.Follows refusals first) {commands : List Command}
    (pacing : ∀ command ∈ commands, command.IsPacing refusals) : (s.obeyAll commands).Follows refusals first := by
  induction commands generalizing s with
  | nil => exact follows
  | cons command rest ih =>
    have others : ∀ c ∈ rest, c.IsPacing refusals := fun c member => pacing c (List.mem_cons_of_mem _ member)
    unfold Session.obeyAll
    rw [List.foldl_cons]
    by_cases running : s.isRunning = true
    · rw [if_pos running]
      exact ih (follows.obey running (pacing command (List.mem_cons_self ..))) others
    · rw [if_neg running]
      exact ih follows others

theorem Follows.continueRun_moving (follows : s.Follows refusals first) : s.continueRun.1.waiting = false := by
  cases waiting : s.waiting with
  | false => simp [Session.continueRun, waiting]
  | true =>
    cases follows.continueRun with
    | stuck fails told moving => exact moving
    | ended paces finished moving => exact moving
    | resting paces running unbroken asked =>
      have given : s.continueRun.1.engine.interactive = .bool false := by
        simp only [Session.continueRun, waiting]
        exact drive_interactive false _
      rw [asked, Engine.isInteractive, given]
      rfl

theorem Follows.join (follows : s.Follows refusals first) (moving : s.waiting = false) :
    (∃ fault, Pause.Fails first.speed first.baseDelay fault ∧ s.join.fault = some (.pause fault)) ∨
      ∃ stops, first.Paces refusals stops s.join.engine ∧ s.join.engine.isActive = false := by
  cases follows with
  | @stuck fault fails told still =>
    -- Nothing moves any more, so there is nothing to wait for.
    have stays : s.join = s := by
      cases running : s.isRunning <;> simp [Session.join, isStranded, told, running]
    exact .inl ⟨fault, fails, stays.symm ▸ told⟩
  | @ended stops paces finished still =>
    have stays : s.join = s := by simp [Session.join, finished]
    exact .inr ⟨stops, stays.symm ▸ paces, stays.symm ▸ finished⟩
  | @resting stops paces running unbroken asked =>
    have driven : s.join = s.drive true := by simp [Session.join, isStranded, running, moving, unbroken]
    rw [driven]
    cases drive_follows true unbroken paces with
    | @stuck fault fails told still => exact .inl ⟨fault, fails, told⟩
    | @ended stops paces finished still => exact .inr ⟨stops, paces, finished⟩
    | resting _ again sound waits =>
      -- A patient user is left waiting only for a step, and nobody steps.
      have waiting := drive_waiting rfl s again sound
      rw [waits, Engine.isInteractive, drive_interactive, ← Engine.isInteractive, ← asked, moving] at waiting
      cases waiting

def introduce (functions : FunctionTable) (s : Session) : Session :=
  functions.foldl (fun s entry => s.logAs ("Function '" ++ entry.1.text ++ "' defined") .info) s

end Session

structure Engine.IsReady (world : World) (draws : Draws) (observers : List Observer) (callLimit : CallLimit)
    (e : Engine) : Prop where
  idle : e.isActive = false
  world : e.world = world
  draws : e.draws = draws
  observers : e.observers = observers
  callLimit : e.callLimit = callLimit

namespace Session

variable {world : World} {draws : Draws} {observers : List Observer} {callLimit : CallLimit} {s : Session}

theorem introduce_isReady (ready : s.engine.IsReady world draws observers callLimit) (functions : FunctionTable) :
    (s.introduce functions).engine.IsReady world draws observers callLimit := by
  induction functions generalizing s with
  | nil => exact ready
  | cons entry rest ih =>
    apply ih
    constructor
    · exact ready.idle
    · exact ready.world
    · exact ready.draws
    · exact (Engine.observers_logAs _ _ _).trans ready.observers
    · exact ready.callLimit

theorem introduce_program (functions : FunctionTable) (s : Session) : (s.introduce functions).program = s.program := by
  induction functions generalizing s with
  | nil => rfl
  | cons entry rest ih => exact ih _

theorem introduce_baseDelay (functions : FunctionTable) (s : Session) :
    (s.introduce functions).engine.baseDelay = s.engine.baseDelay := by
  induction functions generalizing s with
  | nil => rfl
  | cons entry rest ih => exact ih _

def Command.begins? : Command → Option (Option Json × Json)
  | .run speed interactive => some (speed, interactive)
  | .step speed => some (speed, .bool true)
  | .continue | .elapse => none

theorem obey_begins (idle : s.isRunning = false) {start : Command} {speed : Option Json} {interactive : Json}
    (begins : start.begins? = some (speed, interactive)) : s.obey start = (s.run speed interactive).1 := by
  cases start with
  | run | step =>
    cases begins
    simp [obey, step, idle]
  | «continue» | elapse => cases begins

def armed (functions : FunctionTable) (speed : Option Json) (interactive : Json) (s : Session) : Engine :=
  (s.introduce functions).engine.armed s.program functions (speed.getD (.num (.float defaultSpeed))) interactive

theorem run_eq {functions : FunctionTable} {speed : Option Json} (interactive : Json)
    (ready : s.engine.IsReady world draws observers callLimit)
    (given : (s.program.isEmpty && s.functions.isEmpty) = false)
    (table : FunctionTable.ofDefinitions s.functions = .ok functions)
    (positive : Relation.greater.check (speed.getD (.num (.float defaultSpeed))) (.int 0) = .ok true) :
    (s.run speed interactive).1 =
      ({ s.introduce functions with engine := s.armed functions speed interactive, waiting := false, fault := none } :
        Session).drive false := by
  have begun := Engine.begin_eq_armed s.program functions interactive (introduce_isReady ready functions).idle positive
  have waits : s.isRunning = false := ready.idle
  have kept := introduce_program functions s
  rw [← kept] at begun
  unfold run prepare armed
  simp only [waits, given, table]
  rw [← kept]
  simp only [introduce] at begun ⊢
  simp only [begun]
  rfl

end Session

namespace Engine

variable {e first : Engine}

theorem run_agrees {refusals : Bool} {other : Engine} {n : Nat} {program : Body} {functions : FunctionTable}
    {speed interactive : Json} {actions : Option (List HostAction)}
    (begun : e.begin program functions speed interactive = (first, .ok ())) (alike : first.Alike refusals other)
    (paced : other.IsPaced) (halts : (other.alone n).isActive = false)
    (pacing : ∀ action ∈ actions.getD [], action = .step ∨ action = .continue)
    (asked : (interactive.isTruthy && actions.isNone) = false) :
    (∃ fault, Pause.Fails first.speed first.baseDelay fault ∧
        (e.run program functions speed interactive actions).2 = .error (.fault (.pause fault))) ∨
      ∃ stops, Agrees refusals (other.places n) (other.alone n) first stops
          (e.run program functions speed interactive actions).1 ∧
        (∀ fault, (other.alone n).fault? = some fault →
          (e.run program functions speed interactive actions).2 = .error (.fault fault)) ∧
        ((other.alone n).fault? = none → ∃ seen,
          (e.run program functions speed interactive actions).2 = .ok (seen, (other.alone n).result?) ∧
            seen.Sublist stops) := by
  -- A run that is driven comes to its end or to a pause that fails.
  have driven : Driven refusals first (first.driveFrom (actions.getD []) []) :=
    driveFrom_driven pacing .start (List.Sublist.refl [])
  rw [run_of_begun asked begun]
  generalize first.driveFrom (actions.getD []) [] = outcome at driven
  cases driven with
  | @stuck fault fails seen last => exact .inl ⟨fault, fails, rfl⟩
  | @broken fault fails seen last broken => exact .inl ⟨fault, fails, by simp only [broken]⟩
  | @ended stops seen last paces finished asked =>
    have agrees := paces.agrees alike paced halts finished
    refine .inr ⟨stops, ?_⟩
    rw [← agrees.raised, ← agrees.result]
    cases broken : last.fault? with
    | some fault =>
      refine ⟨by simpa only [broken] using agrees, ?_, ?_⟩
      · rintro _ ⟨⟩
        simp only [broken]
      · rintro ⟨⟩
    | none =>
      refine ⟨by simpa only [broken] using agrees, ?_, ?_⟩
      · rintro _ ⟨⟩
      · intro sound
        exact ⟨seen, by simp only [broken], asked⟩

theorem complete_agrees {refusals : Bool} {other : Engine} {n : Nat} {world : World} {draws : Draws}
    {observers : List Observer} {callLimit : CallLimit} {functions : FunctionTable} {s : Session}
    {speed : Option Json} {interactive : Json} {start : Session.Command} {commands : List Session.Command}
    (ready : s.engine.IsReady world draws observers callLimit)
    (table : FunctionTable.ofDefinitions s.functions = .ok functions)
    (given : (s.program.isEmpty && s.functions.isEmpty) = false)
    (positive : Relation.greater.check (speed.getD (.num (.float defaultSpeed))) (.int 0) = .ok true)
    (begins : start.begins? = some (speed, interactive))
    (alike : (s.armed functions speed interactive).Alike refusals other) (paced : other.IsPaced)
    (halts : (other.alone n).isActive = false) (pacing : ∀ command ∈ commands, command.IsPacing refusals) :
    (∃ fault, Pause.Fails (speed.getD (.num (.float defaultSpeed))) s.engine.baseDelay fault ∧
        ((s.obey start).obeyAll commands).complete.fault = some (.pause fault)) ∨
      ∃ stops, Agrees refusals (other.places n) (other.alone n) (s.armed functions speed interactive) stops
        ((s.obey start).obeyAll commands).complete.engine := by
  have follows : (s.obey start).Follows refusals (s.armed functions speed interactive) := by
    rw [Session.obey_begins ready.idle begins, Session.run_eq interactive ready given table positive]
    exact Session.drive_follows false rfl .start
  have obeyed := follows.obeyAll pacing
  rcases obeyed.continueRun.join obeyed.continueRun_moving with ⟨fault, fails, told⟩ | ⟨stops, paces, finished⟩
  · have base : (s.armed functions speed interactive).baseDelay = s.engine.baseDelay :=
      Session.introduce_baseDelay functions s
    rw [base] at fails
    exact .inl ⟨fault, fails, told⟩
  · exact .inr ⟨stops, paces.agrees alike paced halts finished⟩

/-- However a run is paced that begins with the same world, random numbers and observers, it comes through the same
suspensions to the same end, with the same account of what happened: by hand, driven with actions, or in a session.
The only exception are pauses that cannot be computed, or not be waited out by a host that waits. Where hosts may ask
for another run in vain, the account passes over the refusals. -/
theorem pace_changes_nothing (refusals : Bool) (program : Body) (functions : FunctionTable) (world : World) (draws : Draws)
    (observers : List Observer) (callLimit : CallLimit) :
    ∃ (places : List (Instruction × Nat)) (last : Engine), last.state = .completed ∧
      (∀ {e : Engine} {speed : Json} (interactive : Json), e.IsReady world draws observers callLimit →
        Relation.greater.check speed (.int 0) = .ok true →
        let first := (e.begin program functions speed interactive).1
        (∀ visits : Nat → List Meddling, (∀ n, ∀ m ∈ visits n, m.IsPacing refusals) →
          ∃ n, (first.attend visits n).isActive = false ∧
            ((∃ fault, Pause.atSpeed speed e.baseDelay = .error fault ∧
                (first.attend visits n).fault? = some (.pause fault)) ∨
              Agrees refusals places last first (first.stopsAmong visits n) (first.attend visits n))) ∧
        ∀ actions : Option (List HostAction), (∀ action ∈ actions.getD [], action = .step ∨ action = .continue) →
          (interactive.isTruthy && actions.isNone) = false →
          (∃ fault, Pause.Fails speed e.baseDelay fault ∧
              (e.run program functions speed interactive actions).2 = .error (.fault (.pause fault))) ∨
            ∃ stops, Agrees refusals places last first stops (e.run program functions speed interactive actions).1 ∧
              (∀ fault, last.fault? = some fault →
                (e.run program functions speed interactive actions).2 = .error (.fault fault)) ∧
              (last.fault? = none → ∃ seen,
                (e.run program functions speed interactive actions).2 = .ok (seen, last.result?) ∧ seen.Sublist stops)) ∧
      ∀ {s : Session} {speed : Option Json} {interactive : Json} {start : Session.Command},
        s.engine.IsReady world draws observers callLimit → s.program = program →
        FunctionTable.ofDefinitions s.functions = .ok functions → (s.program.isEmpty && s.functions.isEmpty) = false →
        Relation.greater.check (speed.getD (.num (.float defaultSpeed))) (.int 0) = .ok true →
        start.begins? = some (speed, interactive) →
        ∀ commands : List Session.Command, (∀ command ∈ commands, command.IsPacing refusals) →
          let ended := ((s.obey start).obeyAll commands).complete
          (∃ fault, Pause.Fails (speed.getD (.num (.float defaultSpeed))) s.engine.baseDelay fault ∧
              ended.fault = some (.pause fault)) ∨
            ∃ stops, Agrees refusals places last (s.armed functions speed interactive) stops ended.engine := by
  -- What every host is compared with is a run that somebody steps through from end to end.
  let plain : Engine := { world, draws, observers, baseDelay := .int 0, callLimit }
  let other := plain.armed program functions (.int 1) (.bool true)
  let bound := Instruction.bodyCost (functions.callCost callLimit.depth) program
  have paced : other.IsPaced := ⟨_, rfl⟩
  have within : other.IsWithin bound other.entered.length 0 := armed_isWithin program functions (.int 1) (.bool true) plain
  have halts : (other.alone (bound + 1)).isActive = false := within.over fun _ => []
  have alike {e : Engine} (ready : e.IsReady world draws observers callLimit) (speed interactive : Json) :
      (e.armed program functions speed interactive).Alike refusals other :=
    armed_alike program functions speed interactive (.int 1) (.bool true) ready.world ready.draws ready.observers
      ready.callLimit
  refine ⟨other.places (bound + 1), other.alone (bound + 1), within.completed (fun _ => []) rfl, ?_, ?_⟩
  · intro e speed interactive ready positive first
    have begun := begin_eq_armed program functions interactive ready.idle positive
    have armed : first = e.armed program functions speed interactive := congrArg Prod.fst begun
    rw [armed]
    constructor
    · intro visits pacing
      have finished := (armed_isWithin program functions speed interactive e).over visits
      refine ⟨_, finished, ?_⟩
      rcases attend_paces (e.armed program functions speed interactive) pacing _ with failed | paces
      · exact .inl failed
      · exact .inr (paces.agrees (alike ready speed interactive) paced halts finished)
    · intro actions pacing asked
      exact run_agrees begun (alike ready speed interactive) paced halts pacing asked
  · intro s speed interactive start ready same table given positive begins commands pacing ended
    subst same
    exact complete_agrees ready table given positive begins
      (alike (Session.introduce_isReady ready functions) _ interactive) paced halts pacing

/-- One program at three speeds: by hand with a host that changes its mind at every suspension, driven with one step,
and in a session that is stepped, left alone and asked for another run. -/
theorem pace_changes_nothing_nested :
    let body : Body := [.increment .r1, .ifThen (.sensor .coin) [.turnRight]]
    let program : Body := [.repeatTimes (.int 2) [.move, .call (.str "f")]]
    let e : Engine :=
      { world := .ofBoard { size := 3, start := ⟨⟨0, 0⟩, .right, false⟩, goal := ⟨2, 0⟩, obstacles := [] }
        draws := .ofSeed 7, observers := [.console "Run" true], baseDelay := .num (.float Binary64.half)
        callLimit := .ofInt 3 }
    let s : Session :=
      { allocation := .within 100, catalog := .fallback, level := .builtIn, engine := e, program
        functions := [.define (.str "f") body] }
    let visits (n : Nat) : List Meddling := [.interactive (.bool (n % 2 == 0))]
    let commands : List Session.Command := [.step none, .run none (.bool false), .continue, .elapse]
    let pace (bits : UInt64) : Json := .num (.float ⟨bits⟩)
    let byHand := (e.begin program [(.str "f", body)] (pace 0x4008000000000000) (.bool false)).1
    let driven := (e.run program [(.str "f", body)] (pace 0x4014000000000000) (.bool true) (some [.step, .continue])).1
    let ended := ((s.obey (.step (some (pace 0x4000000000000000)))).obeyAll commands).complete.engine
    ∃ n, (byHand.attend visits n).isActive = false ∧ (byHand.attend visits n).result? = driven.result? ∧
      ended.result? = driven.result? ∧ (byHand.attend visits n).account true = driven.account true ∧
      ended.account true = driven.account true := by
  intro body program e s visits commands pace byHand driven ended
  rcases pace_changes_nothing true program [(.str "f", body)] e.world e.draws e.observers e.callLimit with
    ⟨places, last, -, alone, session⟩
  have ready : e.IsReady e.world e.draws e.observers e.callLimit := ⟨rfl, rfl, rfl, rfl, rfl⟩
  have positive (bits : UInt64) (above : Number.lt (.int 0) (.float ⟨bits⟩) = true) :
      Relation.greater.check (pace bits) (.int 0) = .ok true := congrArg Except.ok above
  have waits (bits : UInt64) (short : Pause.isTooLong (.float (Binary64.half.div ⟨bits⟩)) = false) (fault : PauseFault) :
      ¬Pause.Fails (pace bits) e.baseDelay fault := Pause.not_fails (Pause.atSpeed_float _ _) short fault
  have changing : ∀ n, ∀ m ∈ visits n, m.IsPacing true := by
    intro n m member
    rcases List.mem_singleton.mp member with rfl
    trivial
  have asking : ∀ command ∈ commands, command.IsPacing true := by
    intro command member
    simp only [commands, List.mem_cons, List.not_mem_nil, or_false] at member
    rcases member with rfl | rfl | rfl | rfl <;> trivial
  rcases (alone (.bool false) ready (positive 0x4008000000000000 (by decide +kernel))).1 visits changing with
    ⟨n, finished, ⟨fault, failed, -⟩ | first⟩
  · exact (waits 0x4008000000000000 (by decide +kernel) fault (.uncomputed failed)).elim
  rcases (alone (.bool true) ready (positive 0x4014000000000000 (by decide +kernel))).2 (some [.step, .continue])
    (by simp) rfl with ⟨fault, fails, -⟩ | ⟨stops, second, -⟩
  · exact (waits 0x4014000000000000 (by decide +kernel) fault fails).elim
  have begins : (Session.Command.step (some (pace 0x4000000000000000))).begins? =
      some (some (pace 0x4000000000000000), .bool true) := rfl
  have slow : Relation.greater.check ((some (pace 0x4000000000000000)).getD (.num (.float defaultSpeed))) (.int 0) =
      .ok true := positive 0x4000000000000000 (by decide +kernel)
  rcases session (s := s) ready rfl rfl rfl slow begins commands asking with
    ⟨fault, fails, -⟩ | ⟨stops, third⟩
  · exact (waits 0x4000000000000000 (by decide +kernel) fault fails).elim
  exact ⟨n, finished, first.result.trans second.result.symm, third.result.trans second.result.symm,
    first.account.trans second.account.symm, third.account.trans second.account.symm⟩

/-- A wait of sixteen thousand years is too long to be driven through, and a session that is asked for another run says
so in between. -/
theorem pace_changes_account :
    let speed := Json.num (.float ⟨0x3d719799812dea11⟩)
    let e : Engine :=
      { world := .ofBoard { size := 3, start := ⟨⟨0, 0⟩, .right, false⟩, goal := ⟨0, 0⟩, obstacles := [] }
        draws := .ofList [], observers := [], baseDelay := .num (.float Binary64.half), callLimit := .ofInt 50 }
    let s : Session :=
      { allocation := .within 100, catalog := .fallback, level := .builtIn, engine := e, program := [.turnLeft] }
    let ended (commands : List Session.Command) := ((s.obey (.step none)).obeyAll commands).complete.engine
    Relation.greater.check speed (.int 0) = .ok true ∧
      (e.begin [.turnLeft] [] speed (.bool false)).1.drain.1.result?.map RunResult.ending = some .success ∧
      (e.run [.turnLeft] [] speed (.bool false) none).1.result? = none ∧
      (ended []).result? = (ended [.run none (.bool false)]).result? ∧
      (ended []).account false ≠ (ended [.run none (.bool false)]).account false := by
  intro speed e s ended
  have above : Number.lt (.int 0) (.float ⟨0x3d719799812dea11⟩) = true := by decide +kernel
  refine ⟨congrArg Except.ok above, by decide +kernel, by decide +kernel, by decide +kernel, ?_⟩
  intro same
  have lengths : ((ended []).account false).length ≠ ((ended [.run none (.bool false)]).account false).length := by
    decide +kernel
  exact lengths (congrArg List.length same)

end Engine

end GridRobot
