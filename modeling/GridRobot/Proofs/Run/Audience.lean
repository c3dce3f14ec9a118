import GridRobot.Proofs.Run.Calls
import GridRobot.Proofs.Run.Parallel

/-!
Those who listen to a run, and the run without them. An observer is calm if it never asks a run to stop, whatever it
has heard before: it may listen, print, or fail in its hooks. `Engine.Watched` relates a run with an audience to the
same run with none. Everything a host may call keeps that, so the audience shows in nothing but what is printed, which
`Observer.said` gives line by line.
-/
namespace GridRobot

namespace Observer

def told (observer : Observer) (events : List Event) : Observer :=
  events.foldl (fun observer event => (observer.react event).observer) observer

/-- Whatever it was told, it never asks a run to stop. -/
def IsCalm (observer : Observer) : Prop := ∀ events event, ((observer.told events).react event).stop = false

def notice (observer : Observer) (event : Event) : List String :=
  let response := observer.respond observer.heard event
  match response.failure with
  | some message => response.lines ++ [failureLine observer.name event.hook message]
  | none => response.lines

/-- What is printed while some are told of these events, each observer in its turn at each event. -/
def said (observers : List Observer) : List Event → List String
  | [] => []
  | event :: rest =>
    observers.flatMap (fun observer => observer.notice event) ++
      said (observers.map fun observer => observer.told [event]) rest

variable {observer : Observer}

theorem IsCalm.stop (calm : observer.IsCalm) (event : Event) : (observer.react event).stop = false := calm [] event

theorem IsCalm.react (calm : observer.IsCalm) (event : Event) : (observer.react event).observer.IsCalm :=
  fun events => calm (event :: events)

theorem respond_told (events : List Event) (observer : Observer) : (observer.told events).respond = observer.respond := by
  induction events generalizing observer with
  | nil => rfl
  | cons event rest ih =>
    rw [told, List.foldl_cons, ← told, ih, Observer.react]
    dsimp only
    split
    · rfl
    · rfl

theorem isCalm_of_quiet (quiet : ∀ heard event, (observer.respond heard event).stop = false) : observer.IsCalm := by
  intro events event
  rw [Observer.react, respond_told, quiet]
  exact Bool.and_false _

theorem silent_isCalm : silent.IsCalm := isCalm_of_quiet fun _ _ => rfl

theorem console_isCalm (tag : String) (verbose : Bool) : (console tag verbose).IsCalm := isCalm_of_quiet fun _ _ => rfl

theorem faulty_isCalm (name message : String) (hooks : List Hook) : (faulty name message hooks).IsCalm :=
  isCalm_of_quiet fun _ _ => rfl

theorem lines_react (observer : Observer) (event : Event) : (observer.react event).lines = observer.notice event := by
  rw [react, notice]
  dsimp only
  cases (observer.respond observer.heard event).failure with
  | none => exact List.append_nil _
  | some message => rfl

theorem map_told_append (observers : List Observer) (events : List Event) (event : Event) :
    (observers.map fun observer => observer.told (events ++ [event])) =
      (observers.map fun observer => observer.told events).map fun observer => (observer.react event).observer := by
  simp only [told, List.foldl_append, List.foldl_cons, List.foldl_nil, List.map_map, Function.comp_def]

theorem said_append (observers : List Observer) (events : List Event) (event : Event) :
    said observers (events ++ [event]) =
      said observers events ++
        (observers.map fun observer => observer.told events).flatMap fun observer => observer.notice event := by
  induction events generalizing observers with
  | nil => simp only [said, told, List.nil_append, List.foldl_nil, List.map_id', List.append_nil]
  | cons first rest ih =>
    rw [List.cons_append, said, said, ih, List.append_assoc, List.map_map]
    rfl

end Observer

def HostCall.joins? : HostCall → Option Observer
  | .meddle (.observe observer) => some observer
  | _ => none

theorem HostCall.eq_of_joins {call : HostCall} {observer : Observer} (joins : call.joins? = some observer) :
    call = .meddle (.observe observer) := by
  revert joins
  fun_cases HostCall.joins? call with rintro ⟨⟩
  | case1 => rfl

inductive Reply
  | nothing
  | advanced (answer : Except RunFault (Option Suspension))
  | begun (answer : Except EngineError Unit)
  | written (answer : Except RegisterFault Unit)
  | placed (answer : Except EngineError Unit)
  | ran (answer : Except HostError (List Suspension × Option RunResult))

namespace Engine

def IsCalm (e : Engine) : Prop := ∀ observer ∈ e.observers, observer.IsCalm

def unwatched (e : Engine) : Engine := { e with observers := [], printed := [] }

variable {first a b : Engine}

def reportedSince (e earlier : Engine) : List Event :=
  (e.events.take (e.events.length - earlier.events.length)).reverse

/-- What is printed in the course of some calls, if what each of them reports is brought to those who listen then. -/
def transcript (e : Engine) : List HostCall → List String
  | [] => []
  | call :: rest => Observer.said e.observers ((e.undergo call).reportedSince e) ++ (e.undergo call).transcript rest

def reply (e : Engine) : HostCall → Reply
  | .advance => .advanced e.resume.2
  | .meddle (.begin program functions speed interactive) => .begun (e.begin program functions speed interactive).2
  | .meddle (.register name value) => .written ((e.world.registers.write name value).map fun _ => ())
  | .meddle (.setWorld world) => .placed ((e.setWorld world).map fun _ => ())
  | .meddle _ => .nothing
  | .run program functions speed interactive actions => .ran (e.run program functions speed interactive actions).2

namespace IsCalm

variable {e : Engine}

theorem emit (calm : e.IsCalm) (event : Event) : (e.emit event).IsCalm := by
  simp only [IsCalm, Engine.emit, List.map_map, List.mem_map]
  rintro _ ⟨observer, member, rfl⟩
  exact (calm observer member).react event

theorem cancelled_emit (calm : e.IsCalm) (event : Event) : (e.emit event).cancelled = e.cancelled := by
  have quiet : (e.observers.any fun observer => (observer.react event).stop) = false := by
    rw [List.any_eq_false]
    intro observer member
    rw [(calm observer member).stop event]
    exact Bool.false_ne_true
  simp only [Engine.emit, List.any_map, Function.comp_def, quiet, Bool.or_false]

end IsCalm

/-- One run with a calm audience, and the same run with none. The audience was told of the events since `first`, and
that is what was printed. -/
structure Watched (first a b : Engine) : Prop where
  bare : a.unwatched = b
  calm : a.IsCalm
  told : ∃ events : List Event, a.events = events.reverse ++ first.events ∧
    a.observers = first.observers.map (fun observer => observer.told events) ∧
    a.printed = (Observer.said first.observers events).reverse ++ first.printed

namespace Watched

theorem start (calm : first.IsCalm) : Watched first first first.unwatched where
  bare := rfl
  calm := calm
  told := ⟨[], rfl, (List.map_id' _).symm, rfl⟩

theorem aside (watched : Watched first a b) {c d : Engine} (bare : c.unwatched = d) (observers : c.observers = a.observers)
    (events : c.events = a.events) (printed : c.printed = a.printed) : Watched first c d where
  bare := bare
  calm := by
    rw [IsCalm, observers]
    exact watched.calm
  told := by
    rw [events, printed, observers]
    exact watched.told

theorem emit (watched : Watched first a b) (event : Event) : Watched first (a.emit event) (b.emit event) where
  bare := by
    have unheard : (a.emit event).cancelled = (a.unwatched.emit event).cancelled :=
      (watched.calm.cancelled_emit event).trans (Bool.or_false _).symm
    rw [← watched.bare, unwatched, unheard]
    rfl
  calm := watched.calm.emit event
  told := by
    obtain ⟨events, recorded, audience, printed⟩ := watched.told
    have lines : (a.observers.map fun observer => observer.react event).flatMap Reaction.lines =
        a.observers.flatMap fun observer => observer.notice event := by
      simp only [List.flatMap_map, Observer.lines_react]
    refine ⟨events ++ [event], ?_, ?_, ?_⟩
    · rw [List.reverse_append]
      exact congrArg (List.cons event) recorded
    · rw [Observer.map_told_append, ← audience]
      exact List.map_map ..
    · rw [Observer.said_append, ← audience, ← lines, List.reverse_append, List.append_assoc, ← printed]
      rfl

theorem log (watched : Watched first a b) (note : Note) : Watched first (a.log note) (b.log note) := watched.emit _

theorem inWorld (watched : Watched first a b) (world : World) :
    Watched first { a with world } { b with world } := by
  obtain rfl := watched.bare
  exact watched.aside rfl rfl rfl rfl

theorem inPhase (watched : Watched first a b) (phase : Phase) :
    Watched first { a with phase } { b with phase } := by
  obtain rfl := watched.bare
  exact watched.aside rfl rfl rfl rfl

theorem finish (watched : Watched first a b) (ending : Ending) :
    Watched first (a.finish ending) (b.finish ending) := by
  obtain rfl := watched.bare
  exact (watched.inPhase _).emit _

theorem stop (watched : Watched first a b) (halt : Halt) : Watched first (a.stop halt) (b.stop halt) :=
  (watched.log halt.note).finish halt.ending

theorem abort (watched : Watched first a b) : Watched first a.abort b.abort := (watched.log .aborted).finish .aborted

theorem world (watched : Watched first a b) : b.world = a.world := watched.bare ▸ rfl

theorem conclude (watched : Watched first a b) : Watched first a.conclude b.conclude := by
  rw [Engine.conclude, Engine.conclude, watched.world]
  split
  · exact (watched.log .goalReached).finish .success
  · exact (watched.log .goalMissed).finish .goalMissed

theorem showWorld (watched : Watched first a b) : Watched first a.showWorld b.showWorld := by
  rw [Engine.showWorld, Engine.showWorld, watched.world]
  exact watched.emit _

theorem showRegisters (watched : Watched first a b) : Watched first a.showRegisters b.showRegisters := by
  rw [Engine.showRegisters, Engine.showRegisters, watched.world]
  exact watched.emit _

theorem cancelled (watched : Watched first a b) : b.cancelled = a.cancelled := watched.bare ▸ rfl

theorem interactive (watched : Watched first a b) : b.interactive = a.interactive := watched.bare ▸ rfl

theorem delay (watched : Watched first a b) : b.delay = a.delay := watched.bare ▸ rfl

theorem executed (watched : Watched first a b) : b.executed = a.executed := watched.bare ▸ rfl

theorem announce (watched : Watched first a b) (node : Instruction) :
    Watched first (a.announce node) (b.announce node) := by
  obtain rfl := watched.bare
  have counted : Watched first { a with executed := a.executed + 1 } { a.unwatched with executed := a.executed + 1 } :=
    watched.aside rfl rfl rfl rfl
  have entered := counted.emit (.entered node)
  by_cases stepped : a.isInteractive = true
  · have left : a.announce node = ({ a with executed := a.executed + 1 }.emit (.entered node)).log (.pausedAt node) :=
      if_pos stepped
    have right : a.unwatched.announce node =
        ({ a.unwatched with executed := a.executed + 1 }.emit (.entered node)).log (.pausedAt node) := if_pos stepped
    rw [left, right]
    exact entered.log _
  · have left : a.announce node = { a with executed := a.executed + 1 }.emit (.entered node) := if_neg stepped
    have right : a.unwatched.announce node = { a.unwatched with executed := a.executed + 1 }.emit (.entered node) :=
      if_neg stepped
    rw [left, right]
    exact entered

theorem enter (watched : Watched first a b) (node : Instruction) (frames : List Frame) :
    Watched first (a.enter node frames) (b.enter node frames) := by
  have announced := watched.announce node
  rw [enter_eq, enter_eq, watched.cancelled, announced.delay, announced.interactive, announced.executed]
  split
  · exact watched.abort
  · split
    · exact announced.stop _
    · exact announced.inPhase _

theorem functions (watched : Watched first a b) : b.functions = a.functions := watched.bare ▸ rfl

theorem callLimit (watched : Watched first a b) : b.callLimit = a.callLimit := watched.bare ▸ rfl

theorem isParallel (first : Engine) : IsParallel (Watched first) where
  world watched := watched.world
  draws watched := watched.bare ▸ rfl
  draw watched draws := by
    obtain rfl := watched.bare
    exact watched.aside rfl rfl rfl rfl
  log watched note := watched.log note

theorem performsAlike (first : Engine) : PerformsAlike id (Watched first) :=
  { isParallel first with
    callLimit := fun watched => watched.callLimit
    look := fun watched => look_same watched.functions
    inWorld := fun watched world => watched.inWorld world
    showWorld := fun watched => watched.showWorld
    showRegisters := fun watched => watched.showRegisters }

theorem proceedsTo (first : Engine) : ProceedsTo id (Watched first) (Watched first) :=
  { isParallel first with
    nothing := rfl
    cancelled := fun watched => watched.cancelled
    conclude := fun watched => watched.conclude
    abort := fun watched => watched.abort
    stop := fun watched halt => watched.stop halt
    enter := fun watched node rest outer => by
      rw [proceed_block_same]
      exact watched.enter node _ }

theorem phase (watched : Watched first a b) : b.phase = a.phase := watched.bare ▸ rfl

theorem advance (watched : Watched first a b) : Watched first a.advance b.advance := by
  have level := watched.phase
  cases here : a.phase with
  | idle | completed result =>
    rw [here] at level
    rwa [Engine.advance, here, Engine.advance, level]
  | active pending frames =>
    rw [here] at level
    cases pending with
    | none =>
      rw [Engine.advance, here, Engine.advance, level]
      exact (proceedsTo first).proceed_same watched frames
    | some suspension =>
      cases cancelled : a.cancelled with
      | true =>
        simp only [Engine.advance, here, level, watched.cancelled, cancelled]
        exact watched.abort
      | false =>
        have straight := watched.cancelled.trans cancelled
        rcases (performsAlike first).perform_same watched suspension.node frames with
          ⟨next, other, after, watched, left, right⟩ | ⟨next, other, halt, watched, left, right⟩
        · rw [advance_onward here cancelled left, advance_onward level straight right]
          exact (proceedsTo first).proceed_same watched after
        · rw [advance_ended here cancelled left, advance_ended level straight right]
          exact watched.stop halt

theorem isActive (watched : Watched first a b) : b.isActive = a.isActive := watched.bare ▸ rfl

theorem fault? (watched : Watched first a b) : b.fault? = a.fault? := watched.bare ▸ rfl

theorem pending? (watched : Watched first a b) : b.pending? = a.pending? := watched.bare ▸ rfl

theorem result? (watched : Watched first a b) : b.result? = a.result? := watched.bare ▸ rfl

theorem resume (watched : Watched first a b) :
    b.resume.2 = a.resume.2 ∧ Watched first a.resume.1 b.resume.1 := by
  constructor
  · simp only [Engine.resume, watched.isActive, watched.advance.fault?, watched.advance.pending?]
    split
    · cases a.advance.fault? <;> rfl
    · rfl
  · rw [resume_engine, resume_engine]
    exact watched.advance

theorem begin (watched : Watched first a b) (program : Body) (functions : FunctionTable) (speed interactive : Json) :
    (b.begin program functions speed interactive).2 = (a.begin program functions speed interactive).2 ∧
      Watched first (a.begin program functions speed interactive).1 (b.begin program functions speed interactive).1 := by
  have armed : Watched first
      { a with
        speed, interactive, cancelled := false, functions, executed := 0
        phase := .active none [.block program] }
      { b with
        speed, interactive, cancelled := false, functions, executed := 0
        phase := .active none [.block program] } := by
    obtain rfl := watched.bare
    exact watched.aside rfl rfl rfl rfl
  rw [Engine.begin, Engine.begin, watched.isActive]
  split
  · exact ⟨rfl, watched.log _⟩
  · split
    · exact ⟨rfl, watched⟩
    · exact ⟨rfl, watched⟩
    · exact ⟨rfl, armed.log _⟩

theorem sleep (watched : Watched first a b) (seconds : Json) : b.sleep seconds = a.sleep seconds := by
  rw [Engine.sleep, Engine.sleep, watched.cancelled]

theorem apply (watched : Watched first a b) (action : HostAction) : Watched first (a.apply action) (b.apply action) := by
  obtain rfl := watched.bare
  cases action with
  | step | fail => exact watched
  | «continue» | cancel => exact watched.aside rfl rfl rfl rfl

end Watched

theorem driveFrom_eq (actions : List HostAction) (seen : List Suspension) (e : Engine) :
    e.driveFrom actions seen = match e.advance.pending? with
      | none => (none, seen.reverse, e.advance)
      | some suspension =>
        if suspension.isInteractive then
          match actions with
          | [] => e.advance.driveFrom [] (suspension :: seen)
          | action :: rest =>
            if action = .fail then (some .host, (suspension :: seen).reverse, e.advance)
            else (e.advance.apply action).driveFrom rest (suspension :: seen)
        else match e.advance.sleep (.num (.float suspension.delay)) with
        | .error fault => (some (.fault fault), seen.reverse, e.advance)
        | .ok _ => e.advance.driveFrom actions seen := by
  rw [driveFrom]
  split
  · rename_i finished
    simp only [finished]
  · rename_i pending
    rewrite [pending]
    cases actions <;> rfl

namespace Watched

theorem driveFrom (watched : Watched first a b) (actions : List HostAction) (seen : List Suspension) :
    (b.driveFrom actions seen).1 = (a.driveFrom actions seen).1 ∧
      (b.driveFrom actions seen).2.1 = (a.driveFrom actions seen).2.1 ∧
      Watched first (a.driveFrom actions seen).2.2 (b.driveFrom actions seen).2.2 := by
  -- Along the recursion of `driveFrom`: no branch depends on who is told of the run.
  fun_induction Engine.driveFrom actions seen a generalizing b with
  | case1 actions seen a finished =>
    rw [driveFrom_eq, watched.advance.pending?, finished]
    exact ⟨rfl, rfl, watched.advance⟩
  | case2 seen a suspension pending interactive ih =>
    rw [driveFrom_eq, watched.advance.pending?, pending]
    simp only [if_pos interactive]
    exact ih watched.advance
  | case3 seen a suspension pending interactive rest =>
    rw [driveFrom_eq, watched.advance.pending?, pending]
    simp only [if_pos interactive, ↓reduceIte, true_and]
    exact watched.advance
  | case4 seen a suspension pending interactive action rest going ih =>
    rw [driveFrom_eq, watched.advance.pending?, pending]
    simp only [if_pos interactive, if_neg going]
    exact ih (watched.advance.apply action)
  | case5 actions seen a suspension pending alone fault stuck =>
    rw [driveFrom_eq, watched.advance.pending?, pending]
    simp only [if_neg alone, watched.advance.sleep, stuck, true_and]
    exact watched.advance
  | case6 actions seen a suspension pending alone cancelled waited ih =>
    rw [driveFrom_eq, watched.advance.pending?, pending]
    simp only [if_neg alone, watched.advance.sleep, waited]
    exact ih watched.advance

theorem run (watched : Watched first a b) (program : Body) (functions : FunctionTable) (speed interactive : Json)
    (actions : Option (List HostAction)) :
    (b.run program functions speed interactive actions).2 = (a.run program functions speed interactive actions).2 ∧
      Watched first (a.run program functions speed interactive actions).1
        (b.run program functions speed interactive actions).1 := by
  by_cases unheard : (interactive.isTruthy && actions.isNone) = true
  · rw [Engine.run, Engine.run, if_pos unheard, if_pos unheard]
    exact ⟨rfl, watched⟩
  have heard : (interactive.isTruthy && actions.isNone) = false := (Bool.not_eq_true _).mp unheard
  have armed := watched.begin program functions speed interactive
  rcases left : a.begin program functions speed interactive with ⟨started, outcome⟩
  rcases right : b.begin program functions speed interactive with ⟨other, answer⟩
  rw [left, right] at armed
  obtain ⟨same, armed⟩ : answer = outcome ∧ Watched first started other := armed
  subst same
  cases answer with
  | error error =>
    rw [Engine.run, Engine.run, if_neg unheard, if_neg unheard, left, right]
    exact ⟨rfl, armed⟩
  | ok done =>
    rw [run_of_begun heard left, run_of_begun heard right]
    have driven := armed.driveFrom (actions.getD []) []
    rcases left : started.driveFrom (actions.getD []) [] with ⟨broken, seen, last⟩
    rcases right : other.driveFrom (actions.getD []) [] with ⟨broken', seen', last'⟩
    rw [left, right] at driven
    obtain ⟨same, asked, after⟩ : broken' = broken ∧ seen' = seen ∧ Watched first last last' := driven
    subst same asked
    cases broken' with
    | some error => exact ⟨rfl, after⟩
    | none =>
      simp only [after.fault?, after.result?]
      cases last.fault? with
      | some fault => exact ⟨rfl, after⟩
      | none => exact ⟨rfl, after⟩

theorem meddle (watched : Watched first a b) {meddling : Meddling} (same : (HostCall.meddle meddling).joins? = none) :
    Watched first (a.meddle meddling) (b.meddle meddling) := by
  cases meddling with
  | begin program functions speed interactive => exact (watched.begin program functions speed interactive).2
  | log content severity => exact watched.emit _
  | observe observer => cases same
  | interactive value =>
    obtain rfl := watched.bare
    exact watched.aside rfl rfl rfl rfl
  | cancel =>
    obtain rfl := watched.bare
    exact watched.aside rfl rfl rfl rfl
  | register name value =>
    simp only [Engine.meddle, watched.world]
    split
    · exact watched
    · exact watched.inWorld _
  | setWorld world =>
    simp only [Engine.meddle, Engine.setWorld, watched.isActive]
    cases a.isActive with
    | true => exact watched
    | false => exact watched.inWorld world

theorem undergo (watched : Watched first a b) {call : HostCall} (same : call.joins? = none) :
    Watched first (a.undergo call) (b.undergo call) := by
  cases call with
  | advance => exact watched.resume.2
  | meddle meddling => exact watched.meddle same
  | run program functions speed interactive actions => exact (watched.run program functions speed interactive actions).2

theorem reply (watched : Watched first a b) (call : HostCall) : b.reply call = a.reply call := by
  cases call with
  | advance => rw [Engine.reply, Engine.reply, watched.resume.1]
  | run program functions speed interactive actions =>
    rw [Engine.reply, Engine.reply, (watched.run program functions speed interactive actions).1]
  | meddle meddling =>
    cases meddling with
    | begin program functions speed interactive =>
      rw [Engine.reply, Engine.reply, (watched.begin program functions speed interactive).1]
    | register name value => rw [Engine.reply, Engine.reply, watched.world]
    | setWorld world =>
      simp only [Engine.reply, Engine.setWorld, watched.isActive]
      split
      · rfl
      · rfl
    | interactive | cancel | observe | log => rfl

theorem printed_reverse (watched : Watched first a b) :
    a.printed.reverse = first.printed.reverse ++ Observer.said first.observers (a.reportedSince first) := by
  obtain ⟨events, recorded, -, printed⟩ := watched.told
  have since : a.reportedSince first = events := by
    rw [reportedSince, recorded, List.length_append, Nat.add_sub_cancel, List.take_left, List.reverse_reverse]
  rw [since, printed, List.reverse_append, List.reverse_reverse]

end Watched

/-- A calm audience, which others may join at any time, leaves a run undisturbed: after any calls of a host, everything
but the audience and what was printed is as it is with nobody to listen, the next call is answered the same, and what
was printed are the notices of those who listened at the time. -/
theorem undisturbed_by_audience (calls : List HostCall) (calm : first.IsCalm)
    (joining : ∀ call ∈ calls, ∀ observer ∈ call.joins?, observer.IsCalm) :
    let last := first.undergoAll calls
    let alone := first.unwatched.undergoAll (calls.filter fun call => call.joins?.isNone)
    last.unwatched = alone ∧
      (∀ call, last.reply call = alone.reply call) ∧
      last.printed.reverse = first.printed.reverse ++ first.transcript calls := by
  intro last alone
  suffices result : last.unwatched = alone ∧ last.IsCalm ∧
      last.printed.reverse = first.printed.reverse ++ first.transcript calls by
    obtain ⟨same, calm, printed⟩ := result
    exact ⟨same, fun call => same ▸ ((Watched.start calm).reply call).symm, printed⟩
  -- Each call starts from the audience that it finds, so the induction is over the calls, with the engine at large.
  induction calls generalizing first with
  | nil => exact ⟨rfl, calm, (List.append_nil _).symm⟩
  | cons call rest ih =>
    have later : ∀ call ∈ rest, ∀ observer ∈ call.joins?, observer.IsCalm :=
      fun call member => joining call (List.mem_cons_of_mem _ member)
    cases joins : call.joins? with
    | none =>
      have watched := (Watched.start calm).undergo joins
      obtain ⟨same, audience, printed⟩ := ih watched.calm later
      have kept : (call :: rest).filter (fun call => call.joins?.isNone) = call :: rest.filter _ :=
        List.filter_cons_of_pos (by rw [joins]; rfl)
      refine ⟨?_, audience, ?_⟩
      · rw [watched.bare] at same
        exact same.trans (congrArg (fun calls => first.unwatched.undergoAll calls) kept.symm)
      · rw [watched.printed_reverse, List.append_assoc] at printed
        exact printed
    | some observer =>
      obtain rfl := HostCall.eq_of_joins joins
      have audience : (first.observe observer).IsCalm := by
        intro other member
        rcases List.mem_append.mp member with listened | joined
        · exact calm other listened
        · rw [List.mem_singleton.mp joined]
          exact joining _ (List.mem_cons_self ..) observer rfl
      obtain ⟨same, audience, printed⟩ := ih audience later
      refine ⟨same, audience, ?_⟩
      · have silent : (first.undergo (.meddle (.observe observer))).reportedSince first = [] := by
          rw [reportedSince, undergo, Engine.meddle, observe, Nat.sub_self]
          rfl
        rw [transcript, silent]
        exact printed

/-- A console, and an observer that fails in two of its hooks; another that fails joins before the robot turns. -/
theorem undisturbed_by_failing_audience :
    let first : Engine :=
      { world := .ofBoard { size := 3, start := ⟨⟨0, 0⟩, .right, false⟩, goal := ⟨2, 0⟩, obstacles := [] }
        draws := .ofList [], observers := [.console "Engine" false, .faulty "Flaky" "boom" [.entered, .ended]]
        baseDelay := .int 0, callLimit := .ofInt 4 }
    let calls : List HostCall :=
      [.meddle (.begin [.turnLeft] [] (.int 1) (.bool true)), .advance,
        .meddle (.observe (.faulty "Late" "no" [.logged])), .advance]
    first.IsCalm ∧
      (∀ call ∈ calls, ∀ observer ∈ call.joins?, observer.IsCalm) ∧
      (first.undergoAll calls).unwatched =
        first.unwatched.undergoAll [.meddle (.begin [.turnLeft] [] (.int 1) (.bool true)), .advance, .advance] ∧
      first.transcript calls =
        ["[Engine] EXECUTING PROGRAM...",
          "[Engine] WARN observer Flaky.on_instruction_enter failed: boom",
          "[Engine] WARN observer Late.on_log failed: no",
          "[Engine] ERROR Program ended. Goal not reached.",
          "[Engine] WARN observer Late.on_log failed: no",
          "[Engine] Run finished: FAILURE GoalNotReached",
          "[Engine] WARN observer Flaky.on_run_end failed: boom"] := by
  intro first calls
  have calm : first.IsCalm := by
    rintro observer (_ | ⟨_, _ | ⟨_, ⟨⟩⟩⟩)
    · exact Observer.console_isCalm _ _
    · exact Observer.faulty_isCalm _ _ _
  have joining : ∀ call ∈ calls, ∀ observer ∈ call.joins?, observer.IsCalm := by
    intro call member observer joins
    obtain rfl := HostCall.eq_of_joins joins
    obtain rfl : observer = .faulty "Late" "no" [.logged] := by simpa [calls] using member
    exact Observer.faulty_isCalm _ _ _
  exact ⟨calm, joining, (undisturbed_by_audience calls calm joining).1, by decide +kernel⟩

/-! ### A calm audience never stops a run -/

theorem Deliberates.observers {e next : Engine} (quiet : e.Deliberates next) : next.observers = e.observers := by
  induction quiet with
  | start => rfl
  | log note _ ih => exact (observers_logAs _ _ _).trans ih
  | draw draws _ ih => exact ih

structure Unswayed (e next : Engine) : Prop where
  calm : e.IsCalm → next.IsCalm
  cancelled : e.IsCalm → next.cancelled = e.cancelled

namespace Unswayed

variable {e mid next : Engine}

theorem refl (e : Engine) : e.Unswayed e := ⟨id, fun _ => rfl⟩

theorem trans (first : e.Unswayed mid) (second : mid.Unswayed next) : e.Unswayed next where
  calm calm := second.calm (first.calm calm)
  cancelled calm := (second.cancelled (first.calm calm)).trans (first.cancelled calm)

theorem emit (event : Event) (e : Engine) : e.Unswayed (e.emit event) :=
  ⟨fun calm => calm.emit event, fun calm => calm.cancelled_emit event⟩

theorem of_same (observers : next.observers = e.observers) (cancelled : next.cancelled = e.cancelled) :
    e.Unswayed next where
  calm calm := by rwa [IsCalm, observers]
  cancelled _ := cancelled

theorem of_deliberates (quiet : e.Deliberates next) : e.Unswayed next := of_same quiet.observers quiet.cancelled

theorem finish (ending : Ending) (e : Engine) : e.Unswayed (e.finish ending) := by
  have same : e.Unswayed { e with phase := .completed ⟨ending, e.world, e.executed⟩ } := of_same rfl rfl
  exact same.trans (emit _ _)

theorem stop (halt : Halt) (e : Engine) : e.Unswayed (e.stop halt) :=
  (of_deliberates (log_deliberates halt.note e)).trans (finish halt.ending _)

theorem conclude (e : Engine) : e.Unswayed e.conclude := by
  unfold Engine.conclude
  split
  · exact (of_deliberates (log_deliberates .goalReached e)).trans (finish .success _)
  · exact (of_deliberates (log_deliberates .goalMissed e)).trans (finish .goalMissed _)

theorem abort (e : Engine) : e.Unswayed e.abort :=
  (of_deliberates (log_deliberates .aborted e)).trans (finish .aborted _)

theorem announce (node : Instruction) (e : Engine) : e.Unswayed (e.announce node) := by
  have counted : e.Unswayed { e with executed := e.executed + 1 } := of_same rfl rfl
  have entered := counted.trans (emit (.entered node) _)
  unfold Engine.announce
  dsimp only
  split
  · exact entered.trans (of_deliberates (log_deliberates _ _))
  · exact entered

theorem enter (node : Instruction) (frames : List Frame) (e : Engine) : e.Unswayed (e.enter node frames) := by
  rw [enter_eq]
  split
  · exact abort e
  · split
    · exact (announce node e).trans (stop _ _)
    · exact (announce node e).trans (of_same rfl rfl)

theorem proceed (frames : List Frame) (e : Engine) : e.Unswayed (e.proceed frames) := by
  obtain ⟨mid, quiet, ends | ⟨-, ends⟩ | ⟨halt, ends⟩ | ⟨node, after, ends⟩⟩ := proceed_cases e frames
  · exact ends ▸ (of_deliberates quiet).trans (conclude mid)
  · exact ends ▸ (of_deliberates quiet).trans (abort mid)
  · exact ends ▸ (of_deliberates quiet).trans (stop halt mid)
  · exact ends ▸ (of_deliberates quiet).trans (enter node after mid)

theorem perform {node : Instruction} {frames after : List Frame} (performed : e.perform node frames = .onward next after) :
    e.Unswayed next := by
  have changed (world : World) (note : Note) : e.Unswayed ({ e with world }.log note) := by
    have placed : e.Unswayed { e with world } := of_same rfl rfl
    exact placed.trans (of_deliberates (log_deliberates note _))
  obtain quiet | ⟨world, note, rfl⟩ | ⟨registers, note, rfl⟩ := perform_onward performed
  · exact of_deliberates quiet
  · exact (changed world note).trans (emit _ _)
  · exact (changed _ note).trans (emit _ _)

theorem advance (e : Engine) : e.Unswayed e.advance := by
  fun_cases Engine.advance e with
  | case1 frames phase => exact proceed frames e
  | case2 suspension frames phase cancelled => exact abort e
  | case3 suspension frames phase running next after performed => exact (perform performed).trans (proceed after next)
  | case4 suspension frames phase running last performed =>
    obtain ⟨mid, halt, quiet, rfl⟩ := perform_ended performed
    exact (of_deliberates quiet).trans (stop halt mid)
  | case5 phase | case6 result phase => exact refl e

end Unswayed

end Engine

end GridRobot
