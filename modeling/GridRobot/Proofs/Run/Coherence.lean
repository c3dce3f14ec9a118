import GridRobot.Proofs.Run.Calls
import GridRobot.Run.Machine

/-!
The machine of separate parts does what the engine does. `Shows` says that every part is what the phase of an engine
makes of it, and `Steps` says so of a machine that is in the middle of an `advance`. Each call of a host keeps the
machine showing the engine that undergoes the same call, so the parts of the machine agree with each other afterwards.
-/
namespace GridRobot

namespace Engine

def walk? (e : Engine) : Option Walk :=
  match e.phase with
  | .active pending frames => some ⟨pending.map Suspension.node, frames⟩
  | _ => none

variable {e : Engine}

theorem phase_of_active (active : e.isActive = true) : ∃ pending frames, e.phase = .active pending frames := by
  unfold isActive at active
  split at active
  · rename_i pending frames phase
    exact ⟨pending, frames, phase⟩
  · cases active

theorem isActive_iff_walk (e : Engine) : e.isActive = true ↔ e.walk?.isSome = true := by
  unfold isActive walk?
  cases e.phase with
  | idle | completed result => simp
  | active pending frames => simp

def verdict : Option HostError × List Suspension × Engine → Except HostError (List Suspension)
  | (some error, _, _) => .error error
  | (none, seen, last) => match last.fault? with
    | some fault => .error (.fault fault)
    | none => .ok seen

theorem run_verdict {first : Engine} {program : Body} {functions : FunctionTable} {speed interactive : Json}
    {actions : Option (List HostAction)} (heard : (interactive.isTruthy && actions.isNone) = false)
    (begun : e.begin program functions speed interactive = (first, .ok ())) :
    (e.run program functions speed interactive actions).2 =
      (verdict (first.driveFrom (actions.getD []) [])).map fun seen =>
        (seen, (first.driveFrom (actions.getD []) []).2.2.result?) := by
  rw [run_of_begun heard begun]
  rcases first.driveFrom (actions.getD []) [] with ⟨broken, seen, last⟩
  cases broken with
  | some error => rfl
  | none =>
    unfold verdict
    dsimp only
    cases last.fault? with
    | some fault => rfl
    | none => rfl

theorem walk?_of_over (inactive : e.isActive = false) : e.walk? = none := by
  unfold isActive at inactive
  unfold walk?
  cases phase : e.phase with
  | idle | completed result => rfl
  | active pending frames =>
    rw [phase] at inactive
    cases inactive

end Engine

namespace Machine

def meddle (m : Machine) : Meddling → Machine
  | .interactive value => m.setInteractive value
  | .register name value => match m.world.registers.write name value with
    | .error _ => m
    | .ok registers => m.putWorld { m.world with registers }
  | .cancel => m.cancel
  | .begin program functions speed interactive => (m.begin program functions speed interactive).1
  | .setWorld world => match m.setWorld world with
    | .error _ => m
    | .ok next => next
  | .observe observer => m.observe observer
  | .log content severity => m.logAs (.message content) severity

def undergo (m : Machine) : HostCall → Option Machine
  | .advance => some m.advance.1
  | .meddle meddling => some (m.meddle meddling)
  | .run program functions speed interactive actions => (m.run program functions speed interactive actions).map Prod.fst

def accepts (m : Machine) : HostCall → Bool
  | .meddle (.begin program functions speed interactive) => (m.begin program functions speed interactive).2.isOk
  | .run program functions speed interactive actions =>
    !(interactive.isTruthy && actions.isNone) && (m.begin program functions speed interactive).2.isOk
  | _ => false

/-- What some calls leave, with the number of instructions that had been entered when a run was last begun among them,
if `count` had been when one was last begun before. -/
def undergoAll (count : Nat) (m : Machine) : List HostCall → Option (Nat × Machine)
  | [] => some (count, m)
  | call :: rest =>
    (m.undergo call).bind fun next => next.undergoAll (if m.accepts call then m.entered.length else count) rest

variable {m : Machine} {e : Engine} {frames : List Frame}

def asEngine (phase : Phase) (m : Machine) : Engine where
  world := m.world
  draws := m.draws
  observers := m.observers
  baseDelay := m.baseDelay
  callLimit := .ofJson m.maxCallDepth
  interactive := m.interactive
  speed := m.speed
  cancelled := m.cancelled
  functions := m.functions
  executed := m.executed
  phase := phase
  events := m.events
  printed := m.printed

/-- The machine has what the engine has besides its phase, tests conditions against the engine's world, and limits its calls by
an integer. -/
structure Resembles (m : Machine) (e : Engine) : Prop where
  parts : m.asEngine e.phase = e
  tested : m.tested = m.own
  limited : ∃ given : Int, m.maxCallDepth = .int given

/-- Between two calls of its host. -/
structure Shows (m : Machine) (e : Engine) : Prop extends m.Resembles e where
  state : m.state = e.state
  pending : m.pending = e.pending?
  result : m.result = e.result?
  runner : m.runner = e.walk?
  callDepth : m.callDepth = e.callDepth

/-- In the middle of an `advance`, with these frames left. -/
structure Steps (frames : List Frame) (m : Machine) (e : Engine) : Prop extends m.Resembles e where
  state : m.state = .running
  pending : m.pending = none
  result : m.result = none
  callDepth : m.callDepth = Frame.callDepth frames

structure Ends (m : Machine) (e : Engine) : Prop extends m.Resembles e where
  inactive : e.isActive = false
  state : m.state = e.state
  pending : m.pending = none
  result : m.result = e.result?
  callDepth : m.callDepth = 0

/-- What the walk comes to is what the engine comes to. -/
inductive Lands : Turn → Engine → Prop
  | suspended {s : Suspension} {frames : List Frame} {m : Machine} {e : Engine} :
      Steps frames m e → Lands (.suspended s ⟨some s.node, frames⟩ m) { e with phase := .active (some s) frames }
  | stopped {m : Machine} {e : Engine} : m.Ends e → e.fault? = none → Lands (.stopped m) e
  | raised {fault : RunFault} {m : Machine} {e : Engine} :
      m.Ends e → e.fault? = some fault → Lands (.raised fault m) e

structure Keeps (m next : Machine) : Prop where
  state : next.state = m.state
  pending : next.pending = m.pending
  result : next.result = m.result
  runner : next.runner = m.runner
  callDepth : next.callDepth = m.callDepth

inductive Follows (frames : List Frame) : Progress → Engine.Progress → Prop
  | onward {after : List Frame} {m : Machine} {e : Engine} :
      Steps after m e → Follows frames (.onward m after) (.onward e after)
  | left {halt : Halt} {m : Machine} {e : Engine} :
      Steps frames m e → Follows frames (.left (.halted halt) m) (.ended (e.stop halt))

namespace Resembles

theorem world (same : m.Resembles e) : m.world = e.world := congrArg Engine.world same.parts

theorem cancelled (same : m.Resembles e) : m.cancelled = e.cancelled := congrArg Engine.cancelled same.parts

theorem delay (same : m.Resembles e) : m.delay = e.delay := congrArg Engine.delay same.parts

theorem isInteractive (same : m.Resembles e) : m.isInteractive = e.isInteractive :=
  congrArg Engine.isInteractive same.parts

theorem functions (same : m.Resembles e) : m.functions = e.functions := congrArg Engine.functions same.parts

theorem executed (same : m.Resembles e) : m.executed = e.executed := congrArg Engine.executed same.parts

theorem draws (same : m.Resembles e) : m.draws = e.draws := congrArg Engine.draws same.parts

theorem emit (same : m.Resembles e) (event : Event) : (m.emit event).Resembles (e.emit event) where
  parts := congrArg (Engine.emit event) same.parts
  tested := same.tested
  limited := same.limited

theorem log (same : m.Resembles e) (note : Note) : (m.log note).Resembles (e.log note) := same.emit _

theorem putWorld (same : m.Resembles e) (world : World) : (m.putWorld world).Resembles { e with world } where
  parts := by
    have put : (m.putWorld world).world = world := if_pos rfl
    have parts := congrArg (fun e : Engine => { e with world }) same.parts
    rw [← parts]
    unfold asEngine
    rw [put]
    rfl
  tested := same.tested
  limited := same.limited

end Resembles

namespace Steps

variable {after : List Frame}

theorem emit (steps : Steps frames m e) (event : Event) : Steps frames (m.emit event) (e.emit event) where
  toResembles := steps.toResembles.emit event
  state := steps.state
  pending := steps.pending
  result := steps.result
  callDepth := steps.callDepth

theorem log (steps : Steps frames m e) (note : Note) : Steps frames (m.log note) (e.log note) := steps.emit _

theorem logAll (steps : Steps frames m e) (notes : List Note) : Steps frames (m.logAll notes) (e.logAll notes) := by
  induction notes generalizing m e with
  | nil => exact steps
  | cons note rest ih => exact ih (steps.log note)

theorem putWorld (steps : Steps frames m e) (world : World) : Steps frames (m.putWorld world) { e with world } where
  toResembles := steps.toResembles.putWorld world
  state := steps.state
  pending := steps.pending
  result := steps.result
  callDepth := steps.callDepth

theorem onto (steps : Steps frames m e) (depth : Frame.callDepth after = Frame.callDepth frames) : Steps after m e where
  toResembles := steps.toResembles
  state := steps.state
  pending := steps.pending
  result := steps.result
  callDepth := by rw [steps.callDepth, depth]

theorem showWorld (steps : Steps frames m e) : Steps frames m.showWorld e.showWorld := by
  unfold Machine.showWorld Engine.showWorld
  rw [steps.world]
  exact steps.emit _

theorem showRegisters (steps : Steps frames m e) : Steps frames m.showRegisters e.showRegisters := by
  unfold Machine.showRegisters Engine.showRegisters
  rw [steps.world]
  exact steps.emit _

theorem write (steps : Steps frames m e) (r : Register) (value : Int) : Steps frames (m.write r value) (e.write r value) := by
  unfold Machine.write Engine.write
  rw [steps.world]
  exact steps.putWorld _

theorem announceLoop (steps : Steps frames m e) (condition : Condition) :
    Steps frames (m.announceLoop condition) (e.announceLoop condition) := by
  cases condition with
  | sensor sensor => cases sensor with
    | always => exact steps.log _
    | _ => exact steps
  | _ => exact steps

theorem returns {name : Json} {outer : List Frame} (steps : Steps (.calling name :: outer) m e) :
    Steps outer { m with callDepth := m.callDepth - 1 } e where
  parts := steps.parts
  tested := steps.tested
  limited := steps.limited
  state := steps.state
  pending := steps.pending
  result := steps.result
  callDepth := by
    have deeper : Frame.callDepth (.calling name :: outer) = Frame.callDepth outer + 1 := List.countP_cons_of_pos rfl
    have counted := steps.callDepth
    dsimp only
    omega

theorem calls {name : Json} (steps : Steps frames m e) (body : Body) :
    Steps (.block body :: .calling name :: frames) { m with callDepth := m.callDepth + 1 } e where
  parts := steps.parts
  tested := steps.tested
  limited := steps.limited
  state := steps.state
  pending := steps.pending
  result := steps.result
  callDepth := by
    have deeper : Frame.callDepth (.calling name :: frames) = Frame.callDepth frames + 1 := List.countP_cons_of_pos rfl
    have body : Frame.callDepth (.block body :: .calling name :: frames) = Frame.callDepth (.calling name :: frames) := rfl
    have counted := steps.callDepth
    dsimp only
    omega

theorem test {next : Machine} {value : Except RunFault Bool} (steps : Steps frames m e) {condition : Condition}
    (tested : m.test condition = (next, value)) : ∃ after, e.test condition = (after, value) ∧ Steps frames next after := by
  have world : m.worlds m.tested = e.world := (congrArg m.worlds steps.tested).trans steps.world
  unfold Machine.test at tested
  rw [world, steps.draws] at tested
  rcases Prod.mk.inj tested with ⟨rfl, rfl⟩
  have drawn : Steps frames { m with draws := (condition.evaluate e.world e.draws).draws }
      { e with draws := (condition.evaluate e.world e.draws).draws } :=
    { steps with
      parts := congrArg (fun engine : Engine => { engine with draws := (condition.evaluate e.world e.draws).draws })
        steps.parts }
  exact ⟨_, rfl, drawn.logAll _⟩

theorem finish (steps : Steps [] m e) (ending : Ending) : (m.finish ending).Ends (e.finish ending) where
  parts := by
    have parts := congrArg (Engine.finish ending) steps.parts
    rw [← parts]
    rfl
  tested := steps.tested
  limited := steps.limited
  inactive := rfl
  state := rfl
  pending := rfl
  result := by
    show some (RunResult.mk ending m.world m.executed) = some ⟨ending, e.world, e.executed⟩
    rw [steps.world, steps.executed]
  callDepth := steps.callDepth

/-- On the way out all calls are left. -/
theorem unwind (steps : Steps frames m e) : Steps [] (m.unwind frames) e := by
  induction frames generalizing m with
  | nil => exact steps
  | cons frame outer ih =>
    cases frame with
    | calling name => exact ih steps.returns
    | block rest => exact ih (steps.onto rfl)
    | repeating loop done body => exact ih (steps.onto rfl)
    | looping condition body done => exact ih (steps.onto rfl)

theorem abort (steps : Steps frames m e) : Lands (m.leave .cancelled frames) e.abort :=
  .stopped ((steps.unwind.log .aborted).finish .aborted) rfl

theorem stop (steps : Steps frames m e) (halt : Halt) : Lands (m.leave (.halted halt) frames) (e.stop halt) := by
  cases halt with
  | failure failure => exact .stopped ((steps.unwind.log _).finish _) rfl
  | fault fault => exact .raised ((steps.unwind.log _).finish _) rfl

theorem conclude (steps : Steps [] m e) : Lands m.conclude e.conclude := by
  unfold Machine.conclude Engine.conclude
  rw [steps.world]
  split
  · exact .stopped ((steps.log _).finish _) rfl
  · exact .stopped ((steps.log _).finish _) rfl

theorem announce (steps : Steps frames m e) (node : Instruction) : Steps frames (m.announce node) (e.announce node) := by
  have counted : Steps frames { m with executed := m.executed + 1 } { e with executed := e.executed + 1 } := by
    rw [← steps.executed]
    exact { steps with
      parts := congrArg (fun engine : Engine => { engine with executed := m.executed + 1 }) steps.parts }
  have entered := counted.emit (.entered node)
  unfold Machine.announce Engine.announce
  dsimp only
  rw [entered.isInteractive]
  split
  · exact entered.log _
  · exact entered

theorem enter (steps : Steps frames m e) (node : Instruction) : Lands (m.enter node frames) (e.enter node frames) := by
  have announced := steps.announce node
  have interactive : (m.announce node).interactive = (e.announce node).interactive :=
    congrArg Engine.interactive announced.parts
  rw [Engine.enter_eq]
  unfold Machine.enter
  rw [steps.cancelled]
  split
  · exact steps.abort
  · dsimp only
    rw [announced.delay, announced.executed, interactive]
    cases (e.announce node).delay with
    | error fault => exact announced.stop _
    | ok delay => exact .suspended announced

theorem proceed (steps : Steps frames m e) : Lands (m.proceed frames) (e.proceed frames) := by
  -- Every branch is chosen by what the machine and the engine have in common.
  fun_induction Machine.proceed m frames generalizing e with
  | case1 m =>
    rw [Engine.proceed]
    exact steps.conclude
  | case2 m outer ih =>
    rw [Engine.proceed]
    exact ih (steps.onto rfl)
  | case3 m node rest outer =>
    rw [Engine.proceed]
    have left : Steps (.block rest :: outer) m e := steps.onto rfl
    exact left.enter node
  | case4 m name outer ih =>
    rw [Engine.proceed]
    exact ih (steps.returns.log _)
  | case5 m loop done body outer more cancelled =>
    rw [Engine.proceed, if_pos more, if_pos (steps.cancelled ▸ cancelled)]
    exact steps.abort
  | case6 m loop done body outer more running ih =>
    rw [Engine.proceed, if_pos more, if_neg (steps.cancelled ▸ running)]
    exact ih ((steps.log _).onto rfl)
  | case7 m loop done body outer finished ih =>
    rw [Engine.proceed, if_neg finished]
    exact ih (steps.onto rfl)
  | case8 m condition body done outer cancelled =>
    rw [Engine.proceed, if_pos (steps.cancelled ▸ cancelled)]
    exact steps.abort
  | case9 m condition body done outer running next fault tested =>
    rcases steps.test tested with ⟨after, same, stepped⟩
    rw [Engine.proceed, if_neg (steps.cancelled ▸ running), same]
    exact stepped.stop _
  | case10 m condition body done outer running next more tested ih =>
    rcases steps.test tested with ⟨after, same, stepped⟩
    rw [Engine.proceed, if_neg (steps.cancelled ▸ running), same]
    dsimp only
    rw [if_pos more, if_pos rfl]
    exact ih ((stepped.log _).onto rfl)
  | case11 m condition body done outer running next value tested more low ih =>
    rcases steps.test tested with ⟨after, same, stepped⟩
    rw [Engine.proceed, if_neg (steps.cancelled ▸ running), same]
    dsimp only
    rw [if_pos more, if_neg low]
    exact ih (stepped.onto rfl)
  | case12 m condition body done outer running next value tested spent =>
    rcases steps.test tested with ⟨after, same, stepped⟩
    rw [Engine.proceed, if_neg (steps.cancelled ▸ running), same]
    dsimp only
    rw [if_neg spent]
    exact stepped.stop _

/-- The count of active calls reaches the limit just when the frames do, and no limit that is an integer stops a run
otherwise. -/
theorem limit (steps : Steps frames m e) (name : Json) :
    Relation.atLeast.check (.int m.callDepth) m.maxCallDepth =
        .ok (decide (e.callLimit.depth ≤ Frame.callDepth frames)) ∧
      e.callLimit.halt name = .failure (.callDepth name.text m.maxCallDepth.text) := by
  rcases steps.limited with ⟨given, limited⟩
  have same : e.callLimit = .ofInt given := by
    have parts : CallLimit.ofJson m.maxCallDepth = e.callLimit := congrArg Engine.callLimit steps.parts
    rw [← parts, limited]
    rfl
  rw [same, limited, steps.callDepth, Relation.check_int, CallLimit.depth_ofInt]
  constructor
  · have reached : given ≤ (Frame.callDepth frames : Int) ↔ given.toNat ≤ Frame.callDepth frames := Int.toNat_le.symm
    exact congrArg Except.ok (decide_eq_decide.mpr reached)
  · rfl

theorem perform (steps : Steps frames m e) (node : Instruction) :
    Follows frames (m.perform node frames) (e.perform node frames) := by
  fun_cases Machine.perform node frames m with
  | case1 collision blocked =>
    rw [steps.world] at blocked
    simp only [Engine.perform, blocked]
    exact .left (steps.log _)
  | case2 world free =>
    rw [steps.world] at free
    simp only [Engine.perform, free]
    exact .onward ((steps.putWorld world).log _).showWorld
  | case3 =>
    rw [steps.world]
    exact .onward ((steps.putWorld _).log _).showWorld
  | case4 =>
    rw [steps.world]
    exact .onward ((steps.putWorld _).log _).showWorld
  | case5 r value fault unread =>
    simp only [Engine.perform, unread]
    exact .left steps
  | case6 r value n read =>
    simp only [Engine.perform, read]
    exact .onward ((steps.write r n).log _).showRegisters
  | case7 r value =>
    have same : value = e.world.registers.get r + 1 := by rw [← steps.world]
    rw [same]
    exact .onward ((steps.write r _).log _).showRegisters
  | case8 r value =>
    have same : value = e.world.registers.get r - 1 := by rw [← steps.world]
    rw [same]
    exact .onward ((steps.write r _).log _).showRegisters
  | case9 count body fault unsaid =>
    simp only [Engine.perform, unsaid]
    exact .left steps
  | case10 count body shown said fault unfit =>
    simp only [Engine.perform, said, unfit]
    exact .left (steps.log _)
  | case11 count body shown said loop rounds =>
    simp only [Engine.perform, said, rounds]
    exact .onward ((steps.log _).onto rfl)
  | case12 condition body next fault tested =>
    rcases steps.test tested with ⟨after, same, stepped⟩
    simp only [Engine.perform, same]
    exact .left stepped
  | case13 condition body next value tested =>
    rcases steps.test tested with ⟨after, same, stepped⟩
    simp only [Engine.perform, same]
    cases value with
    | true => exact .onward ((stepped.log _).onto rfl)
    | false => exact .onward (stepped.log _)
  | case14 condition thenBody elseBody next fault tested =>
    rcases steps.test tested with ⟨after, same, stepped⟩
    simp only [Engine.perform, same]
    exact .left stepped
  | case15 condition thenBody elseBody next value tested =>
    rcases steps.test tested with ⟨after, same, stepped⟩
    simp only [Engine.perform, same]
    exact .onward (((stepped.log _).log _).onto rfl)
  | case16 condition body => exact .onward ((steps.announceLoop condition).onto rfl)
  | case17 name fault unusable =>
    rw [steps.functions] at unusable
    simp only [Engine.perform, unusable]
    exact .left steps
  | case18 name missing =>
    rw [steps.functions] at missing
    simp only [Engine.perform, missing]
    exact .onward (steps.log _)
  | case19 name body found fault unordered =>
    -- A limit that is an integer can be compared with the depth.
    rw [(steps.limit name).1] at unordered
    cases unordered
  | case20 name body found full =>
    rw [steps.functions] at found
    rw [(steps.limit name).1] at full
    simp only [Engine.perform, found, of_decide_eq_true (Except.ok.inj full), if_true]
    rw [(steps.limit name).2]
    exact .left steps
  | case21 name body found room next =>
    rw [steps.functions] at found
    rw [(steps.limit name).1] at room
    simp only [Engine.perform, found, of_decide_eq_false (Except.ok.inj room), if_false]
    exact .onward ((steps.log _).calls body)
  | case22 name body => exact .onward (steps.log _)
  | case23 kind fields => exact .onward (steps.log _)
  | case24 => exact .onward (steps.log _)

theorem next {pending : Option Suspension} (steps : Steps frames m e) (phase : e.phase = .active pending frames) :
    Lands (m.next ⟨pending.map Suspension.node, frames⟩) e.advance := by
  unfold Machine.next Engine.advance
  rw [phase]
  cases pending with
  | none => exact steps.proceed
  | some s =>
    dsimp only [Option.map_some]
    rw [steps.cancelled]
    split
    · exact steps.abort
    · have follows := steps.perform s.node
      revert follows
      generalize m.perform s.node frames = progress
      generalize e.perform s.node frames = reached
      intro follows
      cases follows with
      | onward after => exact after.proceed
      | left left => exact left.stop _

end Steps

namespace Shows

theorem steps {pending : Option Suspension} (shows : m.Shows e) (phase : e.phase = .active pending frames) :
    Steps frames { m with pending := none, state := .running } e where
  parts := shows.parts
  tested := shows.tested
  limited := shows.limited
  state := rfl
  pending := rfl
  result := by
    have none : e.result? = none := by simp [Engine.result?, phase]
    exact shows.result.trans none
  callDepth := by
    have same := shows.callDepth
    rw [Engine.callDepth_of_phase phase] at same
    exact same

theorem of_suspended {s : Suspension} (steps : Steps frames m e) :
    Shows
      (let m := { m with runner := some ⟨some s.node, frames⟩, pending := some s }
       if s.isInteractive then { m with state := .paused } else m)
      { e with phase := .active (some s) frames } := by
  have callDepth : m.callDepth = Engine.callDepth { e with phase := .active (some s) frames } := steps.callDepth
  dsimp only
  cases stepped : s.isInteractive with
  | true =>
    rw [if_pos rfl]
    exact ⟨⟨congrArg (fun engine : Engine => { engine with phase := .active (some s) frames }) steps.parts,
      steps.tested, steps.limited⟩, by simp [Engine.state, stepped], rfl, steps.result, rfl, callDepth⟩
  | false =>
    rw [if_neg Bool.false_ne_true]
    exact ⟨⟨congrArg (fun engine : Engine => { engine with phase := .active (some s) frames }) steps.parts,
      steps.tested, steps.limited⟩, by simp [Engine.state, stepped, steps.state], rfl, steps.result, rfl, callDepth⟩

theorem of_ends (ends : m.Ends e) : Shows { m with runner := none } e where
  parts := ends.parts
  tested := ends.tested
  limited := ends.limited
  state := ends.state
  pending := ends.pending.trans (Engine.pending?_of_over ends.inactive).symm
  result := ends.result
  runner := (Engine.walk?_of_over ends.inactive).symm
  callDepth := by rw [ends.callDepth, Engine.callDepth_of_over ends.inactive]; rfl

theorem settle {turn : Turn} (lands : Lands turn e) :
    (Machine.settle turn).1.Shows e ∧
      (Machine.settle turn).2 = (match e.fault? with
        | some fault => .error fault
        | none => .ok e.pending?) := by
  cases lands with
  | suspended steps => exact ⟨of_suspended steps, rfl⟩
  | stopped ends sound =>
    rw [sound]
    exact ⟨of_ends ends, congrArg Except.ok (Engine.pending?_of_over ends.inactive).symm⟩
  | raised ends broken =>
    rw [broken]
    exact ⟨of_ends ends, rfl⟩

theorem advance_of_over (shows : m.Shows e) (inactive : e.isActive = false) : m.advance = (m, .ok none) := by
  have rests : m.runner = none := shows.runner.trans (Engine.walk?_of_over inactive)
  unfold Machine.advance
  rw [rests]

/-- An `advance` of the machine answers what the engine answers. -/
theorem advance (shows : m.Shows e) : m.advance.1.Shows e.resume.1 ∧ m.advance.2 = e.resume.2 := by
  cases active : e.isActive with
  | false =>
    rw [Engine.resume_of_over active, shows.advance_of_over active]
    exact ⟨shows, rfl⟩
  | true =>
    rcases Engine.phase_of_active active with ⟨pending, frames, phase⟩
    have walk : m.runner = some ⟨pending.map Suspension.node, frames⟩ := by
      rw [shows.runner]
      simp [Engine.walk?, phase]
    have settled := settle ((shows.steps phase).next phase)
    have advanced : m.advance = Machine.settle
        ({ m with pending := none, state := .running }.next ⟨pending.map Suspension.node, frames⟩) := by
      unfold Machine.advance
      rw [walk]
    rw [advanced, Engine.resume, if_pos active]
    dsimp only
    cases broken : e.advance.fault? with
    | none => exact ⟨settled.1, settled.2.trans (by rw [broken])⟩
    | some fault => exact ⟨settled.1, settled.2.trans (by rw [broken])⟩

theorem isActive (shows : m.Shows e) : m.isActive = e.isActive := by
  unfold Machine.isActive Engine.isActive
  rw [shows.state]
  unfold Engine.state
  cases e.phase with
  | idle | completed result => rfl
  | active pending frames =>
    cases pending with
    | none => rfl
    | some s =>
      dsimp only
      split
      · rfl
      · rfl

theorem of_keeps {next : Machine} {after : Engine} (shows : m.Shows e) (keeps : m.Keeps next)
    (phase : after.phase = e.phase) (same : next.Resembles after) : next.Shows after where
  toResembles := same
  state := by
    rw [keeps.state, shows.state]
    unfold Engine.state
    rw [phase]
  pending := by
    rw [keeps.pending, shows.pending]
    unfold Engine.pending?
    rw [phase]
  result := by
    rw [keeps.result, shows.result]
    unfold Engine.result?
    rw [phase]
  runner := by
    rw [keeps.runner, shows.runner]
    unfold Engine.walk?
    rw [phase]
  callDepth := by
    rw [keeps.callDepth, shows.callDepth]
    unfold Engine.callDepth Engine.left?
    rw [phase]

theorem emit (shows : m.Shows e) (event : Event) : (m.emit event).Shows (e.emit event) :=
  shows.of_keeps ⟨rfl, rfl, rfl, rfl, rfl⟩ rfl (shows.toResembles.emit event)

theorem begin (shows : m.Shows e) (program : Body) (functions : FunctionTable) (speed interactive : Json) :
    (m.begin program functions speed interactive).1.Shows (e.begin program functions speed interactive).1 ∧
      (m.begin program functions speed interactive).2 = (e.begin program functions speed interactive).2 := by
  unfold Machine.begin Engine.begin
  rw [shows.isActive]
  split
  · exact ⟨shows.emit _, rfl⟩
  · cases Relation.atMost.check speed (.int 0) with
    | error fault => exact ⟨shows, rfl⟩
    | ok low =>
      cases low with
      | true => exact ⟨shows, rfl⟩
      | false =>
        constructor
        · apply emit
          exact ⟨⟨congrArg (fun engine : Engine => { engine with
            speed, interactive, cancelled := false, functions, executed := 0, phase := .active none [.block program] })
              shows.parts, shows.tested, shows.limited⟩, rfl, rfl, rfl, rfl, rfl⟩
        · rfl

theorem setInteractive (shows : m.Shows e) (value : Json) : (m.setInteractive value).Shows (e.setInteractive value) :=
  shows.of_keeps ⟨rfl, rfl, rfl, rfl, rfl⟩ rfl
    ⟨congrArg (Engine.setInteractive value) shows.parts, shows.tested, shows.limited⟩

theorem cancel (shows : m.Shows e) : m.cancel.Shows e.cancel :=
  shows.of_keeps ⟨rfl, rfl, rfl, rfl, rfl⟩ rfl ⟨congrArg Engine.cancel shows.parts, shows.tested, shows.limited⟩

theorem observe (shows : m.Shows e) (observer : Observer) : (m.observe observer).Shows (e.observe observer) :=
  shows.of_keeps ⟨rfl, rfl, rfl, rfl, rfl⟩ rfl
    ⟨congrArg (Engine.observe observer) shows.parts, shows.tested, shows.limited⟩

theorem setWorld (shows : m.Shows e) (world : World) :
    (∃ error, m.setWorld world = .error error ∧ e.setWorld world = .error error) ∨
      ∃ next after, m.setWorld world = .ok next ∧ e.setWorld world = .ok after ∧ next.Shows after := by
  unfold Machine.setWorld Engine.setWorld
  rw [shows.isActive]
  by_cases active : e.isActive = true
  · rw [if_pos active, if_pos active]
    exact .inl ⟨_, rfl, rfl⟩
  · rw [if_neg active, if_neg active]
    refine .inr ⟨_, _, rfl, rfl, ?_⟩
    refine shows.of_keeps ⟨rfl, rfl, rfl, rfl, rfl⟩ rfl ?_
    constructor
    · have parts := congrArg (fun engine : Engine => { engine with world }) shows.parts
      rw [← parts]
      unfold asEngine Machine.world
      dsimp only
      rw [if_pos rfl]
    · rfl
    · exact shows.limited

theorem apply (shows : m.Shows e) (action : HostAction) : (m.apply action).Shows (e.apply action) := by
  cases action with
  | step | fail => exact shows
  | «continue» => exact shows.setInteractive _
  | cancel => exact shows.cancel

theorem sleep (shows : m.Shows e) (seconds : Json) : m.sleep seconds = e.sleep seconds :=
  congrArg (fun cancelled => Engine.sleep seconds { e with cancelled }) shows.cancelled

theorem meddle (shows : m.Shows e) (meddling : Meddling) : (m.meddle meddling).Shows (e.meddle meddling) := by
  cases meddling with
  | interactive value => exact shows.setInteractive value
  | register name value =>
    unfold Machine.meddle Engine.meddle
    dsimp only
    rw [shows.world]
    cases e.world.registers.write name value with
    | error fault => exact shows
    | ok registers => exact shows.of_keeps ⟨rfl, rfl, rfl, rfl, rfl⟩ rfl (shows.toResembles.putWorld _)
  | cancel => exact shows.cancel
  | begin program functions speed interactive => exact (shows.begin program functions speed interactive).1
  | setWorld world =>
    unfold Machine.meddle Engine.meddle
    dsimp only
    rcases shows.setWorld world with ⟨error, left, right⟩ | ⟨next, after, left, right, taken⟩
    · rw [left, right]
      exact shows
    · rw [left, right]
      exact taken
  | observe observer => exact shows.observe observer
  | log content severity => exact shows.emit _

theorem suspends {s : Suspension} (shows : m.Shows e) (pending : e.advance.pending? = some s) :
    ∃ next, m.advance = (next, .ok (some s)) ∧ next.Shows e.advance := by
  have advanced := shows.advance
  rw [Engine.resume_engine, Engine.resume_of_pending pending] at advanced
  exact ⟨m.advance.1, Prod.ext rfl advanced.2, advanced.1⟩

/-- Driving the machine comes to an end, where driving the engine does. -/
theorem drive (shows : m.Shows e) (active : e.isActive = true) (actions : List HostAction) (seen : List Suspension) :
    ∃ next, m.drive actions seen = some (next, Engine.verdict (e.driveFrom actions seen)) ∧
      next.Shows (e.driveFrom actions seen).2.2 := by
  fun_induction Engine.driveFrom actions seen e generalizing m with
  | case1 actions seen e ended =>
    have advanced := shows.advance
    rw [Engine.resume_engine] at advanced
    refine ⟨m.advance.1, ?_, advanced.1⟩
    rw [drive_eq, round, show m.advance = (m.advance.1, e.resume.2) from Prod.ext rfl advanced.2]
    rw [Engine.resume_of_ended active ended]
    unfold Engine.verdict
    dsimp only
    cases e.advance.fault? with
    | some fault => rfl
    | none => rfl
  | case2 seen e s pending interactive ih =>
    rcases shows.suspends pending with ⟨next, advanced, after⟩
    rcases ih after (Engine.isActive_of_pending pending) with ⟨last, driven, shown⟩
    refine ⟨last, ?_, shown⟩
    rw [drive_eq, round, advanced]
    dsimp only
    rw [if_pos interactive]
    exact driven
  | case3 seen e s pending interactive rest =>
    rcases shows.suspends pending with ⟨next, advanced, after⟩
    refine ⟨next, ?_, after⟩
    rw [drive_eq, round, advanced]
    dsimp only
    rw [if_pos interactive]
    rfl
  | case4 seen e s pending interactive action rest goes ih =>
    rcases shows.suspends pending with ⟨next, advanced, after⟩
    have goesOn : (e.advance.apply action).isActive = true := by
      cases action <;> exact Engine.isActive_of_pending pending
    rcases ih (after.apply action) goesOn with ⟨last, driven, shown⟩
    refine ⟨last, ?_, shown⟩
    rw [drive_eq, round, advanced]
    dsimp only
    rw [if_pos interactive]
    cases action with
    | fail => exact (goes rfl).elim
    | step | «continue» | cancel => exact driven
  | case5 actions seen e s pending alone fault stuck =>
    rcases shows.suspends pending with ⟨next, advanced, after⟩
    -- What cannot be waited out is too long, so it is positive, and the machine comes to wait for it.
    have positive : s.delay.isPositive = true := Pause.isPositive_of_isTooLong (Engine.sleep_error stuck).2
    refine ⟨next, ?_, after⟩
    rw [drive_eq, round, advanced]
    dsimp only
    rw [if_neg alone, if_pos positive, after.sleep, stuck]
    rfl
  | case6 actions seen e s pending alone cancelled waited ih =>
    rcases shows.suspends pending with ⟨next, advanced, after⟩
    rcases ih after (Engine.isActive_of_pending pending) with ⟨last, driven, shown⟩
    refine ⟨last, ?_, shown⟩
    rw [drive_eq, round, advanced]
    dsimp only
    rw [if_neg alone, after.sleep, waited]
    -- The machine passes over a delay that is not positive; the engine waits for it, which takes no time.
    by_cases positive : s.delay.isPositive = true
    · rw [if_pos positive]
      exact driven
    · rw [if_neg positive]
      exact driven

theorem run (shows : m.Shows e) (program : Body) (functions : FunctionTable) (speed interactive : Json)
    (actions : Option (List HostAction)) :
    ∃ next, m.run program functions speed interactive actions =
        some (next, (e.run program functions speed interactive actions).2) ∧
      next.Shows (e.run program functions speed interactive actions).1 := by
  unfold Machine.run
  by_cases unheard : (interactive.isTruthy && actions.isNone) = true
  · rw [if_pos unheard, Engine.run, if_pos unheard]
    exact ⟨m, rfl, shows⟩
  · have heard : (interactive.isTruthy && actions.isNone) = false := Bool.eq_false_iff.mpr unheard
    have started := shows.begin program functions speed interactive
    rw [if_neg unheard, show m.begin program functions speed interactive =
      ((m.begin program functions speed interactive).1, (e.begin program functions speed interactive).2) from
        Prod.ext rfl started.2]
    cases begun : e.begin program functions speed interactive with
    | mk first answer =>
      rw [begun] at started
      cases answer with
      | error error =>
        rw [Engine.run, if_neg unheard, begun]
        exact ⟨_, rfl, started.1⟩
      | ok done =>
        have active : first.isActive = true := by
          rw [Engine.armed_of_begin begun]
          rfl
        rcases started.1.drive active (actions.getD []) [] with ⟨last, driven, after⟩
        refine ⟨last, ?_, ?_⟩
        · dsimp only
          rw [driven, Engine.run_verdict heard begun, ← after.result]
          rfl
        · rw [Engine.run_engine heard begun]
          exact after

theorem undergo (shows : m.Shows e) (call : HostCall) :
    ∃ next, m.undergo call = some next ∧ next.Shows (e.undergo call) := by
  cases call with
  | advance => exact ⟨_, rfl, shows.advance.1⟩
  | meddle meddling => exact ⟨_, rfl, shows.meddle meddling⟩
  | run program functions speed interactive actions =>
    rcases shows.run program functions speed interactive actions with ⟨next, ran, after⟩
    refine ⟨next, ?_, after⟩
    rw [Machine.undergo, ran]
    rfl

theorem accepts (shows : m.Shows e) (call : HostCall) : m.accepts call = e.accepts call := by
  cases call with
  | advance => rfl
  | meddle meddling =>
    cases meddling with
    | begin program functions speed interactive =>
      unfold Machine.accepts Engine.accepts Engine.begins
      dsimp only
      rw [(shows.begin program functions speed interactive).2]
    | _ => rfl
  | run program functions speed interactive actions =>
    unfold Machine.accepts Engine.accepts Engine.begins
    dsimp only
    rw [(shows.begin program functions speed interactive).2]

theorem entered (shows : m.Shows e) : m.entered = e.entered := congrArg Engine.entered shows.parts

theorem undergoAll (shows : m.Shows e) (count : Nat) (calls : List HostCall) :
    ∃ last, m.undergoAll count calls = some (e.enteredBefore count calls, last) ∧ last.Shows (e.undergoAll calls) := by
  induction calls generalizing m e count with
  | nil => exact ⟨m, rfl, shows⟩
  | cons call rest ih =>
    rcases shows.undergo call with ⟨next, undergone, after⟩
    rcases ih after (if e.accepts call then e.entered.length else count) with ⟨last, reached, shown⟩
    refine ⟨last, ?_, shown⟩
    rw [Machine.undergoAll, undergone, Option.bind_some, shows.accepts, shows.entered]
    exact reached

end Shows

/-- The parts of the machine agree with each other: `given` is the limit on nested calls, and `before` counts the
instructions that had been entered when a run was last begun. -/
structure IsCoherent (given : Int) (before : Nat) (m : Machine) : Prop where
  active : m.isActive = true ↔ m.runner.isSome = true
  paused : m.state = .paused ↔ ∃ s, m.pending = some s ∧ s.isInteractive = true
  pending : ∀ s, m.pending = some s → m.isActive = true ∧ s.index = (m.entered.drop before).length
  result : m.result.isSome = true ↔ m.state = .completed
  depth : 0 ≤ m.callDepth ∧ m.callDepth ≤ max given 0
  /-- Without a run no call is active, and an `advance` does nothing. -/
  rest : m.isActive = false → m.callDepth = 0 ∧ m.advance = (m, .ok none)
  /-- Conditions are tested against the world that instructions act on. -/
  tested : m.tested = m.own

theorem Shows.isCoherent {given : Int} {before : Nat} (shows : m.Shows e) (staged : e.IsStaged (.ofInt given) before) :
    m.IsCoherent given before where
  active := by
    rw [shows.isActive, shows.runner]
    exact Engine.isActive_iff_walk e
  paused := by
    rw [shows.state, shows.pending]
    exact Engine.paused_iff e
  pending := by
    intro s pending
    rw [shows.pending] at pending
    constructor
    · rw [shows.isActive]
      exact Engine.isActive_of_pending pending
    -- What was entered since the run began is what it has executed.
    · rw [shows.entered, staged.index s pending, List.length_drop, ← staged.counted]
      omega
  result := by
    rw [shows.state, shows.result]
    exact Engine.result_iff_completed e
  depth := by
    have depth := staged.depth
    rw [CallLimit.depth_ofInt] at depth
    rw [shows.callDepth]
    omega
  rest := by
    intro finished
    rw [shows.isActive] at finished
    constructor
    · rw [shows.callDepth, Engine.callDepth_of_over finished]
      rfl
    · exact shows.advance_of_over finished
  tested := shows.tested

/-- Whatever a host calls on a new machine, in any order, every call comes to an end and the parts of the machine agree
afterwards. -/
theorem coherent_among_calls (world : World) (draws : Draws) (observers : List Observer) (baseDelay : Json)
    (given : Int) (calls : List HostCall) :
    let first : Machine := { worlds := fun _ => world, draws, observers, baseDelay, maxCallDepth := .int given }
    ∃ before last, first.undergoAll 0 calls = some (before, last) ∧ last.IsCoherent given before := by
  intro first
  let engine : Engine := { world, draws, observers, baseDelay, callLimit := .ofInt given }
  have shows : first.Shows engine := ⟨⟨rfl, rfl, given, rfl⟩, rfl, rfl, rfl, rfl, rfl⟩
  have staged : engine.IsStaged (.ofInt given) 0 := by
    constructor
    · exact .of_over rfl rfl
    · rfl
  rcases shows.undergoAll 0 calls with ⟨last, undergone, after⟩
  exact ⟨_, last, undergone, after.isCoherent (staged.undergoAll calls)⟩

-- A function that calls itself, stepped through up to the limit on calls; a second run is turned down on the way.
example :
    let first : Machine :=
      { worlds := fun _ => .ofBoard { size := 3, start := ⟨⟨0, 0⟩, .right, false⟩, goal := ⟨2, 0⟩, obstacles := [] }
        draws := .ofList [], observers := [], baseDelay := .int 0, maxCallDepth := .int 2 }
    let program : Body := [.call (.str "f")]
    let functions : FunctionTable := [(.str "f", [.turnLeft, .call (.str "f")])]
    let calls : List HostCall := [.meddle (.begin program functions (.int 1) (.bool true)), .advance, .advance, .advance,
      .advance, .meddle (.begin [] [] (.int 1) (.bool false))]
    (first.undergoAll 0 calls).map (fun (_, m) => (m.callDepth, m.state, m.pending.map Suspension.index)) =
        some (2, .paused, some 4) ∧
      (first.undergoAll 0 (calls ++ [.advance, .advance])).map (fun (_, m) => (m.callDepth, m.state, m.entered.length)) =
        some (0, .completed, 5) := by
  decide +kernel

end Machine

end GridRobot
