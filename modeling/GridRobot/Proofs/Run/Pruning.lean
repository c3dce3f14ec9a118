import GridRobot.Proofs.Run.Cancellation
import GridRobot.Proofs.Run.Effect
import GridRobot.Proofs.Run.Parallel
import GridRobot.Proofs.Run.Refinement

/-!
A program beside the same program without its idle instructions. `Engine.Trims` relates their runs where they stand
alike, and `Engine.Abreast` where the whole program may be ahead by an idle instruction that it has entered. An `advance`
of the whole run is matched by one of the pruned run, or, at an idle instruction, by none at all; so both come to the
same end.
-/
namespace GridRobot

/-! ### Idle instructions

Placeholders, definitions inside a program, and calls of names that no function has. They are entered and noted like any
other, and do nothing. A pruned program is what is left without them: the bodies that held them stay, even when they are
empty then, and so does every function. -/

namespace Instruction

def isIdle (functions : FunctionTable) : Instruction → Bool
  | .define .. | .unknown .. | .blank => true
  | .call name => match functions.look name with
    | .ok none => true
    | _ => false
  | _ => false

mutual

def pruned (functions : FunctionTable) : Instruction → Instruction
  | .repeatTimes count body => .repeatTimes count (prunedBody functions body)
  | .ifThen condition body => .ifThen condition (prunedBody functions body)
  | .ifElse condition thenBody elseBody =>
    .ifElse condition (prunedBody functions thenBody) (prunedBody functions elseBody)
  | .whileDo condition body => .whileDo condition (prunedBody functions body)
  | node => node

def prunedBody (functions : FunctionTable) : List Instruction → List Instruction
  | [] => []
  | node :: rest =>
    -- The body of a definition goes with it; it is never entered there.
    if node.isIdle functions then prunedBody functions rest
    else node.pruned functions :: prunedBody functions rest

end

/-- What a pruned program enters where the whole one enters these instructions. -/
def busy (functions : FunctionTable) (nodes : List Instruction) : List Instruction :=
  (nodes.filter fun node => !node.isIdle functions).map (pruned functions)

theorem busy_append (functions : FunctionTable) (nodes more : List Instruction) :
    busy functions (nodes ++ more) = busy functions nodes ++ busy functions more := by
  rw [busy, List.filter_append, List.map_append, busy, busy]

theorem busy_idle {functions : FunctionTable} {node : Instruction} (idle : node.isIdle functions = true) :
    busy functions [node] = [] := by simp [busy, idle]

theorem busy_active {functions : FunctionTable} {node : Instruction} (active : node.isIdle functions = false) :
    busy functions [node] = [node.pruned functions] := by simp [busy, active]

theorem length_busy (functions : FunctionTable) (nodes : List Instruction) :
    nodes.length = (busy functions nodes).length + nodes.countP (isIdle functions) := by
  rw [busy, List.length_map, ← List.countP_eq_length_filter, Nat.add_comm]
  simpa using List.length_eq_countP_add_countP (isIdle functions) (l := nodes)

end Instruction

namespace FunctionTable

def pruned (functions : FunctionTable) : FunctionTable :=
  functions.map fun entry => (entry.1, Instruction.prunedBody functions entry.2)

theorem look_pruned (functions : FunctionTable) (name : Json) :
    functions.pruned.look name = (functions.look name).map (Option.map (Instruction.prunedBody functions)) := by
  have found (key : Json) : functions.pruned.body? key = (functions.body? key).map (Instruction.prunedBody functions) := by
    simp [body?, pruned, List.find?_map, Function.comp_def]
  rw [look, look]
  cases name.key with
  | error fault => rfl
  | ok key => exact congrArg Except.ok (found key)

end FunctionTable

/-! ### Running both -/

open Instruction (busy prunedBody)

theorem Instruction.pruned_eq_within (functions : FunctionTable) (node : Instruction) :
    node.pruned functions = node.within (prunedBody functions) := by
  cases node <;> simp only [pruned, within]

namespace Engine

variable {functions : FunctionTable} {past nodes : List Instruction} {a b : Engine}

/-- Two runs that have come equally far, where `b` does without the idle instructions that `a` enters. Since both were
begun, `a` has entered `nodes`. -/
structure Trims (functions : FunctionTable) (past nodes : List Instruction) (a b : Engine) : Prop where
  world : b.world = a.world
  draws : b.draws = a.draws
  callLimit : b.callLimit = a.callLimit
  table : a.functions = functions
  table_pruned : b.functions = functions.pruned
  pace : a.SamePace b
  entered : a.entered = past ++ nodes
  executed : a.executed = nodes.length
  entered_busy : b.entered = past ++ busy functions nodes
  executed_busy : b.executed = (busy functions nodes).length

namespace Trims

variable {c d : Engine}

theorem onward (trims : Trims functions past nodes a b) (left : a.SameTerms c) (right : b.SameTerms d) (heard : c.entered = a.entered)
    (echoed : d.entered = b.entered) (world : d.world = c.world) (draws : d.draws = c.draws) : Trims functions past nodes c d where
  world := world
  draws := draws
  callLimit := by rw [right.callLimit, left.callLimit, trims.callLimit]
  table := left.functions.trans trims.table
  table_pruned := right.functions.trans trims.table_pruned
  pace := by
    have other := trims.pace.trans right.pace
    exact ⟨other.baseDelay.trans left.baseDelay.symm, other.speed.trans left.speed.symm,
      other.interactive.trans left.interactive.symm⟩
  entered := heard.trans trims.entered
  executed := left.executed.trans trims.executed
  entered_busy := echoed.trans trims.entered_busy
  executed_busy := right.executed.trans trims.executed_busy

theorem noted (trims : Trims functions past nodes a b) (note : Note) : Trims functions past nodes (a.log note) b :=
  trims.onward (log_deliberates note a).terms (.refl b) (entered_logAs _ _ a) rfl trims.world trims.draws

theorem log (trims : Trims functions past nodes a b) (note other : Note) : Trims functions past nodes (a.log note) (b.log other) :=
  (trims.noted note).onward (.refl _) (log_deliberates other b).terms rfl (entered_logAs _ _ b) trims.world trims.draws

theorem inWorld (trims : Trims functions past nodes a b) (world : World) :
    Trims functions past nodes { a with world } { b with world } :=
  trims.onward ⟨rfl, rfl, rfl, rfl, rfl, rfl⟩ ⟨rfl, rfl, rfl, rfl, rfl, rfl⟩ rfl rfl rfl trims.draws

theorem showWorld (trims : Trims functions past nodes a b) : Trims functions past nodes a.showWorld b.showWorld :=
  trims.onward ⟨rfl, rfl, rfl, rfl, rfl, rfl⟩ ⟨rfl, rfl, rfl, rfl, rfl, rfl⟩ (entered_showWorld a) (entered_showWorld b)
    trims.world trims.draws

theorem showRegisters (trims : Trims functions past nodes a b) : Trims functions past nodes a.showRegisters b.showRegisters :=
  trims.onward ⟨rfl, rfl, rfl, rfl, rfl, rfl⟩ ⟨rfl, rfl, rfl, rfl, rfl, rfl⟩ (entered_showRegisters a)
    (entered_showRegisters b) trims.world trims.draws

theorem isParallel (functions : FunctionTable) (past nodes : List Instruction) : IsParallel (Trims functions past nodes) where
  world trims := trims.world
  draws trims := trims.draws
  draw trims _ := trims.onward ⟨rfl, rfl, rfl, rfl, rfl, rfl⟩ ⟨rfl, rfl, rfl, rfl, rfl, rfl⟩ rfl rfl trims.world rfl
  log trims note := trims.log note note

theorem announce_world_draws (node : Instruction) (e : Engine) :
    (e.announce node).world = e.world ∧ (e.announce node).draws = e.draws :=
  ⟨congrArg Trail.world (trail_announce node e), congrArg Trail.draws (trail_announce node e)⟩

theorem announce_idle {node : Instruction} (trims : Trims functions past nodes a b) (idle : node.isIdle functions = true) :
    Trims functions past (nodes ++ [node]) (a.announce node) b := by
  have left := announce_terms node a
  have same : busy functions (nodes ++ [node]) = busy functions nodes := by
    rw [Instruction.busy_append, Instruction.busy_idle idle, List.append_nil]
  constructor
  · rw [trims.world, (announce_world_draws node a).1]
  · rw [trims.draws, (announce_world_draws node a).2]
  · rw [trims.callLimit, left.callLimit]
  · exact left.functions.trans trims.table
  · exact trims.table_pruned
  · exact ⟨trims.pace.baseDelay.trans left.baseDelay.symm, trims.pace.speed.trans left.speed.symm,
      trims.pace.interactive.trans left.interactive.symm⟩
  · rw [announce_entered, trims.entered, List.append_assoc]
  · rw [announce_executed, trims.executed, List.length_append, List.length_singleton]
  · rw [same, trims.entered_busy]
  · rw [same, trims.executed_busy]

theorem announce {node : Instruction} (trims : Trims functions past nodes a b) (active : node.isIdle functions = false) :
    Trims functions past (nodes ++ [node]) (a.announce node) (b.announce (node.pruned functions)) := by
  have left := announce_terms node a
  have right := announce_terms (node.pruned functions) b
  have more : busy functions (nodes ++ [node]) = busy functions nodes ++ [node.pruned functions] := by
    rw [Instruction.busy_append, Instruction.busy_active active]
  constructor
  · rw [(announce_world_draws _ b).1, trims.world, (announce_world_draws node a).1]
  · rw [(announce_world_draws _ b).2, trims.draws, (announce_world_draws node a).2]
  · rw [right.callLimit, left.callLimit, trims.callLimit]
  · exact left.functions.trans trims.table
  · exact right.functions.trans trims.table_pruned
  · exact ⟨right.baseDelay.trans (trims.pace.baseDelay.trans left.baseDelay.symm),
      right.speed.trans (trims.pace.speed.trans left.speed.symm),
      right.interactive.trans (trims.pace.interactive.trans left.interactive.symm)⟩
  · rw [announce_entered, trims.entered, List.append_assoc]
  · rw [announce_executed, trims.executed, List.length_append, List.length_singleton]
  · rw [more, announce_entered, trims.entered_busy, List.append_assoc]
  · rw [more, announce_executed, trims.executed_busy, List.length_append, List.length_singleton]

end Trims

/-- How the two runs stand to each other when the whole one has been advanced. -/
inductive Abreast (functions : FunctionTable) (past : List Instruction) (a b : Engine) : Prop
  /-- The whole run is suspended at an idle instruction, and the pruned one has already gone past it. -/
  | ahead {nodes : List Instruction} {suspension : Suspension} {frames : List Frame} {behind : Engine}
      (phase : a.phase = .active (some suspension) frames) (idle : suspension.node.isIdle functions = true)
      (trims : Trims functions past nodes a behind) (past_it : b = behind.proceed (frames.map (Frame.within (prunedBody functions))))
  /-- Both are suspended at the same instruction. -/
  | suspended {nodes : List Instruction} {suspension other : Suspension} {frames : List Frame}
      (phase : a.phase = .active (some suspension) frames) (active : suspension.node.isIdle functions = false)
      (trims : Trims functions past nodes a b) (same : other.node = suspension.node.pruned functions)
      (level : b.phase = .active (some other) (frames.map (Frame.within (prunedBody functions))))
  /-- Both have ended in the same way. -/
  | finished {nodes : List Instruction} {ending : Ending} (trims : Trims functions past nodes a b)
      (phase : a.phase = .completed ⟨ending, a.world, a.executed⟩)
      (level : b.phase = .completed ⟨ending, b.world, b.executed⟩)

namespace Trims

theorem finish (trims : Trims functions past nodes a b) (ending : Ending) : Abreast functions past (a.finish ending) (b.finish ending) := by
  have ended : Trims functions past nodes (a.finish ending) (b.finish ending) :=
    trims.onward ⟨rfl, rfl, rfl, rfl, rfl, rfl⟩ ⟨rfl, rfl, rfl, rfl, rfl, rfl⟩ (entered_finish ending a)
      (entered_finish ending b) trims.world trims.draws
  exact .finished ended rfl rfl

theorem stop (trims : Trims functions past nodes a b) (halt : Halt) : Abreast functions past (a.stop halt) (b.stop halt) :=
  (trims.log halt.note halt.note).finish halt.ending

theorem conclude (trims : Trims functions past nodes a b) : Abreast functions past a.conclude b.conclude := by
  rw [Engine.conclude, Engine.conclude, trims.world]
  split
  · exact (trims.log _ _).finish .success
  · exact (trims.log _ _).finish .goalMissed

end Trims

theorem running_of_proceed {e : Engine} {frames : List Frame} (running : (e.proceed frames).cancelled = false) :
    e.cancelled = false := by
  cases stopped : e.cancelled with
  | false => rfl
  | true =>
    rw [(proceed_rests stopped frames).1.cancelled] at running
    cases running

theorem running_of_advance {e : Engine} (running : e.advance.cancelled = false) : e.cancelled = false := by
  cases stopped : e.cancelled with
  | false => rfl
  | true =>
    rw [(advance_rests stopped).cancelled] at running
    cases running

theorem running_of_drain {e : Engine} {seen : List Suspension} (running : (e.drainFrom seen).2.cancelled = false) :
    e.advance.cancelled = false := by
  fun_induction drainFrom seen e with
  | case1 seen e suspension pending ih => exact running_of_advance (ih running)
  | case2 seen e finished => exact running

theorem enter_running {e : Engine} (paced : e.IsPaced) (running : e.cancelled = false) (node : Instruction)
    (frames : List Frame) : ∃ suspension, suspension.node = node ∧
      e.enter node frames = { e.announce node with phase := .active (some suspension) frames } := by
  obtain ⟨pause, computed⟩ := (announce_terms node e).pace.isPaced paced
  rw [enter_eq, running, computed]
  exact ⟨_, rfl, rfl⟩

namespace Trims

theorem inPhase (trims : Trims functions past nodes a b) (phase other : Phase) :
    Trims functions past nodes { a with phase } { b with phase := other } :=
  trims.onward ⟨rfl, rfl, rfl, rfl, rfl, rfl⟩ ⟨rfl, rfl, rfl, rfl, rfl, rfl⟩ rfl rfl trims.world trims.draws

theorem proceedsTo (functions : FunctionTable) (past nodes : List Instruction) :
    ProceedsTo (prunedBody functions)
      (fun a b => Trims functions past nodes a b ∧ a.IsPaced ∧ a.cancelled = false ∧ b.cancelled = false)
      (Abreast functions past) where
  world related := related.1.world
  draws related := related.1.draws
  draw related draws := ⟨(isParallel functions past nodes).draw related.1 draws, related.2⟩
  log related note := by
    obtain ⟨trims, paced, going, straight⟩ := related
    exact ⟨trims.log note note, (log_deliberates note _).terms.pace.isPaced paced,
      (cancelled_logAs _ _ _).trans going, (cancelled_logAs _ _ _).trans straight⟩
  nothing := by rw [prunedBody]
  cancelled related := related.2.2.2.trans related.2.2.1.symm
  conclude related := related.1.conclude
  -- Neither run is cancelled, so this way is never taken.
  abort related := (related.1.log _ _).finish .aborted
  stop related halt := related.1.stop halt
  enter related node rest outer := by
    obtain ⟨trims, paced, going, straight⟩ := related
    obtain ⟨suspension, rfl, entered⟩ := enter_running paced going node (.block rest :: outer)
    rw [entered, prunedBody]
    -- The pruned run has gone past an idle instruction by the time that the whole run is suspended at it.
    cases idle : suspension.node.isIdle functions with
    | true => exact .ahead rfl idle ((trims.announce_idle idle).inPhase _ _) rfl
    | false =>
      obtain ⟨other, same, echoed⟩ := enter_running (trims.pace.isPaced paced) straight (suspension.node.pruned functions)
        (.block (prunedBody functions rest) :: outer.map (Frame.within (prunedBody functions)))
      rw [if_neg Bool.false_ne_true, Engine.proceed, echoed]
      exact .suspended rfl idle ((trims.announce idle).inPhase _ _) same rfl

theorem proceed (trims : Trims functions past nodes a b) (paced : a.IsPaced) (going : a.cancelled = false)
    (straight : b.cancelled = false) (frames : List Frame) :
    Abreast functions past (a.proceed frames) (b.proceed (frames.map (Frame.within (prunedBody functions)))) :=
  (proceedsTo functions past nodes).proceed ⟨trims, paced, going, straight⟩ frames

theorem performsAlike (functions : FunctionTable) (past nodes : List Instruction) :
    PerformsAlike (prunedBody functions) (Trims functions past nodes) :=
  { isParallel functions past nodes with
    callLimit := fun trims => trims.callLimit
    look := fun trims name => by rw [trims.table, trims.table_pruned, FunctionTable.look_pruned]
    inWorld := fun trims world => trims.inWorld world
    showWorld := fun trims => trims.showWorld
    showRegisters := fun trims => trims.showRegisters }

end Trims

theorem perform_idle {e : Engine} {node : Instruction} (idle : node.isIdle e.functions = true) (frames : List Frame) :
    ∃ note, e.perform node frames = .onward (e.log note) frames := by
  cases node with
  | call name =>
    rw [perform]
    cases found : e.functions.look name with
    | error fault => simp [Instruction.isIdle, found] at idle
    | ok body =>
      cases body with
      | none => exact ⟨_, rfl⟩
      | some body => simp [Instruction.isIdle, found] at idle
  | define | unknown | blank => exact ⟨_, rfl⟩
  | _ => cases idle

namespace Abreast

theorem advance (abreast : Abreast functions past a b) (paced : a.IsPaced) (running : a.advance.cancelled = false)
    (level : b.advance.cancelled = false) :
    Abreast functions past a.advance b ∨ Abreast functions past a.advance b.advance := by
  have going := running_of_advance running
  cases abreast with
  | @ahead nodes suspension frames behind phase idle trims past_it =>
    left
    obtain ⟨note, performed⟩ := perform_idle (trims.table.symm ▸ idle) frames
    subst past_it
    have straight := running_of_proceed (running_of_advance level)
    rw [advance_onward phase going performed]
    exact (trims.noted note).proceed paced ((cancelled_logAs _ _ a).trans going) straight frames
  | @suspended nodes suspension other frames phase active trims same echoed =>
    right
    have straight := running_of_advance level
    have performed := (Trims.performsAlike functions past nodes).perform trims suspension.node frames
    rw [← Instruction.pruned_eq_within, ← same] at performed
    generalize first : a.perform suspension.node frames = left at performed
    generalize second : b.perform other.node (frames.map (Frame.within (prunedBody functions))) = right at performed
    cases performed with
    | onward after trims =>
      rw [advance_onward phase going first] at running ⊢
      rw [advance_onward echoed straight second] at level ⊢
      exact trims.proceed ((perform_pace first).isPaced paced) (running_of_proceed running) (running_of_proceed level) after
    | stopped halt trims =>
      rw [advance_ended phase going first, advance_ended echoed straight second]
      exact trims.stop halt
  | finished trims phase echoed =>
    left
    have finished : a.isActive = false := by simp [isActive, phase]
    rw [advance_of_over finished]
    exact .finished trims phase echoed

end Abreast

theorem Abreast.drain (abreast : Abreast functions past a b) (paced : a.IsPaced) {seen other : List Suspension}
    (running : (a.drainFrom seen).2.cancelled = false) (level : (b.drainFrom other).2.cancelled = false) :
    Abreast functions past (a.drainFrom seen).2 (b.drainFrom other).2 := by
  -- By the advances of the whole run; the pruned run makes as many or fewer.
  fun_induction drainFrom seen a generalizing b other with
  | case1 seen a suspension pending ih =>
    have paced' := (advance_pace a).isPaced paced
    rcases abreast.advance paced (running_of_advance (running_of_drain running)) (running_of_drain level) with waits | follows
    · exact ih waits paced' running level
    · rw [drainFrom_advance b other other] at level ⊢
      exact ih follows paced' running level
  | case2 seen a finished =>
    have halted : a.advance.isActive = false := over_of_pending finished
    -- With the whole run the pruned one is over, so further advances do nothing to it.
    have ended {c : Engine} (level : Abreast functions past a.advance c) : c.isActive = false := by
      cases level with
      | ahead phase | suspended phase => simp [isActive, phase] at halted
      | finished trims phase echoed => simp [isActive, echoed]
    rcases abreast.advance paced running (running_of_drain level) with waits | follows
    · have rests := advance_of_over (ended waits)
      rw [drainFrom_of_over (by rw [rests]; exact pending?_of_over (ended waits)), rests]
      exact waits
    · rwa [drainFrom_of_over (pending?_of_over (ended follows))]

/-- A pruned run has ended like the whole one, which has entered these instructions. -/
structure EndsLike (functions : FunctionTable) (nodes : List Instruction) (whole lean : Engine) : Prop where
  result : ∃ ending, whole.result? = some ⟨ending, whole.world, whole.executed⟩ ∧
    lean.result? = some ⟨ending, whole.world, lean.executed⟩
  world : lean.world = whole.world
  draws : lean.draws = whole.draws
  fewer : whole.executed = lean.executed + nodes.countP (Instruction.isIdle functions)

/-- Without its idle instructions, a program comes to the same end: with the same outcome, world and random numbers left,
and with as many instructions fewer as the whole program enters idle ones. The pauses have to be ones that can be
computed, and nobody stops either run. -/
theorem drain_pruned {e : Engine} {speed : Json} (program : Body) (functions : FunctionTable) (interactive : Json)
    (idle : e.isActive = false) (positive : Relation.greater.check speed (.int 0) = .ok true)
    (paced : interactive.isTruthy = true ∨ ∃ pause, Pause.atSpeed speed e.baseDelay = .ok pause) :
    let whole := e.begin program functions speed interactive
    let lean := e.begin (prunedBody functions program) functions.pruned speed interactive
    whole.2 = .ok () ∧ lean.2 = .ok () ∧
      (whole.1.drain.1.cancelled = false → lean.1.drain.1.cancelled = false →
        EndsLike functions (whole.1.drain.1.entered.drop whole.1.entered.length) whole.1.drain.1 lean.1.drain.1) := by
  intro whole lean
  let first := e.armed program functions speed interactive
  let second := e.armed (prunedBody functions program) functions.pruned speed interactive
  have begun : whole = (first, .ok ()) := begin_eq_armed program functions interactive idle positive
  have begun' : lean = (second, .ok ()) := begin_eq_armed _ _ interactive idle positive
  rw [begun, begun', drain_of_active rfl, drain_of_active rfl, drainFrom_advance first [] [], drainFrom_advance second [] []]
  refine ⟨rfl, rfl, fun running level => ?_⟩
  have starts : Trims functions e.entered [] first second :=
    { world := rfl, draws := rfl, callLimit := rfl, table := rfl, table_pruned := rfl, pace := ⟨rfl, rfl, rfl⟩
      entered := (entered_logAs _ _ _).trans (List.append_nil _).symm, executed := rfl
      entered_busy := (entered_logAs _ _ _).trans (List.append_nil _).symm, executed_busy := rfl }
  have computed : first.IsPaced := (armed_leadsTo program functions interactive speed paced).1
  have abreast : Abreast functions e.entered first.advance second.advance :=
    starts.proceed computed (cancelled_logAs _ _ _) (cancelled_logAs _ _ _) [.block program]
  have halted := drainFrom_over [] first.advance
  cases abreast.drain ((advance_pace first).isPaced computed) running level with
  | ahead phase | suspended phase => simp [isActive, phase] at halted
  | @finished nodes ending trims phase echoed =>
    have before : first.entered.length = e.entered.length := congrArg List.length (entered_logAs _ _ _)
    rw [trims.entered, before, List.drop_left]
    refine ⟨⟨ending, by simp [result?, phase], by simp [result?, echoed, trims.world]⟩, trims.world, trims.draws, ?_⟩
    rw [trims.executed, trims.executed_busy]
    exact Instruction.length_busy functions nodes

/-- A loop around a function, with placeholders, a definition and calls of nothing in all of them; the body of the
counted loop is empty when it is pruned. -/
theorem drain_pruned_nested :
    let e : Engine :=
      { world := .ofBoard { size := 3, start := ⟨⟨0, 0⟩, .right, false⟩, goal := ⟨2, 0⟩, obstacles := [] }
        draws := .ofList [.num (.float ⟨0x3fe8000000000000⟩), .num (.float ⟨0x3fd0000000000000⟩)]
        observers := [.silent], baseDelay := .num (.float ⟨0x3fe0000000000000⟩), callLimit := .ofInt 3 }
    let functions : FunctionTable :=
      [(.str "f", [.unknown "warp" [], .ifThen (.sensor .coin) [.call (.str "g"), .increment .r1], .blank, .turnLeft])]
    let program : Body :=
      [.whileDo (.compare .r1 .equals (.int 0)) [.call (.str "f"), .define (.str "g") [.move], .call (.str "h")],
        .repeatTimes (.int 2) [.blank], .move]
    let whole := (e.begin program functions (.num (.float defaultSpeed)) (.bool false)).1
    let lean :=
      (e.begin (prunedBody functions program) functions.pruned (.num (.float defaultSpeed)) (.bool false)).1
    EndsLike functions (whole.drain.1.entered.drop whole.entered.length) whole.drain.1 lean.drain.1 ∧
      whole.drain.1.executed = 21 ∧ lean.drain.1.executed = 10 := by
  intro e functions program whole lean
  have above : Number.lt (.int 0) (.float defaultSpeed) = true := by decide +kernel
  have positive : Relation.greater.check (.num (.float defaultSpeed)) (.int 0) = .ok true := congrArg Except.ok above
  obtain ⟨-, -, ends⟩ := drain_pruned (e := e) program functions (.bool false) rfl positive
    (.inr ⟨_, Pause.atSpeed_float _ _⟩)
  exact ⟨ends (by decide +kernel) (by decide +kernel), by decide +kernel, by decide +kernel⟩

/-- Where a pause cannot be computed, an idle instruction breaks a run that would succeed without it. -/
theorem drain_falters_at_idle :
    let e : Engine :=
      { world := .ofBoard { size := 3, start := ⟨⟨0, 0⟩, .right, false⟩, goal := ⟨0, 0⟩, obstacles := [] }
        draws := .ofList [], observers := [], baseDelay := .int (Nat.pow 2 1024), callLimit := .ofInt 50 }
    let speed := Json.num (.float ⟨0x3ff0000000000000⟩)
    let whole := e.begin [.blank] [] speed (.bool false)
    let lean := e.begin (prunedBody [] [.blank]) (FunctionTable.pruned []) speed (.bool false)
    Relation.greater.check speed (.int 0) = .ok true ∧
      whole.1.drain.1.cancelled = false ∧ lean.1.drain.1.cancelled = false ∧
      whole.1.drain.1.result?.map RunResult.ending = some (.crashed (.pause .integerTooLarge)) ∧
      lean.1.drain.1.result?.map RunResult.ending = some .success := by
  intro e speed whole lean
  have above : Number.lt (.int 0) (.float ⟨0x3ff0000000000000⟩) = true := by decide +kernel
  exact ⟨congrArg Except.ok above, by decide +kernel, by decide +kernel, by decide +kernel, by decide +kernel⟩

end Engine

end GridRobot
