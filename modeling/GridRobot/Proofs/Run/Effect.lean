import GridRobot.Proofs.Run.Termination

/-!
What one `advance` does to the world. `Instruction.effect` says what an instruction does on its own, in degrees, unit
steps and the cells of a grid; the turns and steps of a world are shown to be these. An advance has just the effect of
the instruction it is suspended at, and so the world of a run is the fold of these effects over the instructions that
were entered before.
-/
namespace GridRobot

namespace World

/-- The four directions in degrees, with their unit steps; rows grow downwards. -/
def compass : List (Int × Cell) := [(0, ⟨1, 0⟩), (90, ⟨0, 1⟩), (180, ⟨-1, 0⟩), (270, ⟨0, -1⟩)]

def IsOpen (size : Nat) (obstacles : List Cell) (c : Cell) : Prop :=
  (0 ≤ c.x ∧ c.x < size) ∧ (0 ≤ c.y ∧ c.y < size) ∧ c ∉ obstacles

instance (size : Nat) (obstacles : List Cell) (c : Cell) : Decidable (IsOpen size obstacles c) :=
  inferInstanceAs (Decidable (_ ∧ _))

def cellTowards (degrees : Int) (c : Cell) : Cell :=
  match compass.lookup degrees with
  | some step => ⟨c.x + step.x, c.y + step.y⟩
  | none => c

/-- A world with its robot turned by so many degrees, round the circle of 360. -/
def turnedBy (degrees : Int) (w : World) : World :=
  match Direction.ofDegrees? ((w.robot.direction.degrees + degrees) % 360) with
  | some direction => { w with robot.direction := direction }
  | none => w

def holding (r : Register) (value : Int) (w : World) : World :=
  let held (s : Register) : Int := if s = r then value else w.registers.get s
  { w with registers := ⟨held .r1, held .r2, held .r3, held .r4⟩ }

theorem cellTowards_ahead (w : World) : cellTowards w.robot.direction.degrees w.robot.cell = w.ahead := by
  unfold ahead Pose.ahead
  cases w.robot.direction <;> rfl

theorem turnedBy_left (w : World) : w.turnedBy (-90) = w.turnLeft := by
  unfold turnedBy turnLeft
  cases w.robot.direction <;> rfl

theorem turnedBy_right (w : World) : w.turnedBy 90 = w.turnRight := by
  unfold turnedBy turnRight
  cases w.robot.direction <;> rfl

theorem holding_eq (r : Register) (value : Int) (w : World) :
    w.holding r value = { w with registers := w.registers.set r value } := by
  cases r <;> rfl

end World

namespace Instruction

/-- What an instruction does to the world by itself: control structures, calls and placeholders do nothing. -/
def effect : Instruction → World → World
  | .move, w =>
    let next := World.cellTowards w.robot.direction.degrees w.robot.cell
    if World.IsOpen w.board.size w.board.obstacles next then { w with robot.cell := next } else w
  | .turnLeft, w => w.turnedBy (-90)
  | .turnRight, w => w.turnedBy 90
  | .assign r value, w => match value.toInteger with
    | .ok n => w.holding r n
    | .error _ => w
  | .increment r, w => w.holding r (w.registers.get r + 1)
  | .decrement r, w => w.holding r (w.registers.get r - 1)
  | _, w => w

theorem effect_move (w : World) : Instruction.effect .move w = match w.move with
    | .ok next => next
    | .error _ => w := by
  have free : w.wallAhead = false ↔ World.IsOpen w.board.size w.board.obstacles w.ahead := by
    rw [World.wallAhead, Bool.not_eq_false', Board.isFree_iff]
    rfl
  simp only [effect, w.cellTowards_ahead]
  cases wall : w.wallAhead with
  | false => simp [World.move, wall, free.mp wall]
  | true => simp [World.move, wall, ← free]

theorem effect_board (node : Instruction) (w : World) : (node.effect w).board = w.board := by
  fun_cases effect node w with
  | case3 => rw [World.turnedBy_left]; rfl
  | case4 => rw [World.turnedBy_right]; rfl
  | _ => rfl

def effects (nodes : List Instruction) (w : World) : World := nodes.foldl (fun w node => node.effect w) w

theorem effects_append (before : List Instruction) (node : Instruction) (w : World) :
    effects (before ++ [node]) w = node.effect (effects before w) := by
  simp [effects]

end Instruction

open Instruction (effects effects_append)

def Meddling.IsHandsOff : Meddling → Prop
  | .register .. => False
  | _ => True

namespace Engine

variable {e next : Engine}

theorem conclude_world (e : Engine) : e.conclude.world = e.world := by
  unfold conclude
  split <;> rfl

theorem announce_world (node : Instruction) (e : Engine) : (e.announce node).world = e.world := by
  unfold announce
  dsimp only
  split <;> rfl

theorem enter_world (node : Instruction) (frames : List Frame) (e : Engine) :
    (e.enter node frames).world = e.world := by
  rw [enter_eq]
  split
  · rfl
  · split
    · exact announce_world node e
    · exact announce_world node e

theorem proceed_world (e : Engine) (frames : List Frame) : (e.proceed frames).world = e.world := by
  rcases proceed_cases e frames with ⟨mid, quiet, ends | ⟨-, ends⟩ | ⟨halt, ends⟩ | ⟨node, after, ends⟩⟩
  · rw [ends, conclude_world]
    exact quiet.world
  · rw [ends]
    exact quiet.world
  · rw [ends]
    exact quiet.world
  · rw [ends, enter_world]
    exact quiet.world

theorem perform_effect {node : Instruction} {frames after : List Frame}
    (performed : e.perform node frames = .onward next after) : next.world = node.effect e.world := by
  revert performed
  fun_cases perform node frames e with rintro ⟨⟩
  | case2 world free =>
    rw [Instruction.effect_move, free]
    rfl
  | case3 => exact e.world.turnedBy_left.symm
  | case4 => exact e.world.turnedBy_right.symm
  | case6 r value n read =>
    simp only [Instruction.effect, read, World.holding_eq]
    rfl
  | case7 r | case8 r => exact (World.holding_eq r _ e.world).symm
  | case13 condition body next value tested => exact (deliberates_of_test tested).world
  | case15 condition thenBody elseBody next value tested => exact (deliberates_of_test tested).world
  | case16 condition body => exact (announceLoop_deliberates condition e).world
  -- All else touches nothing.
  | _ => rfl

theorem perform_ended_effect {node : Instruction} {frames : List Frame} {last : Engine}
    (performed : e.perform node frames = .ended last) : last.world = node.effect e.world := by
  revert performed
  fun_cases perform node frames e with rintro ⟨⟩
  | case1 collision blocked =>
    rw [Instruction.effect_move, blocked]
    rfl
  | case5 r value fault unread =>
    simp only [Instruction.effect, unread]
    rfl
  | case12 condition body next fault tested | case14 condition thenBody elseBody next fault tested =>
    exact (deliberates_of_test tested).world
  | _ => rfl

section Advance

variable {suspension : Suspension} (pending : e.pending? = some suspension) (running : e.cancelled = false)
include pending running

theorem advance_effect : e.advance.world = suspension.node.effect e.world := by
  rcases phase_of_pending pending with ⟨frames, phase⟩
  cases performed : e.perform suspension.node frames with
  | onward next after =>
    rw [advance_onward phase running performed, proceed_world]
    exact perform_effect performed
  | ended last =>
    rw [advance_ended phase running performed]
    exact perform_ended_effect performed

theorem advance_blocked (move : suspension.node = .move)
    (closed : ¬World.IsOpen e.world.board.size e.world.board.obstacles e.world.ahead) :
    e.advance.result? = some ⟨.failed (.collision e.world.ahead), e.world, e.executed⟩ := by
  rcases phase_of_pending pending with ⟨frames, phase⟩
  have blocked : e.world.board.isFree e.world.ahead = false :=
    Bool.eq_false_iff.mpr (closed ∘ (e.world.board.isFree_iff _).mp)
  have wall : e.world.move = .error ⟨e.world.ahead⟩ := by
    simp [World.move, World.wallAhead, blocked]
  have performed : e.perform suspension.node frames =
      .ended ((e.log (.blocked e.world.ahead)).fail (.collision e.world.ahead)) := by
    simp [perform, move, wall]
  rw [advance_ended phase running performed]
  rfl

end Advance

theorem advance_fresh (active : e.isActive = true) (fresh : e.pending? = none) : e.advance.world = e.world := by
  fun_cases advance e with
  | case1 frames phase => exact proceed_world e frames
  | case2 suspension frames phase | case3 suspension frames phase | case4 suspension frames phase =>
    simp [pending?, phase] at fresh
  | case5 phase | case6 result phase => simp [isActive, phase] at active

theorem perform_entered {node : Instruction} {frames after : List Frame}
    (performed : e.perform node frames = .onward next after) : next.entered = e.entered := by
  rcases perform_onward performed with quiet | ⟨world, note, rfl⟩ | ⟨registers, note, rfl⟩
  · exact quiet.entered
  · exact (entered_showWorld _).trans (entered_logAs note note.severity _)
  · exact (entered_showRegisters _).trans (entered_logAs note note.severity _)

theorem announce_entered (node : Instruction) (e : Engine) : (e.announce node).entered = e.entered ++ [node] := by
  have reported : ({ e with executed := e.executed + 1 }.emit (.entered node)).entered = e.entered ++ [node] := by
    simp [entered, emit]
  unfold announce
  dsimp only
  split
  · exact (entered_logAs _ _ _).trans reported
  · exact reported

theorem enter_entered {node : Instruction} {frames : List Frame} {suspension : Suspension}
    (pending : (e.enter node frames).pending? = some suspension) :
    (e.enter node frames).entered = e.entered ++ [suspension.node] := by
  rw [enter_eq] at pending ⊢
  split at pending
  · cases pending
  · rename_i running
    rw [if_neg running]
    split at pending
    · cases pending
    · cases pending
      exact announce_entered node e

theorem proceed_entered {frames : List Frame} {suspension : Suspension}
    (pending : (e.proceed frames).pending? = some suspension) :
    (e.proceed frames).entered = e.entered ++ [suspension.node] := by
  rcases proceed_cases e frames with ⟨mid, quiet, ends | ⟨-, ends⟩ | ⟨halt, ends⟩ | ⟨node, after, ends⟩⟩
  · rw [ends, conclude_pending] at pending
    cases pending
  · rw [ends] at pending
    cases pending
  · rw [ends] at pending
    cases pending
  · rw [ends] at pending ⊢
    rw [enter_entered pending, quiet.entered]

theorem advance_entered {suspension : Suspension} (pending : e.advance.pending? = some suspension) :
    e.advance.entered = e.entered ++ [suspension.node] := by
  revert pending
  fun_cases advance e with intro pending
  | case1 frames phase => exact proceed_entered pending
  | case2 suspended frames phase cancelled => cases pending
  | case3 suspended frames phase running next after performed =>
    rw [proceed_entered pending, perform_entered performed]
  | case4 suspended frames phase running last performed =>
    rcases perform_ended performed with ⟨mid, halt, -, rfl⟩
    cases pending
  | case5 phase | case6 result phase => simp [pending?, phase] at pending

theorem meddle_world (active : e.isActive = true) {meddling : Meddling} (handsOff : meddling.IsHandsOff) :
    (e.meddle meddling).world = e.world := by
  cases meddling with
  | register name value => exact handsOff.elim
  | interactive | cancel | observe | log => rfl
  | begin program functions speed interactive =>
    rw [meddle_begin active]
    rfl
  | setWorld world => rw [meddle_setWorld active]

theorem visit_world {visit : List Meddling} (active : e.isActive = true) (handsOff : ∀ m ∈ visit, m.IsHandsOff) :
    (visit.foldl meddle e).world = e.world := by
  apply visit_keeps (P := fun reached => reached.world = e.world) active
  · intro reached m member still same
    exact (meddle_world still (handsOff m member)).trans same
  · rfl

/-- Where a run stands that has suspended so many times since some start: still before its first instruction, or in
front of the last one it entered, in the world that those before it made. -/
inductive Retraces (start : Engine) : Nat → Engine → Prop
  | begun {e : Engine} (fresh : e.pending? = none) (entered : e.entered = start.entered)
      (world : e.world = start.world) : Retraces start 0 e
  | suspended {e : Engine} {suspension : Suspension} (before : List Instruction)
      (pending : e.pending? = some suspension) (entered : e.entered = start.entered ++ before ++ [suspension.node])
      (world : e.world = effects before start.world) : Retraces start (before.length + 1) e

namespace Retraces

variable {start : Engine} {count : Nat}

theorem of_same (retraces : start.Retraces count e) (same : e.SameRun next) (world : next.world = e.world) :
    start.Retraces count next := by
  have phase : next.pending? = e.pending? := by
    unfold pending?
    rw [same.phase]
  cases retraces with
  | begun fresh entered here =>
    exact .begun (phase.trans fresh) (same.entered.trans entered) (world.trans here)
  | suspended before pending entered here =>
    exact .suspended before (phase.trans pending) (same.entered.trans entered) (world.trans here)

theorem advance (retraces : start.Retraces count e) (active : e.isActive = true)
    (still : e.advance.isActive = true) : start.Retraces (count + 1) e.advance := by
  rcases Option.isSome_iff_exists.mp (e.advance_spends.2 still).1 with ⟨following, reached⟩
  have entering := advance_entered reached
  cases retraces with
  | begun fresh entered world =>
    refine .suspended [] reached ?_ ?_
    · rw [entering, entered, List.append_nil]
    · exact (advance_fresh active fresh).trans world
  | suspended before pending entered world =>
    -- Nobody has stopped the run, or it would not go on.
    have running : e.cancelled = false := by
      cases cancelled : e.cancelled with
      | false => rfl
      | true =>
        rw [advance_of_cancelled pending cancelled] at reached
        cases reached
    rename_i suspension
    have more : (before ++ [suspension.node]).length = before.length + 1 := List.length_append ..
    rw [← more]
    refine .suspended (before ++ [suspension.node]) reached ?_ ?_
    · rw [entering, entered]
      simp
    · rw [advance_effect pending running, world, effects_append]

end Retraces

theorem attend_retraces {start : Engine} (visits : Nat → List Meddling) (handsOff : ∀ n, ∀ m ∈ visits n, m.IsHandsOff)
    (first : start.Retraces 0 e) {n : Nat} (active : (e.attend visits n).isActive = true) :
    start.Retraces n (e.attend visits n) := by
  induction n with
  | zero => exact first
  | succ n ih =>
    have before := attend_active_of_le visits (Nat.le_succ n) active
    have same := visit_sameRun (visits n) before
    have visited := (ih before).of_same same (visit_world before (handsOff n))
    rw [attend_succ_of_active visits before] at active ⊢
    exact visited.advance (same.isActive.trans before) active

theorem armed_retraces (program : Body) (functions : FunctionTable) (speed interactive : Json) (e : Engine) :
    (e.armed program functions speed interactive).Retraces 0 (e.armed program functions speed interactive) :=
  .begun rfl rfl rfl

/-- From a suspension, an `advance` that nobody has stopped does to the world just what the instruction there does,
and a blocked move fails the run. So a run whose registers the host leaves alone stands, at each suspension, in the
world that the instructions entered before make of the one it was begun in. -/
theorem advance_effect_and_fold {first : Engine} {program : Body} {functions : FunctionTable}
    {speed interactive : Json} (begun : e.begin program functions speed interactive = (first, .ok ()))
    {visits : Nat → List Meddling} (handsOff : ∀ n, ∀ m ∈ visits n, m.IsHandsOff) :
    (∀ (reached : Engine) (suspension : Suspension), reached.pending? = some suspension → reached.cancelled = false →
      reached.advance.world = suspension.node.effect reached.world ∧
      let next := World.cellTowards reached.world.robot.direction.degrees reached.world.robot.cell
      (suspension.node = .move → ¬World.IsOpen reached.world.board.size reached.world.board.obstacles next →
        reached.advance.result? = some ⟨.failed (.collision next), reached.world, reached.executed⟩)) ∧
    ∀ (k : Nat) (suspension : Suspension), (first.attend visits k).pending? = some suspension →
      ∃ nodes, (first.attend visits k).entered = first.entered ++ nodes ∧ nodes.length = k ∧
        nodes.getLast? = some suspension.node ∧
        (first.attend visits k).world = effects (nodes.take (k - 1)) e.world := by
  constructor
  · intro reached suspension pending running
    rw [World.cellTowards_ahead]
    exact ⟨advance_effect pending running, advance_blocked pending running⟩
  · intro k suspension pending
    rcases armed_of_begin begun with rfl
    have active := isActive_of_pending pending
    have retraces := attend_retraces visits handsOff (armed_retraces program functions speed interactive e) active
    cases retraces with
    | begun fresh entered world =>
      -- A run that was only begun is not suspended.
      rw [fresh] at pending
      cases pending
    | suspended before found entered world =>
      rw [found] at pending
      cases pending
      refine ⟨before ++ [suspension.node], ?_, ?_, ?_, ?_⟩
      · rw [entered, List.append_assoc]
      · exact List.length_append ..
      · exact List.getLast?_concat
      · rw [world]
        simp
        rfl

/-- In front of the second call from a loop: a move, a body of a function and another move are behind the run, while
its host has changed its mind about stepping at every suspension. -/
theorem advance_effect_and_fold_nested :
    let e : Engine :=
      { world := .ofBoard { size := 3, start := ⟨⟨0, 0⟩, .right, false⟩, goal := ⟨1, 1⟩, obstacles := [⟨2, 0⟩] }
        draws := .ofList [], observers := [.console "Run" true], baseDelay := .int 0, callLimit := .ofInt 1 }
    let functions : FunctionTable := [(.str "f", [.increment .r1, .ifThen (.sensor .wallAhead) [.turnRight]])]
    let program : Body := [.repeatTimes (.int 2) [.move, .call (.str "f")]]
    let visits (n : Nat) : List Meddling := [.interactive (.bool (n % 2 == 0)), .begin [] [] (.int 1) (.bool false)]
    let reached := (e.armed program functions (.int 5) (.bool true)).attend visits 8
    ∃ nodes, reached.entered = nodes ∧ nodes.length = 8 ∧ reached.world = effects (nodes.take 7) e.world ∧
      reached.world.robot.cell = ⟨1, 1⟩ ∧ reached.world.registers = ⟨1, 0, 0, 0⟩ := by
  intro e functions program visits reached
  have positive : Relation.greater.check (.int 5) (.int 0) = .ok true := rfl
  have begun := begin_eq_armed (e := e) program functions (.bool true) rfl positive
  have handsOff : ∀ n, ∀ m ∈ visits n, m.IsHandsOff := by
    intro n m member
    simp only [visits, List.mem_cons, List.not_mem_nil, or_false] at member
    rcases member with rfl | rfl <;> trivial
  have suspended : reached.pending?.isSome = true := by decide +kernel
  rcases Option.isSome_iff_exists.mp suspended with ⟨suspension, pending⟩
  rcases (advance_effect_and_fold begun handsOff).2 8 suspension pending with ⟨nodes, entered, length, -, world⟩
  exact ⟨nodes, entered, length, world, by decide +kernel, by decide +kernel⟩

end Engine

end GridRobot
