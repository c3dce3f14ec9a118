import GridRobot.Proofs.Run.Calls
import GridRobot.Proofs.Run.Effect

/-!
Where the robot can be. A world is changed by four operations, and whatever an engine does to its world comes down to
these. None of them touches the board, and the robot only goes to a free cell or back to where it started. So
`World.Whereabouts` holds of a world whoever uses it, and in whatever order.
-/
namespace GridRobot

inductive WorldOperation
  | move
  | turn (degrees : Json)
  | write (register value : Json)
  | reset

/-- The host does not give the engine another world. -/
def HostCall.KeepsWorld : HostCall → Prop
  | .meddle (.setWorld _) => False
  | _ => True

namespace World

def operate (w : World) : WorldOperation → World
  | .move => match w.move with
    | .ok next => next
    | .error _ => w
  | .turn degrees => match w.turn degrees with
    | .ok next => next
    | .error _ => w
  | .write register value => match w.registers.write register value with
    | .ok registers => { w with registers }
    | .error _ => w
  | .reset => w.reset

def operateAll (operations : List WorldOperation) (w : World) : World := operations.foldl operate w

/-- What becomes of a world: anybody may operate on it, and engines may use it, whatever they are up to and however
their hosts call them. -/
inductive Evolves (first : World) : World → Prop
  | start : Evolves first first
  | operate {w : World} (operation : WorldOperation) (before : Evolves first w) : Evolves first (w.operate operation)
  | call {e : Engine} (call : HostCall) (keeps : call.KeepsWorld) (before : Evolves first e.world) :
    Evolves first (e.undergo call).world

/-- The robot is where it started or at a free cell, on the board that it was given. -/
structure Roams (board : Board) (w : World) : Prop where
  onBoard : w.board = board
  cell : w.robot.cell = board.start.cell ∨ board.isFree w.robot.cell = true

namespace Roams

variable {board : Board} {w next : World}

theorem ofBoard (board : Board) : (World.ofBoard board).Roams board := ⟨rfl, .inl rfl⟩

theorem of_same (roams : w.Roams board) (sameBoard : next.board = w.board) (sameCell : next.robot.cell = w.robot.cell) :
    next.Roams board where
  onBoard := sameBoard.trans roams.onBoard
  cell := sameCell ▸ roams.cell

theorem move (roams : w.Roams board) (moved : w.move = .ok next) : next.Roams board := by
  unfold World.move at moved
  by_cases blocked : w.wallAhead = true
  · rw [if_pos blocked] at moved
    cases moved
  · rw [if_neg blocked] at moved
    cases moved
    have free : w.board.isFree w.ahead = true := by simpa [wallAhead] using blocked
    constructor
    · exact roams.onBoard
    · exact .inr (roams.onBoard ▸ free)

theorem turn (roams : w.Roams board) {degrees : Json} (turned : w.turn degrees = .ok next) : next.Roams board := by
  unfold World.turn at turned
  dsimp only at turned
  split at turned
  · cases turned
    exact roams.of_same rfl rfl
  · split at turned
    · cases turned
      exact roams.of_same rfl rfl
    · cases turned

theorem operate (roams : w.Roams board) (operation : WorldOperation) : (w.operate operation).Roams board := by
  fun_cases World.operate w operation with
  | case1 next moved => exact roams.move moved
  | case3 degrees next turned => exact roams.turn turned
  | case5 register value registers written => exact roams.of_same rfl rfl
  | case7 => exact roams.onBoard ▸ ofBoard w.board
  | case2 | case4 | case6 => exact roams

theorem operateAll (roams : w.Roams board) (operations : List WorldOperation) :
    (w.operateAll operations).Roams board := by
  induction operations generalizing w with
  | nil => exact roams
  | cons operation rest ih => exact ih (roams.operate operation)

end Roams

theorem operateAll_append (operations more : List WorldOperation) (w : World) :
    w.operateAll (operations ++ more) = (w.operateAll operations).operateAll more := List.foldl_append

end World

open World (operateAll_append)

namespace Register

theorem find_name (r : Register) : find (.str r.name) = .ok r := by
  cases r <;> rfl

theorem find_str (text : String) :
    find (.str text) = match ofName? text with
      | some r => .ok r
      | none => .error (.unknown (Json.str text).text) := rfl

theorem eq_name_of_find {given : Json} {r : Register} (found : find given = .ok r) : given = .str r.name := by
  cases given with
  | str text =>
    rw [find_str] at found
    cases named : ofName? text with
    | none =>
      rw [named] at found
      cases found
    | some s =>
      rw [named] at found
      cases found
      rw [ofName?_eq_some named]
  | _ => cases found

end Register

theorem World.operate_write (w : World) (r : Register) (value : Json) :
    w.operate (.write (.str r.name) value) = Instruction.effect (.assign r value) w := by
  simp only [operate, Registers.write, Register.find_name, Instruction.effect, bind, Except.bind]
  cases value.toInteger with
  | error fault => rfl
  | ok n => exact (holding_eq r n w).symm

theorem World.operate_right (w : World) : w.operate (.turn (.int 90)) = w.turnRight := by
  have right : (Json.int 90).same (.int 90) = true := by decide
  have exact : ((Json.int 90).kindName == "float") = false := rfl
  simp [operate, turn, right, exact, turnRight]

theorem World.operate_left (w : World) : w.operate (.turn (.int (-90))) = w.turnLeft := by
  have right : (Json.int (-90)).same (.int 90) = false := by decide
  have left : (Json.int (-90)).same (.int (-90)) = true := by decide
  have exact : ((Json.int (-90)).kindName == "float") = false := rfl
  simp [operate, turn, right, left, exact, turnLeft]

theorem Instruction.effect_operates (node : Instruction) (w : World) :
    ∃ operations, node.effect w = w.operateAll operations := by
  cases node with
  | move => exact ⟨[.move], effect_move w⟩
  | turnLeft =>
    refine ⟨[.turn (.int (-90))], ?_⟩
    rw [World.operateAll, List.foldl_cons, List.foldl_nil, w.operate_left]
    exact w.turnedBy_left
  | turnRight =>
    refine ⟨[.turn (.int 90)], ?_⟩
    rw [World.operateAll, List.foldl_cons, List.foldl_nil, w.operate_right]
    exact w.turnedBy_right
  | assign r value => exact ⟨[.write (.str r.name) value], (w.operate_write r value).symm⟩
  | increment r => exact ⟨[.write (.str r.name) _], (w.operate_write r (.int (w.registers.get r + 1))).symm⟩
  | decrement r => exact ⟨[.write (.str r.name) _], (w.operate_write r (.int (w.registers.get r - 1))).symm⟩
  | _ => exact ⟨[], rfl⟩

namespace Engine

def Operates (e next : Engine) : Prop := ∃ operations, next.world = e.world.operateAll operations

variable {e next : Engine}

theorem Operates.of_same (same : next.world = e.world) : e.Operates next := ⟨[], same⟩

theorem Operates.trans {mid : Engine} (first : e.Operates mid) (second : mid.Operates next) : e.Operates next := by
  obtain ⟨operations, here⟩ := first
  obtain ⟨more, there⟩ := second
  exact ⟨operations ++ more, by rw [there, here, operateAll_append]⟩

theorem advance_operates (e : Engine) : e.Operates e.advance := by
  cases active : e.isActive with
  | false => exact .of_same (by rw [advance_of_over active])
  | true =>
    -- Before its first instruction a run does nothing to the world, and once it is stopped neither.
    cases pending : e.pending? with
    | none => exact .of_same (advance_fresh active pending)
    | some suspension =>
      cases cancelled : e.cancelled with
      | true => exact .of_same (by rw [advance_of_cancelled pending cancelled]; rfl)
      | false =>
        obtain ⟨operations, same⟩ := suspension.node.effect_operates e.world
        exact ⟨operations, (advance_effect pending cancelled).trans same⟩

theorem begin_world (program : Body) (functions : FunctionTable) (speed interactive : Json) (e : Engine) :
    (e.begin program functions speed interactive).1.world = e.world := by
  unfold begin
  split
  · rfl
  · split <;> rfl

theorem meddle_operates {meddling : Meddling} (keeps : (HostCall.meddle meddling).KeepsWorld) :
    e.Operates (e.meddle meddling) := by
  cases meddling with
  | interactive | cancel | observe | log => exact .of_same rfl
  | register name value =>
    refine ⟨[.write name value], ?_⟩
    unfold meddle World.operateAll
    simp only [List.foldl_cons, List.foldl_nil, World.operate]
    cases e.world.registers.write name value <;> rfl
  | begin program functions speed interactive => exact .of_same (begin_world ..)
  | setWorld world => exact keeps.elim

theorem undergo_operates {call : HostCall} (keeps : call.KeepsWorld) : e.Operates (e.undergo call) := by
  cases call with
  | advance =>
    rw [undergo, resume_engine]
    exact advance_operates e
  | meddle meddling => exact meddle_operates keeps
  | run program functions speed interactive actions =>
    by_cases begun : e.accepts (.run program functions speed interactive actions) = true
    · obtain ⟨heard, asked⟩ := Bool.and_eq_true_iff.mp begun
      obtain ⟨first, accepted⟩ := begin_of_begins asked
      rw [undergo, run_engine ((Bool.not_eq_true' _).mp heard) accepted]
      apply driveFrom_keeps (P := e.Operates)
      · intro reached operates
        exact operates.trans (advance_operates reached)
      · intro reached action operates
        cases action <;> exact operates
      · have same := begin_world program functions speed interactive e
        rw [accepted] at same
        exact .of_same same
    · rw [undergo]
      rcases run_declined (by simpa using begun) with same | noted
      · exact .of_same (by rw [same])
      · exact .of_same (by rw [noted]; rfl)

/-- A result that says success stands for a robot at the goal. -/
def WinsAtGoal (e : Engine) : Prop :=
  ∀ result, e.result? = some result → result.ending = .success → e.world.atGoal = true

theorem winsAtGoal_of_active (active : e.isActive = true) : e.WinsAtGoal := by
  intro result ended
  rw [result?_of_active active] at ended
  cases ended

theorem winsAtGoal_of_finish {ending : Ending} (wins : ending = .success → e.world.atGoal = true) :
    (e.finish ending).WinsAtGoal := by
  intro result ends success
  have ended : (e.finish ending).result? = some ⟨ending, e.world, e.executed⟩ := rfl
  rw [ended] at ends
  cases ends
  exact wins success

theorem winsAtGoal_of_stop (halt : Halt) : (e.stop halt).WinsAtGoal :=
  winsAtGoal_of_finish fun success => by cases halt <;> cases success

theorem winsAtGoal_of_conclude : e.conclude.WinsAtGoal := by
  unfold conclude
  split
  · rename_i there
    exact winsAtGoal_of_finish fun _ => there
  · exact winsAtGoal_of_finish (by simp)

theorem winsAtGoal_of_enter (node : Instruction) (frames : List Frame) : (e.enter node frames).WinsAtGoal := by
  rw [enter_eq]
  split
  · exact winsAtGoal_of_finish (by simp)
  · split
    · exact winsAtGoal_of_stop _
    · exact winsAtGoal_of_active rfl

theorem winsAtGoal_of_proceed (frames : List Frame) : (e.proceed frames).WinsAtGoal := by
  obtain ⟨mid, -, ends | ⟨-, ends⟩ | ⟨halt, ends⟩ | ⟨node, after, ends⟩⟩ := proceed_cases e frames
  · exact ends ▸ winsAtGoal_of_conclude
  · exact ends ▸ winsAtGoal_of_finish (by simp)
  · exact ends ▸ winsAtGoal_of_stop halt
  · exact ends ▸ winsAtGoal_of_enter node after

theorem WinsAtGoal.advance (wins : e.WinsAtGoal) : e.advance.WinsAtGoal := by
  fun_cases Engine.advance e with
  | case1 frames phase => exact winsAtGoal_of_proceed frames
  | case2 suspension frames phase cancelled => exact winsAtGoal_of_finish (by simp)
  | case3 suspension frames phase running next after performed => exact winsAtGoal_of_proceed after
  | case4 suspension frames phase running last performed =>
    obtain ⟨mid, halt, -, rfl⟩ := perform_ended performed
    exact winsAtGoal_of_stop halt
  | case5 phase | case6 result phase => exact wins

theorem undergo_winsAtGoal {call : HostCall} (runs : e.isActive = true ∨ e.accepts call = true) :
    (e.undergo call).WinsAtGoal := by
  -- Either the call begins a run and drives it, or it meets the run that is there.
  by_cases begun : e.accepts call = true
  · cases call with
    | advance => cases begun
    | meddle meddling =>
      cases meddling with
      | begin program functions speed interactive =>
        obtain ⟨next, accepted⟩ := begin_of_begins begun
        rw [undergo, meddle, accepted, armed_of_begin accepted]
        exact winsAtGoal_of_active rfl
      | _ => cases begun
    | run program functions speed interactive actions =>
      obtain ⟨heard, asked⟩ := Bool.and_eq_true_iff.mp begun
      obtain ⟨first, accepted⟩ := begin_of_begins asked
      rw [undergo, run_engine ((Bool.not_eq_true' _).mp heard) accepted]
      apply driveFrom_keeps (P := WinsAtGoal)
      · intro reached wins
        exact wins.advance
      · intro reached action wins
        cases action <;> exact wins
      · rw [armed_of_begin accepted]
        exact winsAtGoal_of_active rfl
  · have active : e.isActive = true := runs.resolve_right begun
    cases call with
    | advance =>
      rw [undergo, resume_engine]
      exact (winsAtGoal_of_active active).advance
    | meddle meddling =>
      have same := (meddle_sameRun active meddling).isActive
      exact winsAtGoal_of_active (same.trans active)
    | run program functions speed interactive actions =>
      rw [undergo]
      rcases run_declined (by simpa using begun) with same | noted
      · rw [same]
        exact winsAtGoal_of_active active
      · rw [noted]
        exact winsAtGoal_of_active active

end Engine

namespace World

def registerNames : List String := ["R1", "R2", "R3", "R4"]

/-- What is true at any time of a world that was laid out with a start, a goal and some obstacles. -/
structure Whereabouts (size : Nat) (start goal : Cell) (obstacles : List Cell) (w : World) : Prop where
  heading : ∃ bearing ∈ compass, (Json.num w.robot.degrees).same (.int bearing.1) = true ∧
    w.robot.direction.step = bearing.2
  sameSize : w.board.size = size
  sameGoal : w.board.goal = goal
  sameObstacles : w.board.obstacles = obstacles
  /-- What can be read are the four registers. -/
  registers : ∀ name, (∃ value, w.registers.read name = .ok value) ↔ ∃ text ∈ registerNames, name = .str text
  cell : w.robot.cell = start ∨ IsOpen size obstacles w.robot.cell
  /-- From an open start the robot never leaves the open cells. -/
  stays : IsOpen size obstacles start → IsOpen size obstacles w.robot.cell

theorem degrees_same (p : Pose) : (Json.num p.degrees).same (.int p.direction.degrees) = true := by
  unfold Pose.degrees
  cases p.isDouble <;> cases p.direction <;> decide +kernel

theorem heading_compass (p : Pose) :
    ∃ bearing ∈ compass, (Json.num p.degrees).same (.int bearing.1) = true ∧ p.direction.step = bearing.2 := by
  refine ⟨(p.direction.degrees, p.direction.step), ?_, degrees_same p, rfl⟩
  cases p.direction <;> decide

theorem read_iff (rs : Registers) (name : Json) :
    (∃ value, rs.read name = .ok value) ↔ ∃ text ∈ registerNames, name = .str text := by
  constructor
  · rintro ⟨value, read⟩
    cases found : Register.find name with
    | error fault => simp [Registers.read, found, bind, Except.bind] at read
    | ok r => exact ⟨r.name, by cases r <;> decide, Register.eq_name_of_find found⟩
  · rintro ⟨text, member, rfl⟩
    simp only [registerNames, List.mem_cons, List.not_mem_nil, or_false] at member
    rcases member with rfl | rfl | rfl | rfl
    · exact ⟨rs.r1, rfl⟩
    · exact ⟨rs.r2, rfl⟩
    · exact ⟨rs.r3, rfl⟩
    · exact ⟨rs.r4, rfl⟩

theorem evolves_roams {first w : World} {board : Board} (roams : first.Roams board) (evolves : first.Evolves w) :
    w.Roams board := by
  induction evolves with
  | start => exact roams
  | operate operation before ih => exact ih.operate operation
  | call call keeps before ih =>
    obtain ⟨operations, same⟩ := Engine.undergo_operates keeps
    exact same ▸ ih.operateAll operations

theorem layOut_eq {allocation : Allocation} {size : Nat} {start goal : Cell} {degrees : Int} {obstacles : List Cell}
    {first : World} (laid : layOut allocation size start degrees goal obstacles = .ok first) :
    ∃ board, first = ofBoard board ∧ board.size = size ∧ board.start.cell = start ∧ board.goal = goal ∧
      board.obstacles = obstacles := by
  unfold layOut at laid
  cases granted : allocation size with
  | error fault =>
    rw [granted] at laid
    cases laid
  | ok room =>
    rw [granted] at laid
    cases named : Direction.ofDegrees? degrees with
    | none =>
      rw [named] at laid
      cases laid
    | some direction =>
      rw [named] at laid
      cases laid
      exact ⟨_, rfl, rfl, rfl, rfl, rfl⟩

/-- Where the robot can be: whatever is done with a world that was laid out, its board stays as it was, and the robot
is where it started or at an open cell. So a run can only succeed with a goal that is one of these. -/
theorem evolves_whereabouts {allocation : Allocation} {size : Nat} {start goal : Cell} {degrees : Int}
    {obstacles : List Cell} {first : World} (laid : layOut allocation size start degrees goal obstacles = .ok first) :
    (∀ w, first.Evolves w → w.Whereabouts size start goal obstacles) ∧
      ∀ (e : Engine) (call : HostCall), first.Evolves e.world → call.KeepsWorld →
        e.isActive = true ∨ e.accepts call = true → ∀ result, (e.undergo call).result? = some result →
          result.ending = .success → goal = start ∨ IsOpen size obstacles goal := by
  obtain ⟨board, rfl, rfl, rfl, rfl, rfl⟩ := layOut_eq laid
  have cell {w : World} (roams : w.Roams board) :
      w.robot.cell = board.start.cell ∨ IsOpen board.size board.obstacles w.robot.cell :=
    roams.cell.imp id (board.isFree_iff _).mp
  constructor
  · intro w evolves
    have roams := evolves_roams (.ofBoard board) evolves
    constructor
    · exact heading_compass w.robot
    · rw [roams.onBoard]
    · rw [roams.onBoard]
    · rw [roams.onBoard]
    · exact read_iff w.registers
    · exact cell roams
    · intro free
      rcases cell roams with same | inside
      · exact same ▸ free
      · exact inside
  · intro e call evolves keeps runs result ended success
    have roams := evolves_roams (.ofBoard board) (.call call keeps evolves)
    -- A run succeeds only with its robot on the goal, so the goal is where a robot can be.
    have won := Engine.undergo_winsAtGoal runs result ended success
    rw [atGoal, roams.onBoard] at won
    exact eq_of_beq won ▸ cell roams

/-- A robot that starts outside enters the grid, turns and runs into an obstacle. The next run takes it to the goal. -/
theorem evolves_whereabouts_from_outside :
    let first := World.ofBoard
      { size := 3, start := ⟨⟨-1, 0⟩, .right, false⟩, goal := ⟨1, 0⟩, obstacles := [⟨7, 7⟩, ⟨0, 1⟩] }
    let e : Engine :=
      { world := first, draws := .ofList [], observers := [], baseDelay := .int 0, callLimit := .ofInt 1 }
    let blocked := e.undergo (.run [.move, .turnRight, .move] [] (.int 5) (.bool false) none)
    let last := HostCall.run [.turnLeft, .move] [] (.int 5) (.bool false) none
    layOut (.within 9) 3 ⟨-1, 0⟩ 0 ⟨1, 0⟩ [⟨7, 7⟩, ⟨0, 1⟩] = .ok first ∧
      blocked.result?.map RunResult.ending = some (.failed (.collision ⟨0, 1⟩)) ∧
      blocked.world.Whereabouts 3 ⟨-1, 0⟩ ⟨1, 0⟩ [⟨7, 7⟩, ⟨0, 1⟩] ∧
      (blocked.undergo last).result?.map RunResult.ending = some .success ∧
      ((⟨1, 0⟩ : Cell) = ⟨-1, 0⟩ ∨ IsOpen 3 [⟨7, 7⟩, ⟨0, 1⟩] ⟨1, 0⟩) := by
  intro first e blocked last
  have laid : layOut (.within 9) 3 ⟨-1, 0⟩ 0 ⟨1, 0⟩ [⟨7, 7⟩, ⟨0, 1⟩] = .ok first := rfl
  have evolves : first.Evolves blocked.world := .call _ trivial (.start : first.Evolves e.world)
  have ends : blocked.result?.map RunResult.ending = some (.failed (.collision ⟨0, 1⟩)) := by decide +kernel
  have succeeds : (blocked.undergo last).result?.map RunResult.ending = some .success := by decide +kernel
  have accepted : blocked.accepts last = true := by decide +kernel
  obtain ⟨result, ended, success⟩ := Option.map_eq_some_iff.mp succeeds
  obtain ⟨always, wins⟩ := evolves_whereabouts laid
  exact ⟨laid, ends, always _ evolves, succeeds,
    wins blocked last evolves trivial (.inr accepted) result ended success⟩

end World

end GridRobot
