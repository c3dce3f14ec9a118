import GridRobot.Proofs.World.Whereabouts
import GridRobot.Run.Evaluation
import GridRobot.World
import GridRobot.World.Values

/-!
What can be made out of a world. Which places may be entered, what the sensors tell, whether the robot can step, and what
the picture shows at each cell all come from the obstacles that were given, wherever these lie and however often they are
listed. So `World.Appears` holds of a world at any time.
-/
namespace GridRobot

theorem intercalate_singletons (separator : Char) (chars : List Char) :
    [separator].intercalate (chars.map fun c => [c]) = chars.intersperse separator := by
  unfold List.intercalate
  induction chars with
  | nil => rfl
  | cons c rest ih =>
    cases rest with
    | nil => rfl
    | cons d rest =>
      rw [List.map_cons] at ih
      rw [List.map_cons, List.map_cons, List.intersperse_cons_cons, List.flatten_cons, List.flatten_cons, ih]
      rfl

theorem mem_intersperse {separator c : Char} {chars : List Char} (member : c ∈ chars.intersperse separator) :
    c = separator ∨ c ∈ chars := by
  induction chars with
  | nil => cases member
  | cons d rest ih =>
    cases rest with
    | nil => exact .inr member
    | cons e rest =>
      simp only [List.intersperse_cons_cons, List.mem_cons] at member ih ⊢
      rcases member with here | between | later
      · exact .inr (.inl here)
      · exact .inl between
      · exact (ih later).imp_right .inr

namespace World

def arrows : List (Int × Char) := [(0, '>'), (90, 'v'), (180, '<'), (270, '^')]

def signAt (goal : Cell) (obstacles : List Cell) (arrow : Char) (w : World) (c : Cell) : Char :=
  if w.robot.cell = c then arrow else if goal = c then 'G' else if c ∈ obstacles then '#' else '.'

/-- Lines show a square of signs, row by row, with a blank between the signs of a row. -/
structure Depicts (size : Nat) (sign : Nat → Nat → Char) (lines : List (List Char)) : Prop where
  height : lines.length = size
  width : ∀ row ∈ lines, row.length = 2 * size - 1
  signs : ∀ x < size, ∀ y < size, (lines[y]?.bind fun row => row[2 * x]?) = some (sign x y)
  gaps : ∀ x, x + 1 < size → ∀ row ∈ lines, row[2 * x + 1]? = some ' '

/-- What is true at any time of a world that was laid out with a goal and some obstacles. -/
structure Appears (size : Nat) (goal : Cell) (obstacles : List Cell) (w : World) : Prop where
  /-- The open cells may be entered, and no others. -/
  enterable : ∀ x y : Int, ∃ free, w.board.isFreeAt (.int x) (.int y) = .ok free ∧
    (free = true ↔ IsOpen size obstacles ⟨x, y⟩)
  /-- The sensors tell whether the cell ahead is open. -/
  sensed : ∃ free, (free = true ↔ IsOpen size obstacles w.ahead) ∧ ∀ draws,
    (Condition.sensor .wallAhead).evaluate w draws = { value := .ok !free, draws } ∧
      (Condition.sensor .pathClear).evaluate w draws = { value := .ok free, draws }
  /-- A step fails just if it is not, at that cell, and then it leaves the world as it is. -/
  blocked : ∀ collision, w.move = .error collision ↔ ¬ IsOpen size obstacles w.ahead ∧ collision = ⟨w.ahead⟩
  stays : ¬ IsOpen size obstacles w.ahead → w.operate .move = w
  /-- The picture with the usual arrows shows the robot, the goal and the obstacles. -/
  pictured : ∃ arrow ∈ arrows, (Json.num w.robot.degrees).same (.int arrow.1) = true ∧
    ∃ text, w.pictureMarked [] = .ok text ∧
      Depicts size (fun x y => signAt goal obstacles arrow.2 w ⟨x, y⟩) (text.toList.splitOn '\n')

theorem depicts_rows {size : Nat} (positive : 0 < size) {sign : Nat → Nat → Char} (solid : ∀ x y, sign x y ≠ '\n')
    {rows : List String} (each : rows.map String.toList =
      (List.range size).map fun y => ((List.range size).map fun x => sign x y).intersperse ' ') :
    Depicts size sign ((String.intercalate "\n" rows).toList.splitOn '\n') := by
  -- No sign breaks a line, so the lines are the rows.
  have lines : (String.intercalate "\n" rows).toList.splitOn '\n' = rows.map String.toList := by
    rw [String.toList_intercalate, each]
    apply List.splitOn_intercalate
    · intro line member broken
      obtain ⟨y, -, rfl⟩ := List.mem_map.mp member
      rcases mem_intersperse broken with blank | listed
      · exact absurd blank (by decide)
      · obtain ⟨x, -, same⟩ := List.mem_map.mp listed
        exact solid x y same
    · simp only [ne_eq, List.map_eq_nil_iff, List.range_eq_nil]
      omega
  rw [lines, each]
  constructor
  · simp
  · intro line member
    obtain ⟨y, -, rfl⟩ := List.mem_map.mp member
    simp
  · intro x left y top
    simp [left, top]
  · intro x left line member
    obtain ⟨y, -, rfl⟩ := List.mem_map.mp member
    exact List.getElem?_intersperse_two_mul_add_one (by simpa using left)

variable {w : World}

theorem sign_toList {robot : String} {arrow : Char} (drawn : robot.toList = [arrow]) {x y : Nat}
    (left : x < w.board.size) (top : y < w.board.size) :
    (w.sign robot x y).toList = [signAt w.board.goal w.board.obstacles arrow w ⟨x, y⟩] := by
  have blocked := Occupancy.blocked_ofCells w.board.obstacles left top
  rw [← w.board.marked] at blocked
  unfold sign signAt
  simp only [beq_iff_eq, blocked]
  split
  · exact drawn
  · split
    · rfl
    · split <;> rfl

theorem arrow_listed (p : Pose) : ∃ sign ∈ arrows, (Json.num p.degrees).same (.int sign.1) = true ∧
    (arrow p.direction).toList = [sign.2] := by
  have faces : ∃ sign ∈ arrows, p.direction.degrees = sign.1 ∧ (arrow p.direction).toList = [sign.2] := by
    cases p.direction <;> decide
  obtain ⟨sign, listed, same, drawn⟩ := faces
  exact ⟨sign, listed, same ▸ degrees_same p, drawn⟩

theorem picture_depicts (positive : 0 < w.board.size) {arrow : Char} (drawn : (World.arrow w.robot.direction).toList = [arrow])
    (solid : arrow ≠ '\n') :
    Depicts w.board.size (fun x y => signAt w.board.goal w.board.obstacles arrow w ⟨x, y⟩)
      (w.picture.toList.splitOn '\n') := by
  apply depicts_rows positive
  · intro x y
    unfold signAt
    split
    · exact solid
    · split
      · decide
      · split <;> decide
  · rw [List.map_map]
    apply List.map_congr_left
    intro y member
    have signs : ((List.range w.board.size).map fun x => w.sign (World.arrow w.robot.direction) x y).map String.toList =
        ((List.range w.board.size).map fun x : Nat => signAt w.board.goal w.board.obstacles arrow w ⟨x, y⟩).map
          fun c => [c] := by
      rw [List.map_map, List.map_map]
      apply List.map_congr_left
      intro x inside
      exact sign_toList drawn (List.mem_range.mp inside) (List.mem_range.mp member)
    rw [Function.comp_apply, row, String.toList_intercalate, signs]
    exact intercalate_singletons ' ' _

theorem move_error_iff (collision : Collision) :
    w.move = .error collision ↔ w.wallAhead = true ∧ collision = ⟨w.ahead⟩ := by
  unfold move
  split
  · simp [*, eq_comm]
  · simp [*]

/-- Whatever is done with a world that was laid out, it appears as its goal and its obstacles make it. -/
theorem evolves_appears {allocation : Allocation} {size : Nat} {start goal : Cell} {degrees : Int}
    {obstacles : List Cell} {first w : World} (positive : 0 < size)
    (laid : layOut allocation size start degrees goal obstacles = .ok first) (evolves : first.Evolves w) :
    w.Appears size goal obstacles := by
  obtain ⟨board, rfl, rfl, rfl, rfl, rfl⟩ := layOut_eq laid
  obtain rfl := (evolves_roams (.ofBoard board) evolves).onBoard
  have wall : w.wallAhead = true ↔ ¬ IsOpen w.board.size w.board.obstacles w.ahead := by
    rw [wallAhead, Bool.not_eq_true', ← Bool.not_eq_true, Board.isFree_iff]
    rfl
  constructor
  · intro x y
    exact ⟨_, w.board.isFreeAt_int x y, w.board.isFree_iff ⟨x, y⟩⟩
  · exact ⟨w.board.isFree w.ahead, w.board.isFree_iff w.ahead, fun draws => ⟨rfl, by
      simp [Condition.evaluate, Condition.sense, wallAhead]⟩⟩
  · intro collision
    rw [move_error_iff, wall]
  · intro closed
    rw [operate, (move_error_iff ⟨w.ahead⟩).mpr ⟨wall.mpr closed, rfl⟩]
  · obtain ⟨sign, listed, faces, drawn⟩ := arrow_listed w.robot
    have solid : ∀ sign ∈ arrows, sign.2 ≠ '\n' := by decide
    exact ⟨sign, listed, faces, w.picture, rfl, picture_depicts positive drawn (solid sign listed)⟩

/-- Obstacles to the left of the grid, below it and twice in one place. A run has taken the robot to the second row, in
front of the one inside. -/
theorem evolves_appears_beside_obstacle :
    let obstacles : List Cell := [⟨2, 1⟩, ⟨-1, 0⟩, ⟨0, 5⟩, ⟨2, 1⟩]
    let first := World.ofBoard { size := 3, start := ⟨⟨1, 0⟩, .down, false⟩, goal := ⟨0, 2⟩, obstacles }
    let e : Engine :=
      { world := first, draws := .ofList [], observers := [], baseDelay := .int 0, callLimit := .ofInt 1 }
    let w := (e.undergo (.run [.move, .turnLeft] [] (.int 5) (.bool false) none)).world
    layOut (.within 9) 3 ⟨1, 0⟩ 90 ⟨0, 2⟩ obstacles = .ok first ∧ w.robot.cell = ⟨1, 1⟩ ∧ w.move = .error ⟨⟨2, 1⟩⟩ ∧
      w.picture = ". . .\n. > #\nG . ." ∧ w.Appears 3 ⟨0, 2⟩ obstacles := by
  intro obstacles first e w
  have laid : layOut (.within 9) 3 ⟨1, 0⟩ 90 ⟨0, 2⟩ obstacles = .ok first := rfl
  have evolves : first.Evolves w := .call _ trivial (.start : first.Evolves e.world)
  have wall : w.wallAhead = true ∧ (⟨⟨2, 1⟩⟩ : Collision) = ⟨w.ahead⟩ := by decide +kernel
  have appears := evolves_appears (by decide) laid evolves
  exact ⟨laid, by decide +kernel, (move_error_iff _).mpr wall, by decide +kernel, appears⟩

end World

end GridRobot
