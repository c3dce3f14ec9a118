import GridRobot.Number.Decimal

/-!
The board of a level: a square grid with a goal, obstacles and a start. Obstacles may be listed
anywhere and more than once; the occupancy of the grid knows those inside, counted row by row.
-/
namespace GridRobot

inductive Direction
  | right | down | left | up
deriving DecidableEq, Inhabited

namespace Direction

def degrees : Direction → Int
  | .right => 0
  | .down => 90
  | .left => 180
  | .up => 270

def all : List Direction := [.right, .down, .left, .up]

def ofDegrees? (n : Int) : Option Direction := all.find? fun d => d.degrees == n

theorem ofDegrees?_degrees (d : Direction) : ofDegrees? d.degrees = some d := by cases d <;> decide

theorem degrees_of_ofDegrees? {n : Int} {d : Direction} (found : ofDegrees? n = some d) : d.degrees = n := by
  simpa using List.find?_some found

def clockwise : Direction → Direction
  | .right => .down
  | .down => .left
  | .left => .up
  | .up => .right

def counterclockwise : Direction → Direction
  | .right => .up
  | .up => .left
  | .left => .down
  | .down => .right

end Direction

structure Cell where
  x : Int
  y : Int
deriving DecidableEq, Inhabited

namespace Cell

def le (a b : Cell) : Bool := a.x < b.x || (a.x == b.x && a.y ≤ b.y)

end Cell

/-- The unit step; rows grow downwards. -/
def Direction.step : Direction → Cell
  | .right => ⟨1, 0⟩
  | .down => ⟨0, 1⟩
  | .left => ⟨-1, 0⟩
  | .up => ⟨0, -1⟩

structure Pose where
  cell : Cell
  direction : Direction
  /-- The degrees of the direction are kept as a double. -/
  isDouble : Bool := false
deriving DecidableEq, Inhabited

namespace Pose

def degrees (p : Pose) : Number :=
  if p.isDouble then .float (Binary64.ofInt p.direction.degrees) else .int p.direction.degrees

def ahead (p : Pose) : Cell := ⟨p.cell.x + p.direction.step.x, p.cell.y + p.direction.step.y⟩

end Pose

/-- The blocked cells of a square grid, by their places in the order of rows. -/
structure Occupancy where
  size : Nat
  places : List Nat
deriving DecidableEq

namespace Occupancy

def place? (size : Nat) (c : Cell) : Option Nat :=
  if 0 ≤ c.x ∧ c.x < size ∧ 0 ≤ c.y ∧ c.y < size then some (c.y.toNat * size + c.x.toNat) else none

/-- Cells outside the grid leave no mark. -/
def ofCells (size : Nat) (cells : List Cell) : Occupancy := ⟨size, cells.filterMap (place? size)⟩

def blocked (grid : Occupancy) (x y : Nat) : Bool := grid.places.contains (y * grid.size + x)

theorem place_injective {size x y column row : Nat} (inside : x < size) (inside' : column < size)
    (same : y * size + x = row * size + column) : x = column ∧ y = row := by
  have positive : 0 < size := by omega
  have rows (a b : Nat) (low : a < size) : (b * size + a) / size = b := by
    rw [Nat.mul_comm, Nat.mul_add_div positive, Nat.div_eq_of_lt low, Nat.add_zero]
  have columns (a b : Nat) (low : a < size) : (b * size + a) % size = a := by
    rw [Nat.mul_comm, Nat.mul_add_mod, Nat.mod_eq_of_lt low]
  exact ⟨by rw [← columns x y inside, same, columns column row inside'],
    by rw [← rows x y inside, same, rows column row inside']⟩

theorem blocked_ofCells {size x y : Nat} (cells : List Cell) (column : x < size) (row : y < size) :
    (ofCells size cells).blocked x y = true ↔ ⟨x, y⟩ ∈ cells := by
  simp only [blocked, ofCells, List.contains_iff_mem, List.mem_filterMap]
  constructor
  · rintro ⟨⟨a, b⟩, member, at_place⟩
    simp only [place?, Option.ite_none_right_eq_some, Option.some.injEq] at at_place
    obtain ⟨⟨left, right, top, bottom⟩, same⟩ := at_place
    obtain ⟨here, there⟩ := place_injective (by omega) column same
    have : (⟨a, b⟩ : Cell) = ⟨x, y⟩ := by
      simp only [Cell.mk.injEq]
      omega
    exact this ▸ member
  · intro member
    refine ⟨_, member, ?_⟩
    simp only [place?, Int.toNat_natCast, Option.ite_none_right_eq_some, and_true]
    omega

end Occupancy

structure Board where
  size : Nat
  start : Pose
  goal : Cell
  obstacles : List Cell
  grid : Occupancy := Occupancy.ofCells size obstacles
  marked : grid = Occupancy.ofCells size obstacles := by rfl
deriving DecidableEq

namespace Board

def contains (b : Board) (c : Cell) : Bool := 0 ≤ c.x && c.x < b.size && 0 ≤ c.y && c.y < b.size

def isFree (b : Board) (c : Cell) : Bool := b.contains c && !b.grid.blocked c.x.toNat c.y.toNat

theorem isFree_iff (b : Board) (c : Cell) : b.isFree c = true ↔
    (0 ≤ c.x ∧ c.x < b.size) ∧ (0 ≤ c.y ∧ c.y < b.size) ∧ c ∉ b.obstacles := by
  have mark (inside : (0 ≤ c.x ∧ c.x < b.size) ∧ (0 ≤ c.y ∧ c.y < b.size)) :
      b.grid.blocked c.x.toNat c.y.toNat = true ↔ c ∈ b.obstacles := by
    obtain ⟨⟨left, right⟩, top, bottom⟩ := inside
    rw [b.marked, Occupancy.blocked_ofCells _ (by omega) (by omega), Int.toNat_of_nonneg left,
      Int.toNat_of_nonneg top]
  simp only [isFree, contains, Bool.and_eq_true, decide_eq_true_eq, Bool.not_eq_true', ← Bool.not_eq_true]
  constructor
  · rintro ⟨⟨⟨⟨left, right⟩, top⟩, bottom⟩, free⟩
    exact ⟨⟨left, right⟩, ⟨top, bottom⟩, fun member => free ((mark ⟨⟨left, right⟩, top, bottom⟩).mpr member)⟩
  · rintro ⟨⟨left, right⟩, ⟨top, bottom⟩, free⟩
    exact ⟨⟨⟨⟨left, right⟩, top⟩, bottom⟩, fun hit => free ((mark ⟨⟨left, right⟩, top, bottom⟩).mp hit)⟩

def obstacleList (b : Board) : List Cell := (b.obstacles.mergeSort Cell.le).eraseReps

end Board

end GridRobot
