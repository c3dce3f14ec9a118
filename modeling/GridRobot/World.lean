import GridRobot.World.Board
import GridRobot.World.Register

/-!
A board with a robot on it and the registers. Only the robot's pose and the registers ever change. A world is shown as
data, and as a picture of text with one line a row.
-/
namespace GridRobot

/-! ### Room for a board

A board is laid out with a byte a cell. Whether there is room is up to the machine: nothing is said of it here but what
it may answer. `Allocation.within` is a machine with so much memory. -/

inductive CapacityFault
  | side
  | area
  | memory (size : Nat)
deriving DecidableEq

/-- What it comes to when a machine lays out a board of some side. Asked again, it answers the same. -/
abbrev Allocation := Nat → Except CapacityFault Unit

/-- A machine that counts sides and areas in 63 bits and has so many bytes to give. -/
def Allocation.within (memory : Nat) : Allocation := fun size =>
  let countLimit := Nat.pow 2 63
  if countLimit ≤ size then .error .side
  else if countLimit ≤ size * size then .error .area
  else if memory < size * size then .error (.memory size)
  else .ok ()

namespace Capacity

def unitNames : List String := ["bytes", "KiB", "MiB", "GiB", "TiB", "PiB", "EiB"]

def decimals (places num den : Nat) : String :=
  let digits := Nat.toDigits 10 (Binary64.roundHalfEven (num * Nat.pow 10 places) den)
  String.ofList (digits.take (digits.length - places) ++ '.' :: digits.drop (digits.length - places))

def significant (num den : Nat) : String :=
  let rounds (places : Nat) := Binary64.roundHalfEven (num * Nat.pow 10 places) den < 1000
  decimals (if rounds 2 then 2 else if rounds 1 then 1 else 0) num den

def amount (bytes : Nat) : String :=
  let scale := bytes.log2 / 10
  let full := Binary64.roundHalfEven bytes (Nat.pow 1024 scale) == 1024
  let scale := if full then scale + 1 else scale
  significant bytes (Nat.pow 1024 scale) ++ " " ++ unitNames.getD scale "EiB"

end Capacity

def CapacityFault.message : CapacityFault → String
  | .side => "Maximum allowed dimension exceeded"
  | .area =>
    "array is too big; `arr.size * arr.dtype.itemsize` is larger than the maximum possible size."
  | .memory size =>
    "Unable to allocate " ++ Capacity.amount (size * size) ++ " for an array with shape (" ++ toString size ++
      ", " ++ toString size ++ ") and data type bool"

/-! ### Worlds -/

structure World where
  board : Board
  robot : Pose
  registers : Registers
deriving DecidableEq

inductive WorldFault
  | size (given : String)
  | capacity (fault : CapacityFault)
  | direction (degrees : Int)
  | turn (given : String)
deriving DecidableEq

namespace WorldFault

def message : WorldFault → String
  | .size given => "grid_size must be positive, got " ++ given
  | .capacity fault => fault.message
  | .direction n => "Direction must be one of [0, 90, 180, 270], got " ++ toString n
  | .turn given => "Turn delta must be +90 or -90, got " ++ given

end WorldFault

structure Collision where
  cell : Cell
deriving DecidableEq

namespace World

def ofBoard (b : Board) : World := ⟨b, b.start, Registers.zero⟩

def layOut (allocation : Allocation) (size : Nat) (start : Cell) (degrees : Int) (goal : Cell) (obstacles : List Cell) :
    Except WorldFault World := do
  (allocation size).mapError .capacity
  match Direction.ofDegrees? degrees with
  | some direction => return ofBoard { size, start := { cell := start, direction }, goal, obstacles }
  | none => throw (.direction degrees)

def create (allocation : Allocation) (size : Int) (start : Cell) (degrees : Int) (goal : Cell)
    (obstacles : List Cell) : Except WorldFault World :=
  if 0 < size then layOut allocation size.toNat start degrees goal obstacles else .error (.size (toString size))

def reset (w : World) : World := ofBoard w.board

def ahead (w : World) : Cell := w.robot.ahead

def wallAhead (w : World) : Bool := !w.board.isFree w.ahead

def goalAhead (w : World) : Bool := w.ahead == w.board.goal

def atGoal (w : World) : Bool := w.robot.cell == w.board.goal

def move (w : World) : Except Collision World :=
  if w.wallAhead then .error ⟨w.ahead⟩
  else .ok { w with robot.cell := w.ahead }

def turnRight (w : World) : World := { w with robot.direction := w.robot.direction.clockwise }

def turnLeft (w : World) : World := { w with robot.direction := w.robot.direction.counterclockwise }

/-- A quarter turn given in degrees, positive to the right. A turn by a double leaves the direction a
double. -/
def turn (w : World) (degrees : Json) : Except WorldFault World :=
  let marked (turned : World) : World :=
    { turned with robot.isDouble := w.robot.isDouble || degrees.kindName == "float" }
  if degrees.same (.int 90) then .ok (marked w.turnRight)
  else if degrees.same (.int (-90)) then .ok (marked w.turnLeft)
  else .error (.turn degrees.text)

def assign (w : World) (r : Register) (value : Int) : World := { w with registers := w.registers.set r value }

end World

/-! ### Pictures

The robot is an arrow, the goal is G, obstacles are # and all else dots. -/

namespace World

def cellJson (c : Cell) : Json := .obj [("x", .int c.x), ("y", .int c.y)]

def snapshot (w : World) : Json := .obj [
  ("gridSize", .int w.board.size),
  ("player", .obj [
    ("x", .int w.robot.cell.x), ("y", .int w.robot.cell.y),
    ("direction", .num w.robot.degrees),
    ("dx", .int w.robot.direction.step.x), ("dy", .int w.robot.direction.step.y)]),
  ("goal", cellJson w.board.goal),
  ("obstacles", .arr (w.board.obstacleList.map cellJson)),
  ("registers", w.registers.toJson)]

def arrow : Direction → String
  | .right => ">"
  | .down => "v"
  | .left => "<"
  | .up => "^"

/-- The sign at one cell; the robot hides the goal and the goal an obstacle. -/
def sign (w : World) (robot : String) (x y : Nat) : String :=
  if w.robot.cell == ⟨x, y⟩ then robot
  else if w.board.goal == ⟨x, y⟩ then "G"
  else if w.board.grid.blocked x y then "#"
  else "."

def row (w : World) (robot : String) (y : Nat) : String :=
  String.intercalate " " ((List.range w.board.size).map fun x => w.sign robot x y)

def pictureWith (w : World) (robot : String) : String :=
  String.intercalate "\n" ((List.range w.board.size).map (w.row robot))

def picture (w : World) : String := w.pictureWith (arrow w.robot.direction)

inductive MarkerFault
  | notDegrees (fault : Json.IntegerFault)
  | missing (degrees : Number)
  | notText (column : Nat) (marker : Json)

def MarkerFault.message : MarkerFault → String
  | .notDegrees fault => fault.message
  | .missing degrees => degrees.text
  | .notText column marker =>
    "sequence item " ++ toString column ++ ": expected str instance, " ++ marker.kindName ++ " found"

def markerFor (markers : Fields) (direction : Direction) : Except MarkerFault (Option Json) :=
  markers.foldlM (fun found (degrees, marker) => do
    let degrees ← (Json.str degrees).toInteger.mapError .notDegrees
    return if degrees = direction.degrees then some marker else found) none

/-- A picture with markers of one's own, given by degrees; no markers at all are the usual arrows. A robot
on the board needs a marker for its direction. -/
def pictureMarked (w : World) (markers : Fields) : Except MarkerFault String := do
  if markers.isEmpty then return w.picture
  match ← markerFor markers w.robot.direction with
  | some (.str robot) => return w.pictureWith robot
  | some marker =>
    if w.board.contains w.robot.cell then throw (.notText w.robot.cell.x.toNat marker)
    else return w.pictureWith ""
  | none => if w.board.contains w.robot.cell then throw (.missing w.robot.degrees) else return w.pictureWith ""

end World

end GridRobot
