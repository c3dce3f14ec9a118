import GridRobot.World

/-!
Levels and their documents. Numbers in a document may be anything that counts as an integer, the name
anything at all; description and hint are kept as they are.
-/
namespace GridRobot

structure Level where
  id : Int
  name : String
  size : Int
  start : Cell
  direction : Direction
  goal : Cell
  obstacles : List Cell
  description : Json
  hint : Json
deriving Inhabited

inductive LevelFault
  | missing (key : String)
  | notIndexable (value : Json)
  | noFields (value : Json)
  | notIterable (value : Json)
  | integer (fault : Json.IntegerFault)
  | direction (id : Json) (degrees : Int)

namespace LevelFault

def indexMessage : Json → String
  | .arr _ => "list indices must be integers or slices, not str"
  | .str _ => "string indices must be integers, not 'str'"
  | value => "'" ++ value.kindName ++ "' object is not subscriptable"

def message : LevelFault → String
  | .missing key => Text.quoted key
  | .notIndexable value => indexMessage value
  | .noFields value => "'" ++ value.kindName ++ "' object has no attribute 'get'"
  | .notIterable value => "'" ++ value.kindName ++ "' object is not iterable"
  | .integer fault => fault.message
  | .direction id degrees =>
    "Level " ++ id.text ++ ": direction must be one of [0, 90, 180, 270], got " ++ toString degrees

end LevelFault

namespace Json

def field (value : Json) (key : String) : Except LevelFault Json :=
  match value with
  | .obj fields => match Fields.get? fields key with
    | some item => .ok item
    | none => .error (.missing key)
  | other => .error (.notIndexable other)

def fieldOr (value : Json) (key : String) (default : Json) : Except LevelFault Json :=
  match value with
  | .obj fields => .ok ((Fields.get? fields key).getD default)
  | other => .error (.noFields other)

/-- The elements of a list, the characters of a text, or the keys of an object. -/
def elements : Json → Except LevelFault (List Json)
  | .arr items => .ok items
  | .str s => .ok (s.toList.map fun c => .str (String.ofList [c]))
  | .obj fields => .ok (fields.map fun pair => .str pair.1)
  | other => .error (.notIterable other)

def integer (value : Json) : Except LevelFault Int := value.toInteger.mapError .integer

def cell (value : Json) : Except LevelFault Cell := do
  let x ← (← value.field "x").integer
  let y ← (← value.field "y").integer
  return ⟨x, y⟩

end Json

namespace Level

def ofJson (data : Json) : Except LevelFault Level := do
  let player ← data.field "player"
  let goal ← data.field "goal"
  let degrees ← (← player.fieldOr "direction" (.int 0)).integer
  match Direction.ofDegrees? degrees with
  | none => .error (.direction (← data.field "id") degrees)
  | some direction =>
    let given ← data.field "id"
    let id ← given.integer
    let name ← data.fieldOr "name" (.str ("LEVEL " ++ given.text))
    let size ← (← data.fieldOr "gridSize" (.int 10)).integer
    let start ← player.cell
    let goal ← goal.cell
    let obstacles ← (← (← data.fieldOr "obstacles" (.arr [])).elements).mapM Json.cell
    let description ← data.fieldOr "description" .null
    let hint ← data.fieldOr "hint" .null
    return { id, name := name.text, size, start, direction, goal, obstacles, description, hint }

def cellFields (c : Cell) : Fields := [("x", .int c.x), ("y", .int c.y)]

def givenField (key : String) (value : Json) : Fields := if value.isTruthy then [(key, value)] else []

def toJson (level : Level) : Json :=
  .obj ([
    ("id", .int level.id),
    ("name", .str level.name),
    ("gridSize", .int level.size),
    ("player", .obj (cellFields level.start ++ [("direction", .int level.direction.degrees)])),
    ("goal", .obj (cellFields level.goal)),
    ("obstacles", .arr (level.obstacles.map fun c => .obj (cellFields c)))] ++
    givenField "description" level.description ++ givenField "hint" level.hint)

def same (a b : Level) : Bool :=
  a.id == b.id && a.name == b.name && a.size == b.size && a.start == b.start && a.direction == b.direction &&
    a.goal == b.goal && a.obstacles == b.obstacles && a.description.same b.description && a.hint.same b.hint

def world (allocation : Allocation) (level : Level) : Except WorldFault World :=
  World.create allocation level.size level.start level.direction.degrees level.goal level.obstacles

end Level

/-! ### The levels that come with the game, and the one that is left when no level file can be read -/

namespace Level

def awakening : Level where
  id := 1
  name := "AWAKENING"
  size := 10
  start := ⟨1, 1⟩
  direction := .right
  goal := ⟨8, 8⟩
  obstacles := [⟨3, 1⟩, ⟨3, 2⟩, ⟨3, 3⟩, ⟨6, 5⟩, ⟨6, 6⟩, ⟨6, 7⟩]
  description := .str "Reach the exit node at the far corner."
  hint := .str "Turn before you hit the wall. REPEAT saves typing."

def corridor : Level where
  id := 2
  name := "THE CORRIDOR"
  size := 8
  start := ⟨0, 3⟩
  direction := .right
  goal := ⟨7, 3⟩
  obstacles := [
    ⟨0, 2⟩, ⟨1, 2⟩, ⟨2, 2⟩, ⟨3, 2⟩, ⟨4, 2⟩, ⟨5, 2⟩, ⟨6, 2⟩, ⟨7, 2⟩,
    ⟨0, 4⟩, ⟨1, 4⟩, ⟨2, 4⟩, ⟨3, 4⟩, ⟨4, 4⟩, ⟨5, 4⟩, ⟨6, 4⟩, ⟨7, 4⟩]
  description := .str "Walk the corridor without touching the walls."
  hint := .str "WHILE PATH_CLEAR? keeps moving until something is in the way."

def spiral : Level where
  id := 3
  name := "SPIRAL"
  size := 7
  start := ⟨0, 0⟩
  direction := .right
  goal := ⟨3, 3⟩
  obstacles := [⟨0, 1⟩, ⟨1, 1⟩, ⟨2, 1⟩, ⟨3, 1⟩, ⟨4, 1⟩, ⟨4, 2⟩, ⟨4, 3⟩, ⟨4, 4⟩, ⟨2, 3⟩, ⟨2, 4⟩, ⟨3, 4⟩]
  description := .str "Follow the spiral inward."
  hint := .str "Move until WALL_AHEAD?, then turn. A function can hold the pattern."

def counter : Level where
  id := 4
  name := "COUNTER"
  size := 10
  start := ⟨0, 9⟩
  direction := .up
  goal := ⟨0, 0⟩
  obstacles := []
  description := .str "Climb exactly nine cells."
  hint := .str "SET R1 = 9, then WHILE R1 > 0: MOVE, DECREMENT R1."

def bundled : List Level := [awakening, corridor, spiral, counter]

def builtIn : Level := { awakening with description := .null, hint := .null }

end Level

end GridRobot
