import GridRobot.Json.Printer
import GridRobot.Program.Instruction

/-!
Program files as documents. Every instruction is an object with its type and only the fields it uses;
simple conditions are words, compound ones objects, and placeholders what they were read from.
-/
namespace GridRobot

/-- The level that a program file names: a number, or a truth value, which counts as 0 or 1. -/
inductive LevelNumber
  | number (value : Int)
  | flag (value : Bool)
deriving DecidableEq, Inhabited

namespace LevelNumber

def toJson : LevelNumber → Json
  | .number n => .int n
  | .flag b => .bool b

def text (level : LevelNumber) : String := level.toJson.text

end LevelNumber

namespace Condition

def toJson : Condition → Json
  | .empty => .null
  | .sensor s => .str s.tag
  | .compare r op value => .obj [("type", .str op.tag), ("register", .str r.name), ("value", value)]
  | .negate .empty => .obj [("type", .str "not")]
  | .negate inner => .obj [("type", .str "not"), ("condition", inner.toJson)]
  | .unknown tag fields => if fields.isEmpty then tag else .obj fields

def toFields : Condition → Fields
  | .empty => []
  | c => [("condition", c.toJson)]

end Condition

namespace Instruction

mutual

def toJson : Instruction → Json
  | .assign r value => .obj [("type", .str Kind.assign.tag), ("register", .str r.name), ("value", value)]
  | .increment r => .obj [("type", .str Kind.increment.tag), ("register", .str r.name)]
  | .decrement r => .obj [("type", .str Kind.decrement.tag), ("register", .str r.name)]
  | .repeatTimes count body =>
    .obj [("type", .str Kind.repeatTimes.tag), ("count", count), ("body", .arr (bodyJson body))]
  | .ifThen c body =>
    .obj (("type", .str Kind.ifThen.tag) :: c.toFields ++ [("body", .arr (bodyJson body))])
  | .ifElse c a b =>
    .obj (("type", .str Kind.ifElse.tag) :: c.toFields ++
      [("ifBody", .arr (bodyJson a)), ("elseBody", .arr (bodyJson b))])
  | .whileDo c body =>
    .obj (("type", .str Kind.whileDo.tag) :: c.toFields ++ [("body", .arr (bodyJson body))])
  | .call name => .obj [("type", .str Kind.call.tag), ("functionName", name)]
  | .define name body =>
    .obj [("type", .str Kind.define.tag), ("functionName", name), ("body", .arr (bodyJson body))]
  | .unknown _ fields => .obj fields
  | .move => .obj [("type", .str Kind.move.tag)]
  | .turnLeft => .obj [("type", .str Kind.turnLeft.tag)]
  | .turnRight => .obj [("type", .str Kind.turnRight.tag)]
  | .blank => .obj [("type", .str "")]

def bodyJson : List Instruction → List Json
  | [] => []
  | node :: rest => toJson node :: bodyJson rest

end

end Instruction

def fileVersion : String := "1.0"

/-- A program with the level it was made for. Among the functions only definitions are written. -/
def programDocument (main functions : Body) (level levelName exportDate : Json) : Json :=
  .obj [
    ("version", .str fileVersion),
    ("level", level),
    ("levelName", levelName),
    ("functions", .arr (Instruction.bodyJson (functions.filter Instruction.isDefinition))),
    ("mainProgram", .arr (Instruction.bodyJson main)),
    ("exportDate", exportDate)]

def programText (main functions : Body) (level levelName exportDate : Json) : String :=
  (programDocument main functions level levelName exportDate).indented

def exportDate (given : Json) (now : String) : Json := if given.isTruthy then given else .str now

def exportName (level : Json) (stamp : String) : String :=
  "matrix-coder-level" ++ level.text ++ "-" ++ stamp ++ ".json"

end GridRobot
