import GridRobot.Json.Order
import GridRobot.World

/-!
Conditions of a program: an empty slot, a sensor, a register comparison, a negation, or a placeholder
for what is not understood. What a register is compared with is an integer where a program comes from a
file; built by hand it may be any value.
-/
namespace GridRobot

inductive Sensor
  | wallAhead | goalAhead | pathClear | always | never | coin
deriving DecidableEq, Inhabited

namespace Sensor

def tag : Sensor → String
  | .wallAhead => "wallAhead"
  | .goalAhead => "goalAhead"
  | .pathClear => "pathClear"
  | .always => "true"
  | .never => "false"
  | .coin => "randomBoolean"

def all : List Sensor := [.wallAhead, .goalAhead, .pathClear, .always, .never, .coin]

def ofTag? (tag : String) : Option Sensor := all.find? fun s => s.tag == tag

theorem ofTag?_tag (s : Sensor) : ofTag? s.tag = some s := by cases s <;> decide

theorem tag_of_ofTag? {tag : String} {s : Sensor} (found : ofTag? tag = some s) : s.tag = tag := by
  simpa using List.find?_some found

end Sensor

inductive Comparison
  | equals | greater
deriving DecidableEq, Inhabited

namespace Comparison

def tag : Comparison → String
  | .equals => "registerEquals"
  | .greater => "registerGreater"

def ofTag? (tag : String) : Option Comparison := [equals, greater].find? fun op => op.tag == tag

def symbol : Comparison → String
  | .equals => "="
  | .greater => ">"

/-- Whether a comparison holds of a register's content and a value. Anything may be equal, but only
numbers have an order. -/
def holds : Comparison → Int → Json → Except OrderFault Bool
  | .equals, n, value => .ok ((Json.int n).same value)
  | .greater, n, value => Relation.greater.check (.int n) value

theorem ofTag?_tag (op : Comparison) : ofTag? op.tag = some op := by cases op <;> decide

end Comparison

inductive Condition
  | empty
  | sensor (sensor : Sensor)
  | compare (register : Register) (op : Comparison) (value : Json)
  | negate (inner : Condition)
  | unknown (tag : Json) (fields : Fields)
deriving Inhabited

namespace Condition

def describe : Condition → String
  | .empty => "<empty>"
  | .sensor s => s.tag
  | .negate inner => "NOT " ++ inner.describe
  | .compare r op value => r.name ++ " " ++ op.symbol ++ " " ++ value.text
  | .unknown tag _ => "<unknown " ++ tag.text ++ ">"

def same : Condition → Condition → Bool
  | .empty, .empty => true
  | .sensor s, .sensor t => s == t
  | .compare r op v, .compare r' op' v' => r == r' && op == op' && v.same v'
  | .negate a, .negate b => a.same b
  | .unknown tag fields, .unknown tag' fields' => tag.same tag' && fields.same fields'
  | _, _ => false

end Condition

end GridRobot
