import GridRobot.Program.Condition

/-!
Programs as trees. Control structures own their bodies; a function definition belongs to the top
level; what is not understood is kept as an inert placeholder. Counts and values are integers and names
are texts where a program comes from a file; built by hand they may be any values.
-/
namespace GridRobot

inductive Instruction
  | move
  | turnLeft
  | turnRight
  | assign (register : Register) (value : Json)
  | increment (register : Register)
  | decrement (register : Register)
  | repeatTimes (count : Json) (body : List Instruction)
  | ifThen (condition : Condition) (body : List Instruction)
  | ifElse (condition : Condition) (thenBody elseBody : List Instruction)
  | whileDo (condition : Condition) (body : List Instruction)
  | call (name : Json)
  | define (name : Json) (body : List Instruction)
  | unknown (kind : String) (fields : Fields)
  | blank
deriving Inhabited

abbrev Body := List Instruction

namespace Instruction

inductive Kind
  | move | turnLeft | turnRight
  | assign | increment | decrement
  | repeatTimes | ifThen | ifElse | whileDo
  | call | define
deriving DecidableEq, Inhabited

namespace Kind

def tag : Kind → String
  | .move => "move"
  | .turnLeft => "turnLeft"
  | .turnRight => "turnRight"
  | .assign => "set"
  | .increment => "increment"
  | .decrement => "decrement"
  | .repeatTimes => "repeat"
  | .ifThen => "if"
  | .ifElse => "ifElse"
  | .whileDo => "while"
  | .call => "call"
  | .define => "function"

def all : List Kind :=
  [.move, .turnLeft, .turnRight, .assign, .increment, .decrement,
    .repeatTimes, .ifThen, .ifElse, .whileDo, .call, .define]

def ofTag? (tag : String) : Option Kind := all.find? fun kind => kind.tag == tag

theorem ofTag?_tag (kind : Kind) : ofTag? kind.tag = some kind := by cases kind <;> decide

theorem tag_of_ofTag? {tag : String} {kind : Kind} (found : ofTag? tag = some kind) : kind.tag = tag := by
  simpa using List.find?_some found

end Kind

def kind? : Instruction → Option Kind
  | .move => some .move
  | .turnLeft => some .turnLeft
  | .turnRight => some .turnRight
  | .assign .. => some .assign
  | .increment _ => some .increment
  | .decrement _ => some .decrement
  | .repeatTimes .. => some .repeatTimes
  | .ifThen .. => some .ifThen
  | .ifElse .. => some .ifElse
  | .whileDo .. => some .whileDo
  | .call _ => some .call
  | .define .. => some .define
  | .unknown .. | .blank => none

def tag (node : Instruction) : String := (node.kind?.map Kind.tag).getD ""

def isStructural : Instruction → Bool
  | .repeatTimes .. | .ifThen .. | .ifElse .. | .whileDo .. | .define .. => true
  | _ => false

def isDefinition : Instruction → Bool
  | .define .. => true
  | _ => false

def bodies : Instruction → List Body
  | .ifElse _ a b => [a, b]
  | .repeatTimes _ body | .ifThen _ body | .whileDo _ body | .define _ body => [body]
  | _ => []

def describe : Instruction → String
  | .assign r value => "SET " ++ r.name ++ " = " ++ value.text
  | .increment r => "INCREMENT " ++ r.name
  | .decrement r => "DECREMENT " ++ r.name
  | .repeatTimes count _ => "REPEAT " ++ count.text
  | .ifThen c _ => "IF " ++ c.describe
  | .ifElse c _ _ => "IFELSE " ++ c.describe
  | .whileDo c _ => "WHILE " ++ c.describe
  | .call name => "CALL " ++ name.text
  | .define name _ => "FUNCTION " ++ name.text
  | .unknown kind _ => "UNKNOWN " ++ kind
  | node => node.tag

mutual

/-- Equality, with values and what placeholders keep compared as data; a blank node equals no other. -/
def same : Instruction → Instruction → Bool
  | .move, .move | .turnLeft, .turnLeft | .turnRight, .turnRight => true
  | .assign r v, .assign r' v' => r == r' && v.same v'
  | .increment r, .increment r' | .decrement r, .decrement r' => r == r'
  | .repeatTimes n body, .repeatTimes n' body' => n.same n' && sameBody body body'
  | .ifThen c body, .ifThen c' body' | .whileDo c body, .whileDo c' body' =>
    c.same c' && sameBody body body'
  | .ifElse c a b, .ifElse c' a' b' => c.same c' && sameBody a a' && sameBody b b'
  | .call name, .call name' => name.same name'
  | .define name body, .define name' body' => name.same name' && sameBody body body'
  | .unknown kind fields, .unknown kind' fields' => kind == kind' && fields.same fields'
  | _, _ => false

def sameBody : List Instruction → List Instruction → Bool
  | [], [] => true
  | a :: rest, b :: rest' => same a b && sameBody rest rest'
  | _, _ => false

end

mutual

def nodes : Instruction → List Instruction
  | .ifElse c a b => .ifElse c a b :: (walk a ++ walk b)
  | .repeatTimes count body => .repeatTimes count body :: walk body
  | .ifThen c body => .ifThen c body :: walk body
  | .whileDo c body => .whileDo c body :: walk body
  | .define name body => .define name body :: walk body
  | node => [node]

def walk : List Instruction → List Instruction
  | [] => []
  | node :: rest => nodes node ++ walk rest

end

theorem mem_nodes {inner node : Instruction} :
    inner ∈ nodes node ↔ inner = node ∨ ∃ body ∈ node.bodies, inner ∈ walk body := by
  cases node <;> simp [nodes, bodies]

theorem mem_walk {inner : Instruction} {body : Body} : inner ∈ walk body ↔ ∃ node ∈ body, inner ∈ nodes node := by
  induction body with
  | nil => simp [walk]
  | cons node rest ih => simp [walk, ih]

def hasNestedDefinition (body : Body) : Bool :=
  body.any fun node => node.bodies.any fun inner => (walk inner).any isDefinition

end Instruction

/-- The bodies of the defined functions, in the order in which their names first occur. -/
abbrev FunctionTable := List (Json × Body)

namespace FunctionTable

/-- A later definition replaces an earlier one in its place. -/
def insert (name : Json) (body : Body) : FunctionTable → FunctionTable
  | [] => [(name, body)]
  | (other, old) :: rest =>
    if other.same name then (other, body) :: rest else (other, old) :: insert name body rest

def ofDefinitions (nodes : List Instruction) : Except KeyFault FunctionTable :=
  nodes.foldlM (fun table node => match node with
    | .define name body => do return table.insert (← name.key) body
    | _ => .ok table) []

def body? (table : FunctionTable) (name : Json) : Option Body :=
  (table.find? fun entry => entry.1.same name).map Prod.snd

def look (table : FunctionTable) (name : Json) : Except KeyFault (Option Body) :=
  name.key.map table.body?

end FunctionTable

end GridRobot
