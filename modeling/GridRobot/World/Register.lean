import GridRobot.Json.Order

/-!
The four registers. Each holds an integer of any size.
-/
namespace GridRobot

inductive Register
  | r1 | r2 | r3 | r4
deriving DecidableEq, Inhabited

namespace Register

def name : Register → String
  | .r1 => "R1"
  | .r2 => "R2"
  | .r3 => "R3"
  | .r4 => "R4"

def all : List Register := [.r1, .r2, .r3, .r4]

def ofName? (name : String) : Option Register := all.find? fun r => r.name == name

theorem ofName?_name (r : Register) : ofName? r.name = some r := by cases r <;> decide

theorem ofName?_eq_some {name : String} {r : Register} (found : ofName? name = some r) : r.name = name := by
  simpa using List.find?_some found

end Register

structure Registers where
  r1 : Int
  r2 : Int
  r3 : Int
  r4 : Int
deriving DecidableEq, Inhabited

namespace Registers

def zero : Registers := ⟨0, 0, 0, 0⟩

def get (rs : Registers) : Register → Int
  | .r1 => rs.r1
  | .r2 => rs.r2
  | .r3 => rs.r3
  | .r4 => rs.r4

def set (rs : Registers) (r : Register) (value : Int) : Registers :=
  match r with
  | .r1 => { rs with r1 := value }
  | .r2 => { rs with r2 := value }
  | .r3 => { rs with r3 := value }
  | .r4 => { rs with r4 := value }

@[simp] theorem get_zero (r : Register) : zero.get r = 0 := by cases r <;> rfl

theorem get_set (rs : Registers) (r s : Register) (value : Int) :
    (rs.set r value).get s = if s = r then value else rs.get s := by
  cases r <;> cases s <;> rfl

def text (separator : String) (rs : Registers) : String :=
  String.intercalate separator (Register.all.map fun r => r.name ++ "=" ++ toString (rs.get r))

def toJson (rs : Registers) : Json := .obj (Register.all.map fun r => (r.name, .int (rs.get r)))

end Registers

inductive RegisterFault
  | unknown (name : String)
  | key (fault : KeyFault)
  | value (fault : Json.IntegerFault)
deriving DecidableEq

namespace RegisterFault

def message : RegisterFault → String
  | .unknown name => Text.quoted ("Unknown register '" ++ name ++ "'")
  | .key fault => fault.message
  | .value fault => fault.message

end RegisterFault

def Register.find (given : Json) : Except RegisterFault Register := do
  let key ← given.key.mapError .key
  let named := match key with
    | .str text => ofName? text
    | _ => none
  match named with
  | some r => return r
  | none => throw (.unknown given.text)

namespace Registers

def read (rs : Registers) (name : Json) : Except RegisterFault Int := do
  return rs.get (← Register.find name)

/-- The name is checked before the value. -/
def write (rs : Registers) (name value : Json) : Except RegisterFault Registers := do
  let r ← Register.find name
  let value ← value.toInteger.mapError .value
  return rs.set r value

end Registers

end GridRobot
