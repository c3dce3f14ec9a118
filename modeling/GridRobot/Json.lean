import GridRobot.Number.Decimal
import GridRobot.Text.Quoted
import GridRobot.Text.Numeral

/-!
JSON values. Objects keep the order of their fields. Beside the type stand the views that other modules share: the name
of a value's kind, its truth, its text, and when two values count as equal. The values are ideal ones: no integer has
too many digits to be read or shown, nothing is nested too deep, and a text has no halves of surrogate pairs in it.
-/
namespace GridRobot

inductive Json
  | null
  | bool (value : Bool)
  | num (value : Number)
  | str (text : String)
  | arr (items : List Json)
  | obj (fields : List (String × Json))
deriving Inhabited

abbrev Fields := List (String × Json)

namespace Fields

def get? (fields : Fields) (key : String) : Option Json := fields.lookup key

/-- A key that is already there keeps its place and takes the new value. -/
def insert (fields : Fields) (key : String) (value : Json) : Fields :=
  match fields with
  | [] => [(key, value)]
  | (k, v) :: rest => if k == key then (key, value) :: rest else (k, v) :: insert rest key value

def ofList (pairs : List (String × Json)) : Fields :=
  pairs.foldl (fun fields pair => fields.insert pair.1 pair.2) []

end Fields

namespace Json

abbrev int (n : Int) : Json := .num (.int n)

def kindName : Json → String
  | .null => "NoneType"
  | .bool _ => "bool"
  | .num (.int _) => "int"
  | .num (.float _) => "float"
  | .str _ => "str"
  | .arr _ => "list"
  | .obj _ => "dict"

/-- Null, false, zeros and what is empty do not count as given. -/
def isTruthy : Json → Bool
  | .null => false
  | .bool b => b
  | .num n => !n.isZero
  | .str s => !s.isEmpty
  | .arr items => !items.isEmpty
  | .obj fields => !fields.isEmpty

mutual

def literal : Json → String
  | .null => "None"
  | .bool b => if b then "True" else "False"
  | .num n => n.text
  | .str s => Text.quoted s
  | .arr items => "[" ++ String.intercalate ", " (literalItems items) ++ "]"
  | .obj fields => "\x7b" ++ String.intercalate ", " (literalFields fields) ++ "\x7d"

def literalItems : List Json → List String
  | [] => []
  | item :: rest => literal item :: literalItems rest

def literalFields : List (String × Json) → List String
  | [] => []
  | (key, value) :: rest => (Text.quoted key ++ ": " ++ literal value) :: literalFields rest

end

def text : Json → String
  | .str s => s
  | value => value.literal

theorem text_ne_empty {v : Json} (given : v.isTruthy = true) : v.text ≠ "" := by
  cases v with
  | null => cases given
  | bool b =>
    cases b with
    | false => cases given
    | true => decide
  | num n => exact n.text_ne_empty
  | str s =>
    intro empty
    have same : s = "" := empty
    subst same
    cases given
  | arr items => simp [text, literal]
  | obj fields => simp [text, literal]

def number? : Json → Option Number
  | .bool b => some (.int (if b then 1 else 0))
  | .num n => some n
  | _ => none

mutual

/-- Equality of data: numbers by quantity, objects whatever the order of their fields. -/
def same : Json → Json → Bool
  | .null, other => match other with
    | .null => true
    | _ => false
  | .bool a, other => match other.number? with
    | some n => (Number.int (if a then 1 else 0)).same n
    | none => false
  | .num m, other => match other.number? with
    | some n => m.same n
    | none => false
  | .str s, other => match other with
    | .str t => s == t
    | _ => false
  | .arr items, other => match other with
    | .arr others => sameItems items others
    | _ => false
  | .obj fields, other => match other with
    | .obj others => fields.length == others.length && sameFields fields others
    | _ => false

def sameItems : List Json → List Json → Bool
  | [], others => others.isEmpty
  | item :: rest, others => match others with
    | [] => false
    | other :: others => same item other && sameItems rest others

def sameFields : List (String × Json) → List (String × Json) → Bool
  | [], _ => true
  | (key, value) :: rest, others =>
    (match others.lookup key with
    | some other => same value other
    | none => false) && sameFields rest others

end

def isNaN : Json → Bool
  | .num (.float x) => x.isNaN
  | _ => false

/-- Equality of two values of their own. NaN differs from NaN, though what holds it may be the same. -/
def equals (a b : Json) : Bool := !a.isNaN && a.same b

end Json

def Fields.same : Fields → Fields → Bool
  | [], others => others.isEmpty
  | (key, value) :: rest, others => match others with
    | [] => false
    | (otherKey, other) :: others => key == otherKey && value.same other && Fields.same rest others

/-! ### Values as integers

Truth values, numbers cut towards zero, and integer numerals in text. -/

namespace Json

inductive IntegerFault
  | notANumber
  | infinite
  | numeral (text : String)
  | kind (name : String)
deriving DecidableEq

def IntegerFault.reason : IntegerFault → String
  | .notANumber | .numeral _ => "ValueError"
  | .infinite => "OverflowError"
  | .kind _ => "TypeError"

def IntegerFault.message : IntegerFault → String
  | .notANumber => "cannot convert float NaN to integer"
  | .infinite => "cannot convert float infinity to integer"
  | .numeral text =>
    "invalid literal for int() with base 10: " ++ String.ofList ((Text.quoteChars text.toList).take 200)
  | .kind name =>
    "int() argument must be a string, a bytes-like object or a real number, not '" ++ name ++ "'"

def toInteger : Json → Except IntegerFault Int
  | .bool b => .ok (if b then 1 else 0)
  | .num (.int n) => .ok n
  | .num (.float x) => match x.value with
    | .nan => .error .notANumber
    | .infinite _ => .error .infinite
    | .finite units => .ok (units.tdiv Binary64.unitsPerOne)
  | .str s => match Text.readInt? s with
    | some n => .ok n
    | none => .error (.numeral s)
  | other => .error (.kind other.kindName)

end Json

end GridRobot
