import GridRobot.World

/-!
Worlds and places given by values of any kind. Sizes and coordinates may be whatever counts as an integer;
a place is asked for by the coordinates as they are.
-/
namespace GridRobot

structure WorldDescription where
  size : Json
  /-- Column, row and degrees; what follows them is not looked at. -/
  start : List Json
  goal : List Json
  obstacles : List (List Json)

inductive DescriptionFault
  | order (fault : OrderFault)
  | integer (fault : Json.IntegerFault)
  | tooShort
  | tooManyCoordinates
  | tooFewCoordinates (count : Nat)
  | world (fault : WorldFault)

def DescriptionFault.message : DescriptionFault → String
  | .order fault => fault.message
  | .integer fault => fault.message
  | .tooShort => "tuple index out of range"
  | .tooManyCoordinates => "too many values to unpack (expected 2)"
  | .tooFewCoordinates count => "not enough values to unpack (expected 2, got " ++ toString count ++ ")"
  | .world fault => fault.message

namespace WorldDescription

def integer (value : Json) : Except DescriptionFault Int := value.toInteger.mapError .integer

def entry (values : List Json) (index : Nat) : Except DescriptionFault Int :=
  match values[index]? with
  | some value => integer value
  | none => .error .tooShort

def obstacle : List Json → Except DescriptionFault Cell
  | [x, y] => do return ⟨← integer x, ← integer y⟩
  | _ :: _ :: _ :: _ => .error .tooManyCoordinates
  | values => .error (.tooFewCoordinates values.length)

/-- The world described. The size is checked as it is given, before it is made an integer. -/
def toWorld (allocation : Allocation) (d : WorldDescription) : Except DescriptionFault World := do
  if ← (Relation.atMost.check d.size (.int 0)).mapError .order then throw (.world (.size d.size.text))
  let size ← integer d.size
  let start : Cell := ⟨← entry d.start 0, ← entry d.start 1⟩
  let degrees ← entry d.start 2
  let goal : Cell := ⟨← entry d.goal 0, ← entry d.goal 1⟩
  let obstacles ← d.obstacles.mapM obstacle
  (World.layOut allocation size.toNat start degrees goal obstacles).mapError .world

end WorldDescription

inductive PlaceFault
  | order (fault : OrderFault)
  | fractional
  /-- More than one cell is picked. -/
  | several
  /-- No cell is picked. -/
  | nowhere

def PlaceFault.message : PlaceFault → String
  | .order fault => fault.message
  | .fractional =>
    "only integers, slices (`:`), ellipsis (`...`), numpy.newaxis (`None`) and integer or boolean arrays are valid indices"
  | .several => "The truth value of an array with more than one element is ambiguous. Use a.any() or a.all()"
  | .nowhere =>
    "The truth value of an empty array is ambiguous. Use `array.size > 0` to check that an array is not empty."

namespace Board

def isOutside (b : Board) (coordinate : Json) : Except OrderFault Bool := do
  if ← Relation.less.check coordinate (.int 0) then return true
  Relation.atLeast.check coordinate (.int b.size)

/-- Whether the robot may enter the place with some coordinates. Inside the board they have to be integers: the
truth value false picks no cell, and true picks more than one. -/
def isFreeAt (b : Board) (x y : Json) : Except PlaceFault Bool := do
  if ← (b.isOutside x).mapError .order then return false
  if ← (b.isOutside y).mapError .order then return false
  match x, y with
  | .num (.int x), .num (.int y) => return b.isFree ⟨x, y⟩
  | .num (.float _), _ | _, .num (.float _) => throw .fractional
  | .bool false, _ | _, .bool false => throw .nowhere
  | _, _ => throw .several

theorem isFreeAt_int (b : Board) (x y : Int) : b.isFreeAt (.int x) (.int y) = .ok (b.isFree ⟨x, y⟩) := by
  have outside (n : Int) :
      (b.isOutside (.int n)).mapError PlaceFault.order = .ok (decide (n < 0) || decide ((b.size : Int) ≤ n)) := by
    have outside : b.isOutside (.int n) = .ok (decide (n < 0) || decide ((b.size : Int) ≤ n)) := by
      unfold isOutside
      simp only [Relation.check_int, Relation.holds, Number.lt, Number.le, bind, Except.bind]
      by_cases low : n < 0 <;> simp [low, pure, Except.pure]
    rw [outside]
    rfl
  simp only [isFreeAt, outside, bind, Except.bind, pure, Except.pure, Json.int]
  by_cases left : x < 0
  · simp [isFree, contains, left, Int.not_le.mpr left]
  by_cases right : (b.size : Int) ≤ x
  · simp [isFree, contains, right, Int.not_lt.mpr right]
  by_cases top : y < 0
  · simp [isFree, contains, left, right, top, Int.not_le.mpr top]
  by_cases bottom : (b.size : Int) ≤ y
  · simp [isFree, contains, left, right, bottom, Int.not_lt.mpr bottom]
  simp [left, right, top, bottom]

end Board

end GridRobot
