import GridRobot.Json.Order

/-!
The pause in front of an instruction that nobody steps through: so many seconds at speed 1, and less
the faster a run is. Waiting counts nanoseconds in 64 bits, one of them for the sign.
-/
namespace GridRobot

inductive PauseFault
  /-- The quotient of two integers is beyond every double. -/
  | quotientTooLarge
  /-- An integer that is divided by a double, or divides one, is beyond every double. -/
  | integerTooLarge
  /-- There are more nanoseconds to wait than can be counted. -/
  | tooLong
  /-- Values of these kinds are not divided. -/
  | notDivided (base speed : String)
deriving DecidableEq

namespace PauseFault

def message : PauseFault → String
  | .quotientTooLarge => "integer division result too large for a float"
  | .integerTooLarge => "int too large to convert to float"
  | .tooLong => "timestamp too large to convert to C _PyTime_t"
  | .notDivided base speed => "unsupported operand type(s) for /: '" ++ base ++ "' and '" ++ speed ++ "'"

def reason : PauseFault → String
  | .notDivided .. => "TypeError"
  | _ => "OverflowError"

end PauseFault

namespace Pause

def double (x : Number) : Except PauseFault Binary64 :=
  match x with
  | .float x => .ok x
  | .int n => if (Binary64.ofInt n).isInfinite then .error .integerTooLarge else .ok (Binary64.ofInt n)

/-- The quotient of two numbers. Two integers are divided as they are, and the quotient is rounded. -/
def quotient (base speed : Number) : Except PauseFault Binary64 :=
  match base, speed with
  | .int a, .int b =>
    let quotient := Binary64.nearest ((a < 0) != (b < 0)) a.natAbs b.natAbs
    if quotient.isInfinite then .error .quotientTooLarge else .ok quotient
  | base, speed => do return (← double base).div (← double speed)

/-- The pause at a speed, in seconds, where `base` is the pause at speed 1. -/
def atSpeed (speed base : Json) : Except PauseFault Binary64 :=
  match base.number?, speed.number? with
  | some base, some speed => quotient base speed
  | _, _ => .error (.notDivided base.kindName speed.kindName)

theorem atSpeed_float (speed base : Binary64) :
    atSpeed (.num (.float speed)) (.num (.float base)) = .ok (base.div speed) := rfl

def nanosecondsPerSecond : Nat := 1000000000

def nanosecondLimit : Nat := Nat.pow 2 63

/-- Whether so many seconds cannot be waited out. NaN is no time at all. -/
def isTooLong (seconds : Number) : Bool :=
  match seconds with
  | .int n => nanosecondLimit ≤ n * nanosecondsPerSecond
  | .float x => match x.value with
    | .nan => false
    | .infinite negative => !negative
    | .finite units => nanosecondLimit * Binary64.unitsPerOne ≤ units * nanosecondsPerSecond

theorem isPositive_of_isTooLong {x : Binary64} (long : isTooLong (.float x) = true) : x.isPositive = true := by
  unfold Binary64.isPositive Binary64.lt
  rw [Binary64.value_zero]
  cases value : x.value with
  | nan => simp [isTooLong, value] at long
  | infinite negative =>
    have upward : negative = false := by simpa [isTooLong, value] using long
    rw [upward]
    rfl
  | finite units =>
    simp only [isTooLong, value] at long
    have most := of_decide_eq_true long
    have some : (0 : Int) < nanosecondLimit * Binary64.unitsPerOne := by decide +kernel
    have seconds : (0 : Int) < nanosecondsPerSecond := by decide
    have positive : 0 < units * nanosecondsPerSecond := by omega
    exact decide_eq_true (Int.pos_of_mul_pos_left positive seconds)

end Pause

end GridRobot
