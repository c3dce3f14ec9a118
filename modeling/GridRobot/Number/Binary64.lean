/-!
Double-precision numbers as their 64 bits. Every finite one is a whole multiple of 2^-1074, its
`units`; order, comparison and truncation are read off that integer, and `nearest` rounds an exact
quotient to the closest number, a tie to the even significand.
-/
namespace GridRobot

structure Binary64 where
  bits : UInt64
deriving DecidableEq, Inhabited

namespace Binary64

/-- What a bit pattern stands for; a finite value is `units * 2^-1074`. -/
inductive Value
  | nan
  | infinite (negative : Bool)
  | finite (units : Int)
deriving DecidableEq

def signBit : Nat := Nat.pow 2 63

/-- The leading bit of a significand, which normal numbers leave unwritten. Fractions are below it. -/
def hiddenBit : Nat := Nat.pow 2 52

def unitsPerOne : Nat := Nat.pow 2 1074

def negative (x : Binary64) : Bool := signBit ≤ x.bits.toNat

def exponentField (x : Binary64) : Nat := x.bits.toNat / hiddenBit % 2048

def fractionField (x : Binary64) : Nat := x.bits.toNat % hiddenBit

def gap (x : Binary64) : Nat := Nat.pow 2 (x.exponentField - 1)

def magnitude (x : Binary64) : Nat :=
  if x.exponentField = 0 then x.fractionField else (x.fractionField + hiddenBit) * x.gap

def value (x : Binary64) : Value :=
  if x.exponentField = 2047 then
    if x.fractionField = 0 then .infinite x.negative else .nan
  else .finite (if x.negative then -(x.magnitude : Int) else x.magnitude)

def isNaN (x : Binary64) : Bool := x.value == .nan

def isInfinite (x : Binary64) : Bool :=
  match x.value with
  | .infinite _ => true
  | _ => false

def ofMagnitude (negative : Bool) (pattern : Nat) : Binary64 :=
  ⟨UInt64.ofNat (pattern + if negative then signBit else 0)⟩

def notANumber (negative : Bool) : Binary64 := ofMagnitude negative 0x7ff8000000000000

def nan : Binary64 := notANumber false

def infinity (negative : Bool) : Binary64 := ofMagnitude negative (2047 * hiddenBit)

def zero (negative : Bool) : Binary64 := ofMagnitude negative 0

def roundHalfEven (num den : Nat) : Nat :=
  let quotient := num / den
  let rest := 2 * (num % den)
  if rest < den then quotient
  else if den < rest then quotient + 1
  else quotient + quotient % 2

/-- The exponent at which a positive `num / den` has a significand of 53 bits, or the least one. -/
def roundingExponent (num den : Nat) : Int :=
  let guess : Int := (num.log2 : Int) - den.log2 - 52
  let fits := den * Nat.pow 2 guess.toNat * hiddenBit ≤ num * Nat.pow 2 (-guess).toNat
  max (if fits then guess else guess - 1) (-1074)

def nearest (negative : Bool) (num den : Nat) : Binary64 :=
  if num = 0 then zero negative else
    let e := roundingExponent num den
    let significand := roundHalfEven (num * Nat.pow 2 (-e).toNat) (den * Nat.pow 2 e.toNat)
    ofMagnitude negative (min ((e + 1074).toNat * hiddenBit + significand) (2047 * hiddenBit))

def ofInt (n : Int) : Binary64 := nearest (n < 0) n.natAbs 1

/-- The quotient of two numbers, rounded once. A NaN goes through; a quotient without a meaning is
the NaN with its sign set. -/
def div (x y : Binary64) : Binary64 :=
  let negative := x.negative != y.negative
  match x.value, y.value with
  | .nan, _ => x
  | _, .nan => y
  | .infinite _, .infinite _ => notANumber true
  | .infinite _, .finite _ => infinity negative
  | .finite _, .infinite _ => zero negative
  | .finite a, .finite b =>
    if b = 0 then if a = 0 then notANumber true else infinity negative
    else nearest negative a.natAbs b.natAbs

def successor (x : Binary64) : Binary64 :=
  match x.value with
  | .nan | .infinite _ => x
  | .finite units => nearest (units + unitsPerOne < 0) (units + unitsPerOne).natAbs unitsPerOne

def Value.lt : Value → Value → Bool
  | .nan, _ | _, .nan => false
  | .infinite a, .infinite b => a && !b
  | .infinite a, .finite _ => a
  | .finite _, .infinite b => !b
  | .finite a, .finite b => a < b

theorem Value.lt_asymm {a b : Value} (less : a.lt b = true) : b.lt a = false := by
  cases a <;> cases b <;> simp_all [lt]
  omega

theorem Value.ne_of_lt {a b : Value} (less : a.lt b = true) : a ≠ b := by
  rintro rfl
  have := Value.lt_asymm less
  simp_all

theorem value_zero (negative : Bool) : (zero negative).value = .finite 0 := by
  cases negative with
  | false => decide +kernel
  | true => decide +kernel

def lt (x y : Binary64) : Bool := x.value.lt y.value

def isPositive (x : Binary64) : Bool := (zero false).lt x

def isNonPositive (x : Binary64) : Bool := !x.isPositive && !x.isNaN

def isZero (x : Binary64) : Bool := x.value == .finite 0

/-- Zeros of both signs are the same number. NaN, being a single value here, is the same as itself. -/
def same (x y : Binary64) : Bool := x.value == y.value

def sameInt (x : Binary64) (n : Int) : Bool := x.value == .finite (n * unitsPerOne)

def isWhole (x : Binary64) : Bool :=
  match x.value with
  | .finite units => units % unitsPerOne == 0
  | _ => false

def half : Binary64 := ⟨0x3fe0000000000000⟩

def hexDigit (n : Nat) : Char := "0123456789abcdef".toList.getD n '0'

def hexDigits : Nat → Nat → List Char
  | 0, _ => []
  | width + 1, n => hexDigits width (n / 16) ++ [hexDigit (n % 16)]

def hex (x : Binary64) : String := String.ofList (hexDigits 16 x.bits.toNat)

end Binary64

end GridRobot
