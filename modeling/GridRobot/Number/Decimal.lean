import GridRobot.Number.Binary64

/-!
Decimal text of double-precision numbers. `Decimal.toBinary64` rounds a decimal to the nearest
number; `Decimal.shortest` finds the fewest digits that round back to a number, and of those the
closest; a `Layout` says how digits become text.
-/
namespace GridRobot

structure Decimal where
  digits : Nat
  exponent : Int
deriving DecidableEq

namespace Decimal

def width (n : Nat) : Nat := (Nat.toDigits 10 n).length

def magnitude (d : Decimal) : Int := width d.digits + d.exponent - 1

def toBinary64 (negative : Bool) (d : Decimal) : Binary64 :=
  if d.digits = 0 then Binary64.zero negative
  else if 400 < d.magnitude then Binary64.infinity negative
  else if d.magnitude < -400 then Binary64.zero negative
  else Binary64.nearest negative (d.digits * Nat.pow 10 d.exponent.toNat) (Nat.pow 10 (-d.exponent).toNat)

def trim : Nat → Decimal → Decimal
  | 0, d => d
  | limit + 1, d =>
    if d.digits % 10 = 0 then trim limit ⟨d.digits / 10, d.exponent + 1⟩ else d

structure Ratio where
  num : Nat
  den : Nat

def Ratio.le (a b : Ratio) : Bool := a.num * b.den ≤ b.num * a.den

def toRatio (d : Decimal) : Ratio :=
  ⟨d.digits * Nat.pow 10 d.exponent.toNat, Nat.pow 10 (-d.exponent).toNat⟩

/-- The least `p` with `r < 10^p`, of a positive ratio. -/
def Ratio.leading (r : Ratio) : Int :=
  let guess : Int := (width r.num : Int) - width r.den
  if (toRatio ⟨1, guess⟩).le r then guess + 1
  else if (toRatio ⟨1, guess - 1⟩).le r then guess
  else guess - 1

/-- How many grid steps of `10^exponent` fit into a ratio, with what is left and its scale. -/
def Ratio.steps (r : Ratio) (exponent : Int) : Nat × Nat × Nat :=
  let num := r.num * Nat.pow 10 (-exponent).toNat
  let den := r.den * Nat.pow 10 exponent.toNat
  (num / den, num % den, den)

/-- The point of a decimal grid inside `[low, high]` that is closest to the value, if there is one. -/
def closest (value low high : Ratio) (inclusive : Bool) (exponent : Int) : Option Decimal :=
  let (below, rest, den) := value.steps exponent
  let inside (digits : Nat) : Bool :=
    let point := toRatio ⟨digits, exponent⟩
    if inclusive then low.le point && point.le high
    else !point.le low && !high.le point
  let lower := inside below && below != 0
  let upper := inside (below + 1)
  if lower && (!upper || 2 * rest < den || (2 * rest == den && below % 2 == 0)) then
    some ⟨below, exponent⟩
  else if upper then some ⟨below + 1, exponent⟩
  else none

def interval (x : Binary64) : Ratio × Ratio × Ratio :=
  let den := 4 * Binary64.unitsPerOne
  let below := if x.fractionField = 0 && 1 < x.exponentField then x.gap else 2 * x.gap
  (⟨4 * x.magnitude, den⟩, ⟨4 * x.magnitude - below, den⟩, ⟨4 * x.magnitude + 2 * x.gap, den⟩)

/-- The fewest digits that round back to a finite number other than zero; 17 always do. -/
def shortest (x : Binary64) : Decimal :=
  let (value, low, high) := interval x
  let grid (count : Nat) := closest value low high (x.fractionField % 2 == 0) (value.leading - count)
  ((List.range 17).findSome? fun count => grid (count + 1)).getD ⟨0, 0⟩ |>.trim 17

def rounded (count : Nat) (x : Binary64) : Decimal :=
  let (value, _, _) := interval x
  let exponent := value.leading - count
  trim count ⟨Binary64.roundHalfEven (value.num * Nat.pow 10 (-exponent).toNat)
    (value.den * Nat.pow 10 exponent.toNat), exponent⟩

structure Layout where
  least : Int
  most : Int
  whole : String

def exponentText (n : Int) : String :=
  let digits := toString n.natAbs
  let padded := if n.natAbs < 10 then "0" ++ digits else digits
  (if n < 0 then "e-" else "e+") ++ padded

def zeros (count : Nat) : String := String.ofList (List.replicate count '0')

def Layout.positional (layout : Layout) (d : Decimal) : String :=
  let digits := Nat.toDigits 10 d.digits
  if 0 ≤ d.exponent then String.ofList digits ++ zeros d.exponent.toNat ++ layout.whole
  else
    let point := (digits.length : Int) + d.exponent
    if point ≤ 0 then "0." ++ zeros (-point).toNat ++ String.ofList digits
    else String.ofList (digits.take point.toNat) ++ "." ++ String.ofList (digits.drop point.toNat)

def Layout.scientific (d : Decimal) : String :=
  match Nat.toDigits 10 d.digits with
  | [] => ""
  | [digit] => String.ofList [digit] ++ exponentText d.magnitude
  | digit :: rest => String.ofList (digit :: '.' :: rest) ++ exponentText d.magnitude

def Layout.write (layout : Layout) (d : Decimal) : String :=
  if layout.least ≤ d.magnitude && d.magnitude ≤ layout.most then layout.positional d
  else scientific d

theorem Layout.write_ne_empty (layout : Layout) (d : Decimal) : layout.write d ≠ "" := by
  have digits : Nat.toDigits 10 d.digits ≠ [] := Nat.toDigits_ne_nil
  unfold write positional scientific
  split
  · dsimp only
    split
    · simp [String.append_eq_empty_iff, digits]
    · split
      · simp [String.append_eq_empty_iff]
      · simp [String.append_eq_empty_iff]
  · split
    · contradiction
    · simp [String.append_eq_empty_iff]
    · simp [String.append_eq_empty_iff]

end Decimal

namespace Binary64

def textWith (layout : Decimal.Layout) (digits : Binary64 → Decimal) (x : Binary64) : String :=
  match x.value with
  | .nan => "nan"
  | .infinite negative => if negative then "-inf" else "inf"
  | .finite units =>
    (if x.negative then "-" else "") ++ if units = 0 then "0" ++ layout.whole else layout.write (digits x)

/-- The shortest text that reads back, positional from 0.0001 up to below 10^16. -/
def text (x : Binary64) : String := x.textWith ⟨-4, 15, ".0"⟩ Decimal.shortest

/-- Six significant digits, positional from 0.0001 up to below 10^6. -/
def brief (x : Binary64) : String := x.textWith ⟨-4, 5, ""⟩ (Decimal.rounded 6)

end Binary64

inductive Number
  | int (value : Int)
  | float (value : Binary64)
deriving DecidableEq, Inhabited

namespace Number

def text : Number → String
  | .int n => toString n
  | .float x => x.text

theorem text_ne_empty (n : Number) : n.text ≠ "" := by
  cases n with
  | int n =>
    rw [text, Int.toString_eq_repr, Int.repr_eq_if]
    split
    · simp [Nat.repr_eq_ofList_toDigits]
    · simp
  | float x =>
    unfold text Binary64.text Binary64.textWith
    dsimp only
    split
    · decide
    · split <;> decide
    · rw [Ne, String.append_eq_empty_iff]
      rintro ⟨-, empty⟩
      split at empty
      · exact absurd empty (by decide)
      · exact Decimal.Layout.write_ne_empty _ _ empty

def toBinary64 : Number → Binary64
  | .int n => Binary64.ofInt n
  | .float x => x

def same : Number → Number → Bool
  | .int a, .int b => a == b
  | .int a, .float y => y.sameInt a
  | .float x, .int b => x.sameInt b
  | .float x, .float y => x.same y

def value : Number → Binary64.Value
  | .int n => .finite (n * Binary64.unitsPerOne)
  | .float x => x.value

theorem same_eq (a b : Number) : a.same b = (a.value == b.value) := by
  cases a with
  | int m =>
    cases b with
    | int n =>
      have scale : (Binary64.unitsPerOne : Int) ≠ 0 := by decide +kernel
      rw [Bool.eq_iff_iff]
      simp only [same, value, beq_iff_eq, Binary64.Value.finite.injEq, Int.mul_eq_mul_right_iff scale]
    | float y => exact BEq.comm
  | float x =>
    cases b with
    | int n => rfl
    | float y => rfl

def lt : Number → Number → Bool
  | .int a, .int b => a < b
  | a, b => a.value.lt b.value

def le : Number → Number → Bool
  | .int a, .int b => a ≤ b
  | a, b => a.value.lt b.value || (a.value == b.value && a.value != .nan)

theorem not_le_of_lt {a b : Number} (less : a.lt b = true) : b.le a = false := by
  have apart (less : a.value.lt b.value = true) :
      (b.value.lt a.value || (b.value == a.value && b.value != .nan)) = false := by
    simp [Binary64.Value.lt_asymm less, (Binary64.Value.ne_of_lt less).symm]
  match a, b with
  | .int m, .int n =>
    simp only [lt, decide_eq_true_eq] at less
    simpa [le] using less
  | .int _, .float _ => exact apart less
  | .float _, .int _ => exact apart less
  | .float _, .float _ => exact apart less

def isZero : Number → Bool
  | .int n => n == 0
  | .float x => x.isZero

def successor : Number → Number
  | .int n => .int (n + 1)
  | .float x => .float x.successor

def ceiling? (n : Number) : Option Nat :=
  match n with
  | .int n => some n.toNat
  | .float x => match x.value with
    | .nan | .infinite false => none
    | .infinite true => some 0
    | .finite units => some (-(-units / Binary64.unitsPerOne)).toNat

end Number

end GridRobot
