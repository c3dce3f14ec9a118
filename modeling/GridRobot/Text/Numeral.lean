import GridRobot.Number.Decimal

/-!
Numerals as people type them: blanks around them, a sign, digits of any script, and single underscores between digits.
Digits and white space are those of Unicode 14.
-/
namespace GridRobot.Text

/-! ### Digits

Each script has its ten digits in a row, so a digit is known by the zero that it follows. -/

def zeroDigits : List Nat := [
  0x30, 0x660, 0x6f0, 0x7c0, 0x966, 0x9e6, 0xa66, 0xae6, 0xb66, 0xbe6,
  0xc66, 0xce6, 0xd66, 0xde6, 0xe50, 0xed0, 0xf20, 0x1040, 0x1090, 0x17e0,
  0x1810, 0x1946, 0x19d0, 0x1a80, 0x1a90, 0x1b50, 0x1bb0, 0x1c40, 0x1c50, 0xa620,
  0xa8d0, 0xa900, 0xa9d0, 0xa9f0, 0xaa50, 0xabf0, 0xff10, 0x104a0, 0x10d30, 0x11066,
  0x110f0, 0x11136, 0x111d0, 0x112f0, 0x11450, 0x114d0, 0x11650, 0x116c0, 0x11730, 0x118e0,
  0x11950, 0x11c50, 0x11d50, 0x11da0, 0x16a60, 0x16ac0, 0x16b50, 0x1d7ce, 0x1d7d8, 0x1d7e2,
  0x1d7ec, 0x1d7f6, 0x1e140, 0x1e2f0, 0x1e950, 0x1fbf0]

def digitValue? (c : Char) : Option Nat :=
  (zeroDigits.find? fun base => base ≤ c.toNat && c.toNat < base + 10).map (c.toNat - ·)

def isAsciiDigit (c : Char) : Bool := '0' ≤ c && c ≤ '9'

/-! ### White space -/

def wideBlanks : List (Nat × Nat) := [
  (0x85, 0x85), (0xa0, 0xa0), (0x1680, 0x1680), (0x2000, 0x200a), (0x2028, 0x2029), (0x202f, 0x202f),
  (0x205f, 0x205f), (0x3000, 0x3000)]

def isWideBlank (c : Char) : Bool :=
  wideBlanks.any fun range => range.1 ≤ c.toNat && c.toNat ≤ range.2

def isPlainBlank (c : Char) : Bool := c == ' ' || (9 ≤ c.toNat && c.toNat ≤ 13)

def isNumeralBlank (c : Char) : Bool := isPlainBlank c || isWideBlank c

/-- Blanks around a word: the four information separators count too. -/
def isBlank (c : Char) : Bool := isNumeralBlank c || (0x1c ≤ c.toNat && c.toNat ≤ 0x1f)

def trimBoth (blank : Char → Bool) (text : List Char) : List Char :=
  ((text.dropWhile blank).reverse.dropWhile blank).reverse

/-! ### Numerals -/

def plainNumeral (text : String) : List Char :=
  (trimBoth isNumeralBlank text.toList).map fun c =>
    match digitValue? c with
    | some value => Char.ofNat (48 + value)
    | none => c

def dropUnderscores (afterDigit : Bool) : List Char → Option (List Char)
  | [] => some []
  | '_' :: c :: rest =>
    if afterDigit && isAsciiDigit c then (dropUnderscores true rest).map (c :: ·) else none
  | '_' :: [] => none
  | c :: rest => (dropUnderscores (isAsciiDigit c) rest).map (c :: ·)

def splitSign : List Char → Bool × List Char
  | '-' :: rest => (true, rest)
  | '+' :: rest => (false, rest)
  | text => (false, text)

def digitsValue (digits : List Char) : Nat :=
  digits.foldl (fun value c => 10 * value + (c.toNat - 48)) 0

def readInt? (text : String) : Option Int := do
  let chars ← dropUnderscores false (plainNumeral text)
  let (negative, digits) := splitSign chars
  if digits.isEmpty || !digits.all isAsciiDigit then none
  else
    let value := digitsValue digits
    some (if negative then -(value : Int) else value)

def spanDigits (text : List Char) : List Char × List Char :=
  (text.takeWhile isAsciiDigit, text.dropWhile isAsciiDigit)

def readExponent? : List Char → Option Int
  | [] => some 0
  | mark :: rest =>
    let (negative, digits) := splitSign rest
    if (mark == 'e' || mark == 'E') && !digits.isEmpty && digits.all isAsciiDigit then
      let value := digitsValue digits
      some (if negative then -(value : Int) else value)
    else none

def asciiLower (c : Char) : Char := if 'A' ≤ c && c ≤ 'Z' then Char.ofNat (c.toNat + 32) else c

def readMagnitude? (negative : Bool) (text : List Char) : Option Binary64 :=
  let word := text.map asciiLower
  if word == "inf".toList || word == "infinity".toList then some (Binary64.infinity negative)
  else if word == "nan".toList then some (Binary64.notANumber negative)
  else
    let (whole, rest) := spanDigits text
    let (part, rest) := match rest with
      | '.' :: rest => spanDigits rest
      | rest => ([], rest)
    if whole.isEmpty && part.isEmpty then none
    else (readExponent? rest).map fun exponent =>
      Decimal.toBinary64 negative ⟨digitsValue (whole ++ part), exponent - part.length⟩

def readFloat? (text : String) : Option Binary64 := do
  let chars ← dropUnderscores false (plainNumeral text)
  let (negative, magnitude) := splitSign chars
  readMagnitude? negative magnitude

end GridRobot.Text
