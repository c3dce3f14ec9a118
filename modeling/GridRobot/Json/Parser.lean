import GridRobot.Json

/-!
Reading JSON text. Every step returns what it leaves unread, which is shorter than what it was given; a fault keeps how
much was unread where it lies, and from that its line and column follow. An escape for half a surrogate pair is no
character: it is read as U+FFFD, and not kept as what it is. Neither long numerals nor deep nesting are a fault.
-/
namespace GridRobot.Json

inductive SyntaxFault
  | value
  | propertyName
  | colon
  | comma
  | unterminated
  | control
  | escape
  | unicodeEscape
  | extraData
  | byteOrderMark
deriving DecidableEq

def SyntaxFault.text : SyntaxFault → String
  | .value => "Expecting value"
  | .propertyName => "Expecting property name enclosed in double quotes"
  | .colon => "Expecting ':' delimiter"
  | .comma => "Expecting ',' delimiter"
  | .unterminated => "Unterminated string starting at"
  | .control => "Invalid control character at"
  | .escape => "Invalid \\escape"
  | .unicodeEscape => "Invalid \\uXXXX escape"
  | .extraData => "Extra data"
  | .byteOrderMark => "Unexpected UTF-8 BOM (decode using utf-8-sig)"

/-- A fault with the number of characters unread before it. -/
structure Fault where
  reason : SyntaxFault
  unread : Nat
deriving DecidableEq

structure Read (α : Type) (size : Nat) where
  value : α
  rest : List Char
  shorter : rest.length < size

abbrev Reading (α : Type) (size : Nat) := Except Fault (Read α size)

def Read.widen {α : Type} {small large : Nat} (read : Read α small) (le : small ≤ large) : Read α large :=
  ⟨read.value, read.rest, Nat.lt_of_lt_of_le read.shorter le⟩

def Read.map {α β : Type} {size : Nat} (f : α → β) (read : Read α size) : Read β size :=
  ⟨f read.value, read.rest, read.shorter⟩

def isSpace (c : Char) : Bool := c == ' ' || c == '\n' || c == '\r' || c == '\t'

def skipSpace (text : List Char) : List Char := text.dropWhile isSpace

theorem skipSpace_le (text : List Char) : (skipSpace text).length ≤ text.length :=
  (List.dropWhile_sublist _).length_le

def hexValue? (c : Char) : Option Nat :=
  if '0' ≤ c && c ≤ '9' then some (c.toNat - 48)
  else if 'a' ≤ c && c ≤ 'f' then some (c.toNat - 87)
  else if 'A' ≤ c && c ≤ 'F' then some (c.toNat - 55)
  else none

def hex4? (a b c d : Char) : Option Nat := do
  let a ← hexValue? a
  let b ← hexValue? b
  let c ← hexValue? c
  let d ← hexValue? d
  some (((a * 16 + b) * 16 + c) * 16 + d)

def isHigh (n : Nat) : Bool := 0xd800 ≤ n && n < 0xdc00

def isLow (n : Nat) : Bool := 0xdc00 ≤ n && n < 0xe000

def joined (high low : Nat) : Char := Char.ofNat (0x10000 + (high - 0xd800) * 0x400 + (low - 0xdc00))

/-- A code unit on its own; half a pair is shown as the replacement character. -/
def lone (n : Nat) : Char := if isHigh n || isLow n then Char.ofNat 0xfffd else Char.ofNat n

def escapeChar? : Char → Option Char
  | '"' => some '"'
  | '\\' => some '\\'
  | '/' => some '/'
  | 'b' => some (Char.ofNat 8)
  | 'f' => some (Char.ofNat 12)
  | 'n' => some '\n'
  | 'r' => some '\r'
  | 't' => some '\t'
  | _ => none

/-- The code unit after `\u`: four digits that do not end the text. -/
def unit? : List Char → Option (Nat × List Char)
  | a :: b :: c :: d :: next :: rest => (hex4? a b c d).map fun n => (n, next :: rest)
  | _ => none

/-- The low half of a pair, written as a second escape that does not end the text: none where there
is no second escape or it is no low half, a fault where its digits are wrong. -/
def lowHalf (text : List Char) : Except Fault (Option Nat) :=
  match text with
  | '\\' :: 'u' :: a :: b :: c :: d :: _ :: _ =>
    match hex4? a b c d with
    | none => .error ⟨.unicodeEscape, text.length - 1⟩
    | some n => .ok (if isLow n then some n else none)
  | _ => .ok none

theorem unit?_length {text rest : List Char} {n : Nat} (h : unit? text = some (n, rest)) :
    rest.length < text.length := by
  unfold unit? at h
  split at h
  · obtain ⟨_, _, same⟩ := Option.map_eq_some_iff.mp h
    obtain ⟨_, rfl⟩ := Prod.mk.inj same
    simp
  · simp at h

/-- The rest of a string of which `count` characters have been read, the quote included; `done` holds
what they stand for, last first. -/
def string (count : Nat) (done : List Char) (text : List Char) : Reading String text.length :=
  match text with
  | [] => .error ⟨.unterminated, count⟩
  | '"' :: rest => .ok ⟨String.ofList done.reverse, rest, by simp⟩
  | '\\' :: [] => .error ⟨.unterminated, count + 1⟩
  | '\\' :: 'u' :: rest =>
    match found : unit? rest with
    | none => .error ⟨.unicodeEscape, rest.length + 1⟩
    | some (n, after) => do
      have shorter := unit?_length found
      let low ← if isHigh n then lowHalf after else .ok none
      match low with
      | some low =>
        let read ← string (count + 12) (joined n low :: done) (after.drop 6)
        return read.widen (by simp; omega)
      | none =>
        let read ← string (count + 6) (lone n :: done) after
        return read.widen (by simp; omega)
  | '\\' :: c :: rest =>
    match escapeChar? c with
    | none => .error ⟨.escape, rest.length + 2⟩
    | some c => do
      let read ← string (count + 2) (c :: done) rest
      return read.widen (by simp; omega)
  | c :: rest =>
    if c.toNat < 0x20 then .error ⟨.control, rest.length + 1⟩
    else do
      let read ← string (count + 1) (c :: done) rest
      return read.widen (by simp)
termination_by text.length
decreasing_by all_goals grind

structure Numeral where
  negative : Bool
  whole : List Char
  fraction : List Char
  exponent : Option (Bool × List Char)

def fractionOf : List Char → List Char × List Char
  | '.' :: rest =>
    let (digits, after) := Text.spanDigits rest
    if digits.isEmpty then ([], '.' :: rest) else (digits, after)
  | text => ([], text)

def exponentOf (text : List Char) : Option (Bool × List Char) × List Char :=
  match text with
  | [] => (none, [])
  | mark :: rest =>
    if mark == 'e' || mark == 'E' then
      let (negative, after) := Text.splitSign rest
      let (digits, after) := Text.spanDigits after
      if digits.isEmpty then (none, text) else (some (negative, digits), after)
    else (none, text)

def wholeOf : List Char → List Char × List Char
  | '0' :: rest => (['0'], rest)
  | text => Text.spanDigits text

def Numeral.number (n : Numeral) : Number :=
  if n.fraction.isEmpty && n.exponent.isNone then
    let value : Int := Text.digitsValue n.whole
    .int (if n.negative then -value else value)
  else
    let power : Int := match n.exponent with
      | none => 0
      | some (negative, digits) =>
        if negative then -(Text.digitsValue digits : Int) else Text.digitsValue digits
    .float (Decimal.toBinary64 n.negative
      ⟨Text.digitsValue (n.whole ++ n.fraction), power - n.fraction.length⟩)

def numeral? (text : List Char) : Option (Numeral × List Char) :=
  let (negative, rest) := match text with
    | '-' :: rest => (true, rest)
    | _ => (false, text)
  let (whole, rest) := wholeOf rest
  if whole.isEmpty then none
  else
    let (fraction, rest) := fractionOf rest
    let (exponent, rest) := exponentOf rest
    some (⟨negative, whole, fraction, exponent⟩, rest)

def words : List (List Char × Json) := [
  ("null".toList, .null), ("true".toList, .bool true), ("false".toList, .bool false),
  ("NaN".toList, .num (.float .nan)), ("Infinity".toList, .num (.float (.infinity false))),
  ("-Infinity".toList, .num (.float (.infinity true)))]

def scalar? (text : List Char) : Option (Json × List Char) :=
  match words.find? fun word => word.1.isPrefixOf text with
  | some (word, value) => some (value, text.drop word.length)
  | none => (numeral? text).map fun (n, rest) => (.num n.number, rest)

theorem splitSign_le (text : List Char) : (Text.splitSign text).2.length ≤ text.length := by
  unfold Text.splitSign
  split <;> simp

theorem dropDigits_le (text : List Char) : (Text.spanDigits text).2.length ≤ text.length :=
  (List.dropWhile_sublist _).length_le

theorem fractionOf_le (text : List Char) : (fractionOf text).2.length ≤ text.length := by
  unfold fractionOf
  split
  · rename_i rest
    have := dropDigits_le rest
    dsimp only
    split <;> grind
  · simp

theorem exponentOf_le (text : List Char) : (exponentOf text).2.length ≤ text.length := by
  unfold exponentOf
  split
  · simp
  · rename_i mark rest
    have sign := splitSign_le rest
    have digits := dropDigits_le (Text.splitSign rest).2
    split
    · dsimp only
      split <;> grind
    · simp

theorem spanDigits_length {text : List Char} (digits : (Text.spanDigits text).1.isEmpty = false) :
    (Text.spanDigits text).2.length < text.length := by
  unfold Text.spanDigits at digits ⊢
  have whole := congrArg List.length (List.takeWhile_append_dropWhile (p := Text.isAsciiDigit) (l := text))
  cases taken : text.takeWhile Text.isAsciiDigit with
  | nil => simp [taken] at digits
  | cons c rest =>
    rw [taken] at whole
    simp at whole ⊢
    omega

theorem wholeOf_length {text : List Char} (digits : (wholeOf text).1.isEmpty = false) :
    (wholeOf text).2.length < text.length := by
  unfold wholeOf at digits ⊢
  split at digits
  · simp
  · exact spanDigits_length digits

theorem numeral?_length {text rest : List Char} {n : Numeral} (h : numeral? text = some (n, rest)) :
    rest.length < text.length := by
  unfold numeral? at h
  generalize signed : (match text with
    | '-' :: rest => (true, rest)
    | _ => (false, text)) = start at h
  have le : start.2.length ≤ text.length := by
    split at signed <;> subst signed <;> simp
  dsimp only at h
  split at h
  · simp at h
  · rename_i digits
    have whole := @wholeOf_length start.2 (by simpa using digits)
    have fraction := fractionOf_le (wholeOf start.2).2
    have exponent := exponentOf_le (fractionOf (wholeOf start.2).2).2
    obtain ⟨_, rfl⟩ := Prod.mk.inj (Option.some.inj h)
    omega

theorem words_nonempty : ∀ word ∈ words, 0 < word.1.length := by
  simp [words]

theorem scalar?_length {text rest : List Char} {v : Json} (h : scalar? text = some (v, rest)) :
    rest.length < text.length := by
  unfold scalar? at h
  split at h
  · rename_i word value found
    have nonempty := words_nonempty _ (List.mem_of_find?_eq_some found)
    have matched : word <+: text := by simpa using List.find?_some found
    have fits := matched.length_le
    obtain ⟨_, rfl⟩ := Prod.mk.inj (Option.some.inj h)
    simp at nonempty fits ⊢
    omega
  · obtain ⟨⟨n, r⟩, found, same⟩ := Option.map_eq_some_iff.mp h
    obtain ⟨_, rfl⟩ := Prod.mk.inj same
    exact numeral?_length found

mutual

def value (text : List Char) : Reading Json text.length :=
  match text with
  | '"' :: rest => do
    let read ← string 1 [] rest
    return (read.map .str).widen (by simp)
  | '[' :: rest => do
    match after : skipSpace rest with
    | ']' :: rest' => return ⟨.arr [], rest', by grind [skipSpace_le rest]⟩
    | inner => do
      have shorter := skipSpace_le rest
      let read ← items [] inner
      return (read.map .arr).widen (by grind)
  | '\x7b' :: rest => do
    match after : skipSpace rest with
    | '\x7d' :: rest' => return ⟨.obj [], rest', by grind [skipSpace_le rest]⟩
    | inner => do
      have shorter := skipSpace_le rest
      let read ← members [] inner
      return (read.map .obj).widen (by grind)
  | text =>
    match found : scalar? text with
    | none => .error ⟨.value, text.length⟩
    | some (value, rest) => .ok ⟨value, rest, scalar?_length found⟩
termination_by (text.length, 0)
decreasing_by all_goals grind

def items (done : List Json) (text : List Char) : Reading (List Json) text.length := do
  let item ← value text
  have shorter := item.shorter
  have skipped := skipSpace_le item.rest
  match after : skipSpace item.rest with
  | ']' :: rest => return ⟨(item.value :: done).reverse, rest, by grind⟩
  | ',' :: rest =>
    have skippedNext := skipSpace_le rest
    let read ← items (item.value :: done) (skipSpace rest)
    return read.widen (by grind)
  | rest => .error ⟨.comma, rest.length⟩
termination_by (text.length, 1)
decreasing_by all_goals grind

def members (done : Fields) (text : List Char) : Reading Fields text.length :=
  match text with
  | '"' :: inner => do
    let key ← string 1 [] inner
    have shorterKey := key.shorter
    have skippedKey := skipSpace_le key.rest
    match afterKey : skipSpace key.rest with
    | ':' :: next =>
      have skippedColon := skipSpace_le next
      let item ← value (skipSpace next)
      have shorter := item.shorter
      have skipped := skipSpace_le item.rest
      let fields := done.insert key.value item.value
      match after : skipSpace item.rest with
      | '\x7d' :: rest => return ⟨fields, rest, by grind⟩
      | ',' :: rest =>
        have skippedNext := skipSpace_le rest
        let read ← members fields (skipSpace rest)
        return read.widen (by grind)
      | rest => .error ⟨.comma, rest.length⟩
    | rest => .error ⟨.colon, rest.length⟩
  | text => .error ⟨.propertyName, text.length⟩
termination_by (text.length, 1)
decreasing_by all_goals grind

end

structure ParseError where
  reason : SyntaxFault
  line : Nat
  column : Nat
  offset : Nat
deriving DecidableEq

/-- Lines count from 1, columns from 1 after the last line feed, offsets from 0. -/
def Fault.locate (text : List Char) (fault : Fault) : ParseError :=
  let offset := text.length - fault.unread
  let before := text.take offset
  let column := (before.reverse.takeWhile (· != '\n')).length + 1
  ⟨fault.reason, before.count '\n' + 1, column, offset⟩

def ParseError.message (error : ParseError) : String :=
  error.reason.text ++ ": line " ++ toString error.line ++ " column " ++ toString error.column ++
    " (char " ++ toString error.offset ++ ")"

def document (text : List Char) : Except Fault Json := do
  let read ← value (skipSpace text)
  match skipSpace read.rest with
  | [] => return read.value
  | rest => .error ⟨.extraData, rest.length⟩

def parseUnmarked (text : List Char) : Except ParseError Json := (document text).mapError (Fault.locate text)

def parse (text : List Char) : Except ParseError Json :=
  if text.head? == some (Char.ofNat 0xfeff) then .error ⟨.byteOrderMark, 1, 1, 0⟩
  else parseUnmarked text

end GridRobot.Json
