import GridRobot.Json

/-!
Writing JSON text, either on one line or with one item a line and two spaces a level. All that is not
printable ASCII is escaped, as code units of four digits.
-/
namespace GridRobot.Json

def unitEscape (n : Nat) : List Char := '\\' :: 'u' :: Binary64.hexDigits 4 n

def escapeChar (c : Char) : List Char :=
  if c == '"' then ['\\', '"']
  else if c == '\\' then ['\\', '\\']
  else if c == '\n' then ['\\', 'n']
  else if c == '\r' then ['\\', 'r']
  else if c == '\t' then ['\\', 't']
  else if c.toNat = 8 then ['\\', 'b']
  else if c.toNat = 12 then ['\\', 'f']
  else if 0x20 ≤ c.toNat && c.toNat ≤ 0x7e then [c]
  else if c.toNat < 0x10000 then unitEscape c.toNat
  else
    let offset := c.toNat - 0x10000
    unitEscape (0xd800 + offset / 0x400) ++ unitEscape (0xdc00 + offset % 0x400)

def writeString (text : String) (rest : List Char) : List Char :=
  '"' :: (text.toList.flatMap escapeChar ++ '"' :: rest)

def floatChars (x : Binary64) : List Char :=
  match x.value with
  | .nan => "NaN".toList
  | .infinite true => "-Infinity".toList
  | .infinite false => "Infinity".toList
  | .finite _ => x.text.toList

def numberChars : Number → List Char
  | .int n => (toString n).toList
  | .float x => floatChars x

inductive Spacing
  | line
  | indented
deriving DecidableEq

def Spacing.lead : Spacing → Nat → List Char
  | .line, _ => []
  | .indented, level => '\n' :: List.replicate (2 * level) ' '

def Spacing.between : Spacing → Nat → List Char
  | .line, _ => [',', ' ']
  | .indented, level => ',' :: Spacing.lead .indented level

mutual

/-- A value at a level of nesting, in front of what follows. -/
def write (spacing : Spacing) (level : Nat) (value : Json) (rest : List Char) : List Char :=
  match value with
  | .null => "null".toList ++ rest
  | .bool b => (if b then "true".toList else "false".toList) ++ rest
  | .num n => numberChars n ++ rest
  | .str s => writeString s rest
  | .arr [] => '[' :: ']' :: rest
  | .arr (item :: items) =>
    '[' :: (spacing.lead (level + 1) ++ write spacing (level + 1) item
      (writeItems spacing (level + 1) items (spacing.lead level ++ ']' :: rest)))
  | .obj [] => '\x7b' :: '\x7d' :: rest
  | .obj ((key, value) :: fields) =>
    '\x7b' :: (spacing.lead (level + 1) ++ writeString key (':' :: ' ' :: write spacing (level + 1) value
      (writeFields spacing (level + 1) fields (spacing.lead level ++ '\x7d' :: rest))))

def writeItems (spacing : Spacing) (level : Nat) (items : List Json) (rest : List Char) : List Char :=
  match items with
  | [] => rest
  | item :: items => spacing.between level ++ write spacing level item (writeItems spacing level items rest)

def writeFields (spacing : Spacing) (level : Nat) (fields : List (String × Json)) (rest : List Char) : List Char :=
  match fields with
  | [] => rest
  | (key, value) :: fields =>
    spacing.between level ++ writeString key (':' :: ' ' :: write spacing level value
      (writeFields spacing level fields rest))

end

def compact (value : Json) : String := String.ofList (write .line 0 value [])

def indented (value : Json) : String := String.ofList (write .indented 0 value [])

end GridRobot.Json
