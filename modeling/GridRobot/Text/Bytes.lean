import GridRobot.Number.Binary64

/-!
Bytes as text. A document names its own encoding by a byte order mark or by where its first bytes are
zero; a text file is UTF-8 with every line end read as a line feed. A fault says which bytes are wrong.
-/
namespace GridRobot.Text

inductive Encoding
  | utf8
  | utf16 (bigEndian : Bool)
  | utf32 (bigEndian : Bool)
deriving DecidableEq

def Encoding.name : Encoding → String
  | .utf8 => "utf-8"
  | .utf16 false => "utf-16-le"
  | .utf16 true => "utf-16-be"
  | .utf32 false => "utf-32-le"
  | .utf32 true => "utf-32-be"

inductive DecodingReason
  | invalidStart
  | invalidContinuation
  | endOfData
  | truncated
  | outOfRange
deriving DecidableEq

def DecodingReason.text : DecodingReason → String
  | .invalidStart => "invalid start byte"
  | .invalidContinuation => "invalid continuation byte"
  | .endOfData => "unexpected end of data"
  | .truncated => "truncated data"
  | .outOfRange => "code point not in range(0x110000)"

structure DecodingFault where
  encoding : Encoding
  reason : DecodingReason
  first : Nat
  count : Nat
  byte : Nat
deriving DecidableEq

def DecodingFault.message (fault : DecodingFault) : String :=
  let place := if fault.count ≤ 1 then
      "byte 0x" ++ String.ofList (Binary64.hexDigits 2 fault.byte) ++ " in position " ++ toString fault.first
    else "bytes in position " ++ toString fault.first ++ "-" ++ toString (fault.first + fault.count - 1)
  "'" ++ fault.encoding.name ++ "' codec can't decode " ++ place ++ ": " ++ fault.reason.text

abbrev Decoded := Except (DecodingReason × Nat) (Char × Nat)

def isContinuation (b : Nat) : Bool := 0x80 ≤ b && b < 0xc0

/-- The second byte excludes overlong forms, surrogates and what is too large. -/
def secondFits (lead second : Nat) : Bool :=
  isContinuation second &&
    !(lead == 0xe0 && second < 0xa0) && !(lead == 0xed && 0xa0 ≤ second) &&
    !(lead == 0xf0 && second < 0x90) && !(lead == 0xf4 && 0x90 ≤ second)

def isSurrogate (lead second third : Nat) : Bool :=
  lead == 0xed && 0xa0 ≤ second && second < 0xc0 && isContinuation third

def replacement : Char := Char.ofNat 0xfffd

/-- A surrogate that is let through is shown as the replacement character. -/
def charOf (n : Nat) : Char := if 0xd800 ≤ n && n < 0xe000 then replacement else Char.ofNat n

def utf8Char (surrogates : Bool) : List Nat → Decoded
  | [] => .error (.endOfData, 0)
  | a :: rest =>
    if a < 0x80 then .ok (Char.ofNat a, 1)
    else if a < 0xc2 || 0xf5 ≤ a then .error (.invalidStart, 1)
    else match rest with
    | [] => .error (.endOfData, 1)
    | b :: rest =>
      if surrogates && (rest.head?.map (isSurrogate a b)).getD false then .ok (replacement, 3)
      else if !secondFits a b then .error (.invalidContinuation, 1)
      else if a < 0xe0 then .ok (Char.ofNat (a % 32 * 64 + b % 64), 2)
      else match rest with
      | [] => .error (.endOfData, 2)
      | c :: rest =>
        if !isContinuation c then .error (.invalidContinuation, 2)
        else if a < 0xf0 then .ok (Char.ofNat ((a % 16 * 64 + b % 64) * 64 + c % 64), 3)
        else match rest with
        | [] => .error (.endOfData, 3)
        | d :: _ =>
          if !isContinuation d then .error (.invalidContinuation, 3)
          else .ok (Char.ofNat (((a % 8 * 64 + b % 64) * 64 + c % 64) * 64 + d % 64), 4)

def joinBytes (bigEndian : Bool) (bytes : List Nat) : Nat :=
  (if bigEndian then bytes else bytes.reverse).foldl (fun n b => 256 * n + b) 0

def isHighSurrogate (n : Nat) : Bool := 0xd800 ≤ n && n < 0xdc00

def isLowSurrogate (n : Nat) : Bool := 0xdc00 ≤ n && n < 0xe000

def joinSurrogates (high low : Nat) : Char := Char.ofNat (0x10000 + (high - 0xd800) * 0x400 + (low - 0xdc00))

def utf16Char (bigEndian : Bool) : List Nat → Decoded
  | a :: b :: rest =>
    let unit := joinBytes bigEndian [a, b]
    let next := match rest with
      | c :: d :: _ => joinBytes bigEndian [c, d]
      | _ => 0
    if isHighSurrogate unit && isLowSurrogate next then .ok (joinSurrogates unit next, 4)
    else .ok (charOf unit, 2)
  | bytes => .error (.truncated, bytes.length)

def utf32Char (bigEndian : Bool) : List Nat → Decoded
  | a :: b :: c :: d :: _ =>
    let code := joinBytes bigEndian [a, b, c, d]
    if 0x110000 ≤ code then .error (.outOfRange, 4) else .ok (charOf code, 4)
  | bytes => .error (.truncated, bytes.length)

def Encoding.char (surrogates : Bool) : Encoding → List Nat → Decoded
  | .utf8 => utf8Char surrogates
  | .utf16 bigEndian => utf16Char bigEndian
  | .utf32 bigEndian => utf32Char bigEndian

/-- Characters one after the other; `position` is where `bytes` starts, `fuel` their number. -/
def decodeFrom (surrogates : Bool) (encoding : Encoding) (position : Nat) (done : List Char) :
    Nat → List Nat → Except DecodingFault (List Char)
  | 0, _ => .ok done.reverse
  | _, [] => .ok done.reverse
  | fuel + 1, byte :: rest =>
    match encoding.char surrogates (byte :: rest) with
    | .error (reason, count) => .error ⟨encoding, reason, position, count, byte⟩
    | .ok (c, taken) =>
      decodeFrom surrogates encoding (position + taken) (c :: done) fuel ((byte :: rest).drop taken)

/-- The encoding that the first bytes show, how many bytes the mark takes, and from where faults are
counted. -/
def detectEncoding : List Nat → Encoding × Nat × Nat
  | 0 :: 0 :: 0xfe :: 0xff :: _ => (.utf32 true, 4, 4)
  | 0xff :: 0xfe :: 0 :: 0 :: _ => (.utf32 false, 4, 4)
  | 0xfe :: 0xff :: _ => (.utf16 true, 2, 2)
  | 0xff :: 0xfe :: _ => (.utf16 false, 2, 2)
  | 0xef :: 0xbb :: 0xbf :: _ => (.utf8, 3, 0)
  | a :: b :: c :: d :: _ =>
    if a == 0 then (if b == 0 then .utf32 true else .utf16 true, 0, 0)
    else if b == 0 then (if c == 0 && d == 0 then .utf32 false else .utf16 false, 0, 0)
    else (.utf8, 0, 0)
  | [a, b] =>
    if a == 0 then (.utf16 true, 0, 0) else if b == 0 then (.utf16 false, 0, 0) else (.utf8, 0, 0)
  | _ => (.utf8, 0, 0)

def decodeDocument (bytes : List UInt8) : Except DecodingFault (List Char) :=
  let codes := bytes.map UInt8.toNat
  let (encoding, skipped, position) := detectEncoding codes
  decodeFrom true encoding position [] codes.length (codes.drop skipped)

def unifyLines : List Char → List Char
  | [] => []
  | '\r' :: '\n' :: rest => '\n' :: unifyLines rest
  | '\r' :: rest => '\n' :: unifyLines rest
  | c :: rest => c :: unifyLines rest

def decodeFile (bytes : List UInt8) : Except DecodingFault (List Char) :=
  let codes := bytes.map UInt8.toNat
  (decodeFrom false .utf8 0 [] codes.length codes).map unifyLines

end GridRobot.Text
