import Pagewright.Decimal.Integer

/-!
UTF-8. A strict reading refuses the first ill-formed sequence; a lenient one puts the replacement
character in its place. An ill-formed sequence is the longest start of a character's encoding that does
not go on, or a single byte that starts none.
-/

namespace Pagewright.Text

/-- Why bytes are no text. -/
inductive Utf8Fault where
  | invalidStart
  | invalidContinuation
  | truncated
deriving DecidableEq, Repr

def Utf8Fault.reason : Utf8Fault → String
  | .invalidStart => "invalid start byte"
  | .invalidContinuation => "invalid continuation byte"
  | .truncated => "unexpected end of data"

/-- How a first byte goes on: its own bits, the bounds of the second byte and the number of bytes
after the first. -/
def leadByte? (b : Nat) : Option (Nat × Nat × Nat × Nat) :=
  if b < 0xc2 then none
  else if b < 0xe0 then some (b - 0xc0, 0x80, 0xbf, 1)
  else if b == 0xe0 then some (0, 0xa0, 0xbf, 2)
  else if b == 0xed then some (0xd, 0x80, 0x9f, 2)
  else if b < 0xf0 then some (b - 0xe0, 0x80, 0xbf, 2)
  else if b == 0xf0 then some (0, 0x90, 0xbf, 3)
  else if b < 0xf4 then some (b - 0xf0, 0x80, 0xbf, 3)
  else if b == 0xf4 then some (4, 0x80, 0x8f, 3)
  else none

/-- The continuation of a character: its code point, or a fault; with the bytes used and the rest. -/
def continueChar (low high : Nat) : Nat → Nat → Nat → List UInt8 →
    Except Utf8Fault Nat × Nat × List UInt8
  | 0, code, used, rest => (.ok code, used, rest)
  | _ + 1, _, used, [] => (.error .truncated, used, [])
  | owed + 1, code, used, b :: rest =>
    if low ≤ b.toNat && b.toNat ≤ high then
      continueChar 0x80 0xbf owed (code * 64 + b.toNat % 64) (used + 1) rest
    else (.error .invalidContinuation, used, b :: rest)

/-- The first character of bytes that start with `b`. -/
def decodeOne (b : UInt8) (rest : List UInt8) : Except Utf8Fault Char × Nat × List UInt8 :=
  if b < 0x80 then (.ok (Char.ofNat b.toNat), 1, rest)
  else match leadByte? b.toNat with
    | none => (.error .invalidStart, 1, rest)
    | some (bits, low, high, owed) =>
      let (code, used, rest) := continueChar low high owed bits 1 rest
      (code.map Char.ofNat, used, rest)

def decodeLenientWithin : Nat → List Char → List UInt8 → List Char
  | 0, acc, _ => acc.reverse
  | _ + 1, acc, [] => acc.reverse
  | fuel + 1, acc, b :: rest => match decodeOne b rest with
    | (.ok c, _, rest) => decodeLenientWithin fuel (c :: acc) rest
    | (.error _, _, rest) => decodeLenientWithin fuel (Char.ofNat 0xfffd :: acc) rest

/-- Bytes as text, with the replacement character for every ill-formed sequence. -/
def decodeLenient (bytes : List UInt8) : List Char := decodeLenientWithin bytes.length [] bytes

/-- The first ill-formed sequence: its place, its length, its first byte and what is wrong. -/
structure Utf8Refusal where
  position : Nat
  length : Nat
  byte : UInt8
  fault : Utf8Fault
deriving DecidableEq, Repr

def decodeStrictWithin : Nat → Nat → List Char → List UInt8 → Except Utf8Refusal (List Char)
  | 0, _, acc, _ => .ok acc.reverse
  | _ + 1, _, acc, [] => .ok acc.reverse
  | fuel + 1, position, acc, b :: rest => match decodeOne b rest with
    | (.ok c, used, rest) => decodeStrictWithin fuel (position + used) (c :: acc) rest
    | (.error fault, used, _) => .error ⟨position, used, b, fault⟩

/-- Bytes as text, if they are well formed. -/
def decodeStrict (bytes : List UInt8) : Except Utf8Refusal (List Char) :=
  decodeStrictWithin bytes.length 0 [] bytes

/-- A refusal in words. -/
def Utf8Refusal.message (r : Utf8Refusal) : String :=
  if r.length == 1 then
    "'utf-8' codec can't decode byte 0x" ++ String.ofList (Decimal.hexByte r.byte.toNat)
      ++ s!" in position {r.position}: {r.fault.reason}"
  else "'utf-8' codec can't decode bytes in position "
    ++ s!"{r.position}-{r.position + r.length - 1}: {r.fault.reason}"

/-- The bytes of a text. -/
def encode (s : List Char) : List UInt8 := (String.ofList s).toUTF8.toList

/-- The bytes of ASCII text with percent escapes taken as bytes; a percent sign without two
hexadecimal digits after it stands for itself. -/
def percentBytes : List Char → List UInt8
  | '%' :: a :: b :: rest => match hexValue? a, hexValue? b with
    | some high, some low => UInt8.ofNat (high * 16 + low) :: percentBytes rest
    | _, _ => 37 :: percentBytes (a :: b :: rest)
  | c :: rest => UInt8.ofNat c.toNat :: percentBytes rest
  | [] => []

def isAscii (c : Char) : Bool := c.toNat < 128

/-- A text with its percent escapes decoded, run of ASCII by run of ASCII. -/
def percentDecodeWithin : Nat → List Char → List Char
  | 0, s => s
  | _ + 1, [] => []
  | fuel + 1, s =>
    let (ascii, rest) := s.span isAscii
    let (other, rest) := rest.span (!isAscii ·)
    decodeLenient (percentBytes ascii) ++ other ++ percentDecodeWithin fuel rest

/-- A text with its percent escapes decoded. -/
def percentDecode (s : List Char) : List Char := percentDecodeWithin s.length s

end Pagewright.Text
