import Pagewright.Text.Quoted
import Pagewright.Text.Scan

/-!
ZIP archives with stored members. `pack` writes a member as a local record with its data and as an
entry of the central directory, which the end record closes. `unpack` starts from the end record, reads
the directory and looks up the data of every entry; data that do not fit their check, a cyclic redundancy
check of 32 bits, belong to a damaged member, which is found out when the member is read.
-/

namespace Pagewright.Archive

/-- One step of the division by the polynomial of the check, lowest bit first. -/
def divisionStep (c : UInt32) : UInt32 :=
  if c &&& 1 == 1 then (c >>> 1) ^^^ 0xedb88320 else c >>> 1

/-- The remainders of the single bytes. -/
def remainders : Array UInt32 :=
  (Array.range 256).map fun byte =>
    (List.range 8).foldl (fun c _ => divisionStep c) byte.toUInt32

/-- The check of one more byte. -/
def checkByte (c : UInt32) (byte : UInt8) : UInt32 :=
  remainders.getD ((c ^^^ byte.toUInt32) &&& 0xff).toNat 0 ^^^ (c >>> 8)

/-- The check of data. -/
def checksum (data : ByteArray) : UInt32 := data.foldl checkByte 0xffffffff ^^^ 0xffffffff

/-- A member of an archive; a name that ends in a slash is that of a directory. -/
structure Member where
  name : String
  /-- The data, or why they cannot be read. -/
  data : Except String ByteArray

/-- Whether a member is a directory. -/
def Member.isDirectory (m : Member) : Bool := m.name.endsWith "/"

/-- A number in the given count of bytes, lowest first. -/
def number (width value : Nat) : List UInt8 :=
  (List.range width).map fun i => UInt8.ofNat (value / Nat.pow 256 i)

/-- The number that bytes at a position write, lowest first. -/
def numberAt (data : ByteArray) (position width : Nat) : Nat :=
  (List.range width).foldr (fun i rest => (data[position + i]?.getD 0).toNat + 256 * rest) 0

def bytesOf (parts : List (List UInt8)) : ByteArray := parts.flatten.toByteArray

def localSignature : Nat := 0x04034b50

def directorySignature : Nat := 0x02014b50

def endSignature : Nat := 0x06054b50

def localSize : Nat := 30

def directorySize : Nat := 46

def endSize : Nat := 22

/-- The flag of names in UTF-8. -/
def utf8Flag : Nat := 0x800

/-- The date of all packed members: the first day that the format knows. -/
def packedDate : Nat := 33

/-- What both records of a member say about its data. -/
def dataFields (name data : ByteArray) : List (List UInt8) :=
  let flags := if name.toList.all (· < 128) then 0 else utf8Flag
  [number 2 20, number 2 flags, number 2 0, number 2 0, number 2 packedDate,
    number 4 (checksum data).toNat, number 4 data.size, number 4 data.size, number 2 name.size,
    number 2 0]

def localRecord (name data : ByteArray) : ByteArray :=
  bytesOf (number 4 localSignature :: dataFields name data) ++ name ++ data

def directoryRecord (name data : ByteArray) (offset : Nat) : ByteArray :=
  bytesOf ([number 4 directorySignature, number 2 20] ++ dataFields name data
    ++ [number 2 0, number 2 0, number 2 0, number 4 0, number 4 offset]) ++ name

def endRecord (count size offset : Nat) : ByteArray :=
  bytesOf [number 4 endSignature, number 2 0, number 2 0, number 2 count, number 2 count,
    number 4 size, number 4 offset, number 2 0]

/-- An archive of the given members in order. -/
def pack (members : List (String × ByteArray)) : ByteArray :=
  let (records, directory) := members.foldl (fun (acc : ByteArray × ByteArray) m =>
    let name := m.1.toUTF8
    (acc.1 ++ localRecord name m.2, acc.2 ++ directoryRecord name m.2 acc.1.size))
    (ByteArray.empty, ByteArray.empty)
  records ++ directory ++ endRecord members.length directory.size records.size

/-- The last position at or before `start` where the end signature stands. -/
def lastEnd? (data : ByteArray) : Nat → Option Nat
  | 0 => none
  | start + 1 =>
    if numberAt data start 4 == endSignature then some start else lastEnd? data start

/-- The position of the end record: at the very end, or in front of a comment. -/
def endPosition? (data : ByteArray) : Option Nat :=
  if data.size < endSize then none
  else
    let last := data.size - endSize
    if numberAt data last 4 == endSignature && numberAt data (last + 20) 2 == 0 then some last
    else
      match lastEnd? data (data.size - 3) with
      | some position =>
        if position + endSize ≤ data.size && data.size ≤ position + endSize + 65536 then some position
        else none
      | none => none

/-- Whether data look like an archive. -/
def isArchive (data : ByteArray) : Bool := (endPosition? data).isSome

/-- The upper half of the character set of names that are not in UTF-8. -/
def upperHalf : List Char :=
  ("ÇüéâäàåçêëèïîìÄÅÉæÆôöòûùÿÖÜ¢£¥₧ƒáíóúñÑªº¿⌐¬½¼¡«»░▒▓│┤╡╢╖╕╣║╗╝╜╛┐└┴┬├─┼╞╟╚╔╩╦╠═╬╧╨╤╥╙╘╒╓╫╪┘┌█▄▌▐▀"
    ++ "αßΓπΣσµτΦΘΩδ∞φε∩≡±≥≤⌠⌡÷≈°∙·√ⁿ²■\u00a0").toList

/-- A member name from its bytes; it ends before a zero byte. -/
def nameOf (utf8 : Bool) (bytes : ByteArray) : String :=
  let chars :=
    if utf8 then ((String.fromUTF8? bytes).getD "").toList
    else bytes.toList.map fun b =>
      if b < 128 then Char.ofNat b.toNat else upperHalf.getD (b.toNat - 128) ' '
  String.ofList (chars.takeWhile (·.toNat != 0))

/-- The data of a member whose local record starts at a position. -/
def memberData (data : ByteArray) (name : String) (position method check size : Nat) :
    Except String ByteArray :=
  if data.size < position + localSize then .error "Truncated file header"
  else if numberAt data position 4 != localSignature then .error "Bad magic number for file header"
  else if method != 0 then .error "That compression method is not supported"
  else
    let start := position + localSize + numberAt data (position + 26) 2
      + numberAt data (position + 28) 2
    let body := data.extract start (start + size)
    if (checksum body).toNat == check then .ok body
    else .error s!"Bad CRC-32 for file {Text.displayed name}"

/-- The members of a central directory between two positions; `shift` is what stands in front of the
archive and `fuel` bounds their number. -/
def readDirectory (data : ByteArray) (shift stop : Nat) :
    Nat → Nat → Except String (List Member)
  | 0, _ => .ok []
  | fuel + 1, position =>
    if stop ≤ position then .ok []
    else if stop < position + directorySize then .error "Truncated central directory"
    else if numberAt data position 4 != directorySignature then
      .error "Bad magic number for central directory"
    else
      let nameSize := numberAt data (position + 28) 2
      let next := position + directorySize + nameSize + numberAt data (position + 30) 2
        + numberAt data (position + 32) 2
      let utf8 := numberAt data (position + 8) 2 &&& utf8Flag != 0
      let name := nameOf utf8
        (data.extract (position + directorySize) (position + directorySize + nameSize))
      let payload := memberData data name (numberAt data (position + 42) 4 + shift)
        (numberAt data (position + 10) 2) (numberAt data (position + 16) 4)
        (numberAt data (position + 20) 4)
      do return ⟨name, payload⟩ :: (← readDirectory data shift stop fuel next)

/-- The members of an archive in the order of its directory. -/
def unpack (data : ByteArray) : Except String (List Member) :=
  match endPosition? data with
  | none => .error "File is not a zip file"
  | some position =>
    let size := numberAt data (position + 12) 4
    let offset := numberAt data (position + 16) 4
    if position < size then .error "Bad offset for central directory"
    else
      let start := position - size
      readDirectory data (start - offset) (start + size) (data.size + 1) start

end Pagewright.Archive
