import Pagewright.Decimal.Integer

/-!
Text between quotes and text in markup. A displayed text stands in single quotes, or in double quotes
when it holds a single quote and no double one; characters without a printed form are escaped. Markup
text has five characters replaced by entities.
-/

namespace Pagewright.Text

open Decimal (hexDigits padZeros)

/-- One character of a displayed text between the given quotes. -/
def displayChar (quote c : Char) : List Char :=
  if c == quote || c == '\\' then ['\\', c]
  else if c == '\n' then ['\\', 'n']
  else if c == '\r' then ['\\', 'r']
  else if c == '\t' then ['\\', 't']
  else if isPrintable c then [c]
  else
    let n := c.toNat
    if n < 256 then '\\' :: 'x' :: padZeros 2 (hexDigits n)
    else if n < 65536 then '\\' :: 'u' :: padZeros 4 (hexDigits n)
    else '\\' :: 'U' :: padZeros 8 (hexDigits n)

/-- A text between quotes, as it is displayed inside lists and messages. -/
def displayed (s : String) : String :=
  let chars := s.toList
  let quote := if chars.contains '\'' && !chars.contains '"' then '"' else '\''
  String.ofList (quote :: chars.flatMap (displayChar quote) ++ [quote])

/-- One byte of displayed bytes between the given quotes; bytes beyond ASCII are escaped. -/
def displayByte (quote : Char) (b : UInt8) : List Char :=
  if b < 128 then displayChar quote (Char.ofNat b.toNat)
  else '\\' :: 'x' :: hexDigits b.toNat

/-- Bytes between quotes, as they are displayed inside messages. -/
def displayedBytes (bytes : List UInt8) : String :=
  let quote := if bytes.contains 39 && !bytes.contains 34 then '"' else '\''
  String.ofList ('b' :: quote :: bytes.flatMap (displayByte quote) ++ [quote])

/-- One character of markup text. -/
def escapeChar (c : Char) : List Char :=
  match c with
  | '&' => "&amp;".toList
  | '<' => "&lt;".toList
  | '>' => "&gt;".toList
  | '"' => "&quot;".toList
  | '\'' => "&#x27;".toList
  | c => [c]

/-- A text that means itself inside markup and inside quoted attributes. -/
def escapeMarkup (s : List Char) : List Char := s.flatMap escapeChar

end Pagewright.Text
