import Pagewright.Json.Printer
import Pagewright.Json.Reader
import Pagewright.Text.Utf8
import Pagewright.Toml.Printer
import Pagewright.Toml.Reader

/-!
What a file holds: bytes, or a document that was written as JSON, YAML or TOML. A written document is
kept as its value, so that reading it back gives the value that was written; its text is printed when
the file is read as text. YAML documents are written in the flow style that YAML shares with JSON.
-/

namespace Pagewright

/-- The language of a written document. -/
inductive Form where
  | json (layout : Json.Layout)
  | yaml
  | toml

/-- What a file holds. -/
inductive Content where
  | bytes (data : ByteArray)
  | document (form : Form) (v : Value)

namespace Content

instance : Inhabited Content := ⟨.bytes ByteArray.empty⟩

/-- A file that holds a text. -/
def ofText (text : String) : Content := .bytes text.toUTF8

def printed (form : Form) (v : Value) : String :=
  match form with
  | .json layout => Json.print layout v
  | .yaml => Json.print .spaced v
  | .toml => (Toml.print (v.fields?.getD [])).1

/-- The bytes of a file. -/
def data : Content → ByteArray
  | .bytes data => data
  | .document form v => (printed form v).toUTF8

/-- The size of a file in bytes. -/
def size (content : Content) : Nat := content.data.size

/-- Bytes as text, if they are well formed. -/
def decode (data : ByteArray) : Except Fault String :=
  match String.fromUTF8? data with
  | some text => .ok text
  | none => match Text.decodeStrict data.toList with
    | .ok chars => .ok (String.ofList chars)
    | .error refusal => .error (.undecodable data.toList refusal)

def withLineFeeds (text : String) : String := String.ofList (Text.normalizeLines text.toList)

/-- The text of a file, lines ending in line feeds. -/
def text (content : Content) : Except Fault String := withLineFeeds <$> decode content.data

/-- The text of a file with the replacement character for all that is no text. -/
def lenientText (content : Content) : String :=
  match String.fromUTF8? content.data with
  | some text => withLineFeeds text
  | none => withLineFeeds (String.ofList (Text.decodeLenient content.data.toList))

/-- The value of a text that was written as JSON. -/
def jsonOf (distinct : Bool) (text : String) : Except Fault Value :=
  (Json.read text distinct).mapError .notJson

/-- The value of a file that was written as JSON. -/
def json (content : Content) : Except Fault Value :=
  match content with
  | .document (.json _) v => .ok v
  | content => do jsonOf false (← decode content.data)

/-- A character that may stand in a YAML text. -/
def isYamlChar (c : Char) : Bool :=
  let n := c.toNat
  if n < 127 then 32 ≤ n || c == '\t' || c == '\n' || c == '\r'
  else n == 0x85 || (0xa0 ≤ n && n != 0xfffe && n != 0xffff)

/-- The value of a YAML text; a blank text holds nothing. -/
def yamlOf (distinct : Bool) (text : String) : Except Fault Value :=
  let body := match text.toList with
    | c :: rest => if c.toNat == 0xfeff then rest else c :: rest
    | [] => []
  if !body.all isYamlChar then .error (.notYaml "special characters are not allowed")
  else if body.all Text.isBlank then .ok .null
  else match Json.read (String.ofList body) distinct with
    | .ok v => .ok v
    | .error (.depth _) => .error .tooDeep
    | .error (.longNumber digits) => .error (.badValue (Decimal.limitText digits))
    | .error (.duplicateKey key) => .error (.notYaml s!"found duplicate key {Text.displayed key}")
    | .error fault => .error (.notYaml fault.message)

/-- The value of a file that was written as YAML. -/
def yaml (content : Content) : Except Fault Value :=
  match content with
  | .document .yaml v => .ok v
  | content => do yamlOf false (← content.text)

/-- The table of a file that was written as TOML, with its entries in the order of the text. A malformed
text holds an empty table. -/
def toml (content : Content) : Except Fault (Table Value) :=
  match content with
  | .document .toml v => .ok ((Toml.arranged v).fields?.getD [])
  | content => do return (Toml.read? (← decode content.data)).getD []

end Content

end Pagewright
