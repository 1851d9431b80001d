import Pagewright.Text.Quoted
import Pagewright.Text.Utf8

/-!
Faults: failures that no part of the library reports in words of its own. Each has a label and a
message, which are shown when a fault is the cause of a reported failure or ends a command.
-/

namespace Pagewright

/-- Why a JSON text is refused; `text` says where. -/
inductive JsonFault where
  /-- The text breaks the grammar. -/
  | grammar (text : String)
  /-- A control character stands inside a string. -/
  | controlCharacter (text : String)
  /-- The text nests too deep, where a container of a kind starts. -/
  | depth (container : String)
  /-- A whole number has too many digits. -/
  | longNumber (digits : Nat)
  /-- A key occurs twice where keys have to differ. -/
  | duplicateKey (key : String)
deriving Repr, DecidableEq

/-- What the file system refuses. -/
inductive FileFault where
  | notFound
  | exists
  | notDirectory
  | isDirectory
  | nameTooLong
  | notEmpty
deriving Repr, DecidableEq

inductive Fault where
  /-- A value of the wrong kind. -/
  | wrongType (message : String)
  /-- An operation that a kind of value does not have. -/
  | noAttribute (message : String)
  /-- A value of the right kind that is out of the question. -/
  | badValue (message : String)
  /-- A document tree that breaks its rules. -/
  | badTree (message : String)
  /-- A required key that an object lacks. -/
  | missingKey (key : String)
  /-- A number too large for its purpose. -/
  | overflow (message : String)
  /-- Bytes that are no text. -/
  | undecodable (bytes : List UInt8) (refusal : Text.Utf8Refusal)
  /-- A text that is no JSON. -/
  | notJson (fault : JsonFault)
  | file (fault : FileFault) (path : String)
  /-- A file in the way of a new one, in words of the library. -/
  | alreadyExists (message : String)
  /-- A YAML text that is malformed. -/
  | notYaml (message : String)
  /-- A failure inside a collaborator. -/
  | failed (message : String)
  /-- Nesting beyond all bounds. -/
  | tooDeep
  /-- A closing tag of console markup that closes nothing. -/
  | badMarkup (message : String)
  | interrupted
  | exit (code : Int)
deriving Repr, DecidableEq

namespace FileFault

def label : FileFault → String
  | .notFound => "FileNotFoundError"
  | .exists => "FileExistsError"
  | .notDirectory => "NotADirectoryError"
  | .isDirectory => "IsADirectoryError"
  | .nameTooLong => "OSError"
  | .notEmpty => "OSError"

def number : FileFault → Nat
  | .notFound => 2
  | .exists => 17
  | .notDirectory => 20
  | .isDirectory => 21
  | .nameTooLong => 36
  | .notEmpty => 39

def words : FileFault → String
  | .notFound => "No such file or directory"
  | .exists => "File exists"
  | .notDirectory => "Not a directory"
  | .isDirectory => "Is a directory"
  | .nameTooLong => "File name too long"
  | .notEmpty => "Directory not empty"

end FileFault

def JsonFault.message : JsonFault → String
  | .grammar text => text
  | .controlCharacter text => text
  | .depth container =>
    s!"maximum recursion depth exceeded while decoding a JSON {container} from a unicode string"
  | .longNumber digits => Decimal.limitText digits
  | .duplicateKey key => s!"duplicate key {Text.displayed key}"

namespace Fault

/-- The kind of a fault in one word. -/
def label : Fault → String
  | .wrongType _ => "TypeError"
  | .noAttribute _ => "AttributeError"
  | .badValue _ => "ValueError"
  | .badTree _ => "ValueError"
  | .missingKey _ => "KeyError"
  | .overflow _ => "OverflowError"
  | .undecodable .. => "UnicodeDecodeError"
  | .notJson (.depth _) => "RecursionError"
  | .notJson (.longNumber _) => "ValueError"
  | .notJson (.duplicateKey _) => "ValueError"
  | .notJson _ => "JSONDecodeError"
  | .file fault _ => fault.label
  | .alreadyExists _ => "FileExistsError"
  | .notYaml _ => "YAMLError"
  | .failed _ => "RuntimeError"
  | .tooDeep => "RecursionError"
  | .badMarkup _ => "MarkupError"
  | .interrupted => "KeyboardInterrupt"
  | .exit _ => "SystemExit"

/-- What a fault says. -/
def message : Fault → String
  | .wrongType text => text
  | .noAttribute text => text
  | .badValue text => text
  | .badTree text => text
  | .missingKey key => Text.displayed key
  | .overflow text => text
  | .undecodable _ refusal => refusal.message
  | .notJson fault => fault.message
  | .file fault path => s!"[Errno {fault.number}] {fault.words}: {Text.displayed path}"
  | .alreadyExists text => text
  | .notYaml text => text
  | .failed text => text
  | .tooDeep => "maximum recursion depth exceeded"
  | .badMarkup text => text
  | .interrupted => ""
  | .exit code => toString code

/-- A fault with its label, as it is shown as a cause. -/
def displayed (fault : Fault) : String :=
  match fault with
  | .file kind _ => s!"{kind.label}({kind.number}, {Text.displayed kind.words})"
  | .missingKey key => s!"KeyError({Text.displayed key})"
  | .undecodable bytes refusal =>
    s!"UnicodeDecodeError('utf-8', {Text.displayedBytes bytes}, {refusal.position}, "
      ++ s!"{refusal.position + refusal.length}, {Text.displayed refusal.fault.reason})"
  | .exit code => s!"SystemExit({code})"
  | fault =>
    if fault.message.isEmpty then s!"{fault.label}()"
    else s!"{fault.label}({Text.displayed fault.message})"

/-- A refusal of the file system. -/
def isFile : Fault → Bool
  | .file _ _ => true
  | .alreadyExists _ => true
  | _ => false

/-- Nesting beyond all bounds, in a value or in a text. -/
def isTooDeep : Fault → Bool
  | .tooDeep => true
  | .notJson (.depth _) => true
  | _ => false

/-- A value out of the question, in a wide sense: texts that do not decode belong to it. -/
def isBadValue : Fault → Bool
  | .badValue _ => true
  | .badTree _ => true
  | .undecodable .. => true
  | .notJson (.depth _) => false
  | .notJson _ => true
  | _ => false

end Fault

end Pagewright
