import Pagewright.Path
import Pagewright.Workspace

/-!
Where settings live: the home directory, paths that start there, and the files with settings of the user
and of the working directory.

A line of an environment file binds a name to a value: `NAME=value`, with `export` before the name or not, the
value in quotes or up to the end of the line or a comment. `${NAME}` in a value stands for the value of a
variable or of a binding above, and `${NAME:-text}` for a text where there is none. Variables that the
environment has already are left as they are.
-/

namespace Pagewright.Settings

/-- The home directory where the environment names none. -/
def rootHome : Path := Path.ofText "/root"

def noHome : Fault := .failed "Could not determine home directory."

/-- The home directory. -/
def homeDirectory (environment : Table String) : Except Fault Path :=
  match environment.get? "HOME" with
  | none => .ok rootHome
  | some text =>
    let shown := (text.toList.reverse.dropWhile (· == '/')).reverse
    if shown.head? == some '~' then .error noHome
    else .ok (Path.ofText (if shown.isEmpty then "/" else String.ofList shown))

/-- The home directory that the first component of a path names. -/
def homeNamed (environment : Table String) (name : String) : Except Fault Path :=
  if name == "~" then homeDirectory environment
  else if name == "~root" then .ok rootHome
  else .error noHome

/-- A path with the home directory that it starts with written out. -/
def expandHome (environment : Table String) (p : Path) : Except Fault Path :=
  match p.slashes, p.parts with
  | 0, first :: rest =>
    if first.startsWith "~" then do
      let home ← homeNamed environment first
      return ⟨home.slashes, home.parts ++ rest⟩
    else .ok p
  | _, _ => .ok p

/-- A path that a setting gives. -/
def pathOf (environment : Table String) (v : Value) : Except Fault Path :=
  match v with
  | .str text => expandHome environment (Path.ofText text)
  | v => .error (.wrongType s!"expected str, bytes or os.PathLike object, not {v.kindName}")

/-- The settings file of the user. -/
def userFile : Work Path := do
  let home ← Work.ofExcept ((homeDirectory (← get).environment).mapError .fault)
  return home / ".config" / "l2wp" / "config.toml"

/-- The settings file of the working directory. -/
def projectFile : Work Path := do return (← get).files.currentPath / ".l2wp.toml"

def isLineEnd (c : Char) : Bool := c == '\n' || c == '\r'

/-- White space inside a line. -/
def isLineBlank (c : Char) : Bool := Text.isBlank c && !isLineEnd c

/-- A text after the end of its first line. -/
def nextLine (s : List Char) : List Char :=
  match s.dropWhile (!isLineEnd ·) with
  | '\r' :: '\n' :: rest => rest
  | _ :: rest => rest
  | [] => []

/-- A text after white space, a comment and the end of a line; nothing if something else stands there. -/
def lineEnd? (s : List Char) : Option (List Char) :=
  let afterComment := match s.dropWhile isLineBlank with
    | '#' :: rest => rest.dropWhile (!isLineEnd ·)
    | _ => s
  match afterComment.dropWhile isLineBlank with
  | [] => some []
  | c :: rest => if isLineEnd c then some (nextLine (c :: rest)) else none

/-- A text after the word `export` and white space. -/
def skipExport (s : List Char) : List Char :=
  match Text.after? "export".toList s with
  | some (c :: rest) => if isLineBlank c then rest.dropWhile isLineBlank else s
  | _ => s

/-- The name at the start of a line. -/
def bindingName? : List Char → Option (List Char × List Char)
  | '\'' :: s =>
    let (name, rest) := s.span (· != '\'')
    match rest with
    | '\'' :: rest => if name.isEmpty then none else some (name, rest)
    | _ => none
  | s =>
    let (name, rest) := s.span fun c => c != '=' && c != '#' && !Text.isBlank c
    if name.isEmpty then none else some (name, rest)

/-- The text up to a closing quote; a backslash keeps the character that follows it from closing. -/
def quotedText? (quote : Char) : List Char → Option (List Char × List Char)
  | [] => none
  | ['\\'] => none
  | '\\' :: c :: rest =>
    (quotedText? quote rest).map fun (text, after) => ('\\' :: c :: text, after)
  | c :: rest =>
    if c == quote then some ([], rest)
    else (quotedText? quote rest).map fun (text, after) => (c :: text, after)

/-- The character that an escape in quotes of a kind stands for. -/
def escapedChar? (quote c : Char) : Option Char :=
  if c == '\\' || c == '\'' then some c
  else if quote == '\'' then none
  else match c with
    | '"' => some '"'
    | 'a' => some (Char.ofNat 7)
    | 'b' => some (Char.ofNat 8)
    | 'f' => some (Char.ofNat 12)
    | 'n' => some '\n'
    | 'r' => some '\r'
    | 't' => some '\t'
    | 'v' => some (Char.ofNat 11)
    | _ => none

/-- A quoted text with its escapes written out. -/
def unescape (quote : Char) (s : List Char) : List Char :=
  Text.substitute (fun
    | '\\' :: c :: rest => (escapedChar? quote c).map fun d => ([d], rest)
    | _ => none) s

/-- The value in the text after an equals sign, without quotes: a number sign behind white space starts a
comment. -/
def plainValue (s : List Char) : List Char :=
  Text.trim (Text.substitute (fun s =>
    let rest := s.dropWhile Text.isBlank
    if rest.length < s.length && rest.head? == some '#' then some ([], []) else none) s)

/-- The value after an equals sign. -/
def bindingValue? (s : List Char) : Option (List Char × List Char) :=
  match s.dropWhile isLineBlank with
  | '\'' :: s => (quotedText? '\'' s).map fun (text, rest) => (unescape '\'' text, rest)
  | '"' :: s => (quotedText? '"' s).map fun (text, rest) => (unescape '"' text, rest)
  | _ =>
    let (line, rest) := s.span (!isLineEnd ·)
    some (plainValue line, rest)

/-- What the start of a line binds: a name with its value, or a name without one. -/
abbrev Binding := String × Option (List Char)

/-- The text after a line that has been read up to here, or after a line that goes on when it should end,
in which case it binds nothing. -/
def endBinding (bound : Option Binding) (s : List Char) : Option Binding × List Char :=
  match lineEnd? s with
  | some rest => (bound, rest)
  | none => (none, nextLine s)

/-- The binding at the start of a line, if the line is one, and the text after the line. -/
def binding (s : List Char) : Option Binding × List Char :=
  let s := skipExport s
  if s.head? == some '#' then endBinding none s
  else match bindingName? s with
    | none => (none, nextLine s)
    | some (name, rest) => match rest.dropWhile isLineBlank with
      | '=' :: rest => match bindingValue? rest with
        | none => (none, nextLine rest)
        | some (text, rest) => endBinding (some (String.ofList name, some text)) rest
      | rest => endBinding (some (String.ofList name, none)) rest

/-- The bindings of a text in order; lines that are none are left out. `fuel` bounds their number. -/
def bindingsWithin : Nat → List Char → List Binding
  | 0, _ => []
  | fuel + 1, s => match s.dropWhile Text.isBlank with
    | [] => []
    | s =>
      let (bound, rest) := binding s
      bound.toList ++ bindingsWithin fuel rest

/-- The bindings of a text, which may start with a byte order mark. -/
def bindings (text : String) : List Binding :=
  let s := match text.toList with
    | '\ufeff' :: rest => rest
    | s => s
  bindingsWithin (s.length + 1) s

/-- A reference to a variable at the start of a text, as its value. -/
def reference? (known : String → Option String) (s : List Char) : Option (List Char × List Char) := do
  let inner ← Text.after? ['$', '\x7b'] s
  let (name, rest) := inner.span fun c => c != '\x7d' && c != ':'
  let found := known (String.ofList name)
  match rest with
  | '\x7d' :: rest => return ((found.getD "").toList, rest)
  | ':' :: '-' :: rest =>
    let (text, rest) := rest.span (· != '\x7d')
    match rest with
    | '\x7d' :: rest => return ((found.getD (String.ofList text)).toList, rest)
    | _ => none
  | _ => none

/-- The values that bindings give, references being replaced one binding after the other. A name without
a value takes the value back that it had. -/
def bindAll (environment : Table String) (bound : List Binding) : Table (Option String) :=
  bound.foldl (fun values (name, text) =>
    let known (other : String) : Option String :=
      environment.get? other <|> (values.get? other).map (·.getD "")
    values.put name (text.map fun text => String.ofList (Text.substitute (reference? known) text))) []

/-- A variable set in an environment that lacks it. A name holds no equals sign, and neither name nor value
holds the null character. -/
def setVariable (environment : Table String) (name value : String) : Except Fault (Table String) :=
  if environment.has name then .ok environment
  else if name.contains '\x00' || value.contains '\x00' then .error (.badValue "embedded null byte")
  else if name.contains '=' then .error (.badValue "illegal environment variable name")
  else .ok (environment.putNew name value)

/-- Values taken into the environment one after the other, up to the first that cannot be set. -/
def setVariables (values : Table (Option String)) : Work Unit :=
  values.forM fun bound => do
    if let some value := bound.2 then
      let environment ← Work.ofExcept
        ((setVariable (← get).environment bound.1 value).mapError .fault)
      modify fun w => { w with environment }

/-- The environment file of the working directory taken into the environment. -/
def loadEnvironment : Work Unit := do
  let file := (← get).files.currentPath / ".env"
  if ← Work.ask (·.isFile file) then
    let text ← Work.ask fun files => do (← files.read file).text
    setVariables (bindAll (← get).environment (bindings text))

end Pagewright.Settings
