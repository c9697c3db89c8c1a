import FormatService.Text.Quoted
import FormatService.Settings.Basic
import FormatService.Json.Reader

/-!
# Settings from a text

A settings text is relaxed JSON: an object with the members `tool`,
`formatOnSave` and `toolPaths`, any of which may be absent, or an array of their
values in this order. Nothing else is accepted.
-/

set_option autoImplicit false

namespace FormatService.Settings

open FormatService.Json (Value Number)

/-- Why a value does not stand for settings. -/
inductive DecodeFault
  | wrongType (found : Value) (expected : String)
  | unknownMember (name : String)
  | unknownTool (text : String)
  | tooManyItems (count : Nat)

def describe : Value → String
  | .null => "null"
  | .boolean b => "boolean \x60" ++ (if b then "true" else "false") ++ "\x60"
  | .number literal =>
    match Number.ofLiteral? literal with
    | some (.real sign x) => "floating point \x60" ++ (Number.real sign x).render ++ "\x60"
    | some n => "integer \x60" ++ n.render ++ "\x60"
    | none => "number"
  | .string s => "string " ++ String.ofList (Text.quoted s.toList)
  | .array _ => "sequence"
  | .object _ => "map"

def DecodeFault.message : DecodeFault → String
  | wrongType found expected => "invalid type: " ++ describe found ++ ", expected " ++ expected
  | unknownMember name =>
    "unknown field \x60" ++ name ++
      "\x60, expected one of \x60tool\x60, \x60formatOnSave\x60, \x60toolPaths\x60"
  | unknownTool text => Tool.unknownMessage text
  | tooManyItems count =>
    "invalid length " ++ toString count ++ ", expected fewer elements in array"

def decodeTool : Value → Except DecodeFault Tool
  | .string text =>
    match Tool.parse? text with
    | some tool => .ok tool
    | none => .error (.unknownTool text)
  | v => .error (.wrongType v "a string")

def decodeBool : Value → Except DecodeFault Bool
  | .boolean b => .ok b
  | v => .error (.wrongType v "a boolean")

def decodeText : Value → Except DecodeFault String
  | .string text => .ok text
  | v => .error (.wrongType v "a string")

def decodeMembers (paths : ToolPaths) : List (String × Value) → Except DecodeFault ToolPaths
  | [] => .ok paths
  | (name, value) :: rest => do
    let tool ← decodeTool (.string name)
    let path ← decodeText value
    decodeMembers (paths.set tool path) rest

def decodePaths : Value → Except DecodeFault ToolPaths
  | .object members => decodeMembers .empty (Value.distinct members)
  | v => .error (.wrongType v "a map")

def decodeMember (settings : Settings) (name : String) (value : Value) :
    Except DecodeFault Settings :=
  if name = "tool" then do
    let tool ← decodeTool value
    return { settings with tool := tool }
  else if name = "formatOnSave" then do
    let flag ← decodeBool value
    return { settings with formatOnSave := flag }
  else if name = "toolPaths" then do
    let paths ← decodePaths value
    return { settings with toolPaths := paths }
  else .error (.unknownMember name)

def decodeObject (settings : Settings) : List (String × Value) → Except DecodeFault Settings
  | [] => .ok settings
  | (name, value) :: rest => do
    let settings ← decodeMember settings name value
    decodeObject settings rest

def memberNames : List String := ["tool", "formatOnSave", "toolPaths"]

def decodeItems (count : Nat) (settings : Settings) :
    List String → List Value → Except DecodeFault Settings
  | _, [] => .ok settings
  | [], _ :: _ => .error (.tooManyItems count)
  | name :: names, value :: rest => do
    let settings ← decodeMember settings name value
    decodeItems count settings names rest

def ofValue : Value → Except DecodeFault Settings
  | .object members => decodeObject .default (Value.distinct members)
  | .array items => decodeItems items.length .default memberNames items
  | v => .error (.wrongType v "struct FormatConfig")

inductive Fault
  /-- The text is not relaxed JSON. -/
  | malformed (text : Text) (located : Json.Located)
  /-- The value does not stand for settings. -/
  | undecodable (fault : DecodeFault)
  /-- A number is beyond every floating point value. -/
  | numberTooLarge

def Fault.chain : Fault → List String
  | malformed text located => ["Error parsing config file.", located.message text]
  | undecodable fault => ["Error deserializing config file.", fault.message]
  | numberTooLarge => ["number out of range"]

/-- The settings of a text; a text of blanks and comments only has the defaults. -/
def parse (text : Text) : Except Fault Settings :=
  match Json.read text with
  | .error located => .error (.malformed text located)
  | .ok none => .ok .default
  | .ok (some value) =>
    if value.numbersFit then
      match ofValue value with
      | .ok settings => .ok settings
      | .error fault => .error (.undecodable fault)
    else .error .numberTooLarge

end FormatService.Settings
