import FormatService.Json.Number

/-!
# JSON values

Members of an object stand in the order in which they were written, repeated
names included. Numbers are kept as they were written.
-/

set_option autoImplicit false

namespace FormatService.Json

inductive Value
  | null
  | boolean (value : Bool)
  | number (literal : Literal)
  | string (value : String)
  | array (items : List Value)
  | object (members : List (String × Value))
  deriving Repr, Inhabited

namespace Value

def setMember (name : String) (value : Value) : List (String × Value) → List (String × Value)
  | [] => [(name, value)]
  | (n, v) :: rest => if n = name then (n, value) :: rest else (n, v) :: setMember name value rest

def distinct (members : List (String × Value)) : List (String × Value) :=
  members.foldl (fun out (name, value) => setMember name value out) []

mutual

def numbersFit : Value → Bool
  | .number literal => (Number.ofLiteral? literal).isSome
  | .array items => itemsFit items
  | .object members => membersFit members
  | _ => true

def itemsFit : List Value → Bool
  | [] => true
  | v :: rest => numbersFit v && itemsFit rest

def membersFit : List (String × Value) → Bool
  | [] => true
  | (_, v) :: rest => numbersFit v && membersFit rest

end

end Value

end FormatService.Json
