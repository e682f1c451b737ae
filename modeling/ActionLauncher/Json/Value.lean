import ActionLauncher.Json.Magnitude

namespace ActionLauncher

/-- A number with a fraction or an exponent: plus or minus `digits * 10 ^ scale`. -/
structure Json.Real where
  negative : Bool
  digits : Nat
  scale : Int
  deriving DecidableEq, Repr

/-- A JSON value, its members in textual order. -/
inductive Json
  | null
  | bool (value : Bool)
  | integer (value : Int)
  | real (value : Json.Real)
  | string (text : Option String)
  | array (items : List Json)
  | object (members : List (Option String × Json))
  deriving Inhabited

namespace Json

mutual

/-- Whether the value can be held as data: no lone surrogates, no number too large for double
precision, and no more than the given depth of arrays and objects. -/
def holds (depth : Nat) : Json → Bool
  | .null | .bool _ => true
  | .integer value => !tooLarge value.natAbs 0
  | .real value => !tooLarge value.digits value.scale
  | .string text => text.isSome
  | .array items => 0 < depth && holdsItems (depth - 1) items
  | .object members => 0 < depth && holdsMembers (depth - 1) members

/-- Whether every item can be held as data. -/
def holdsItems (depth : Nat) : List Json → Bool
  | [] => true
  | item :: rest => holds depth item && holdsItems depth rest

/-- Whether every member can be held as data. -/
def holdsMembers (depth : Nat) : List (Option String × Json) → Bool
  | [] => true
  | (key, value) :: rest => key.isSome && holds depth value && holdsMembers depth rest

end

/-- The deepest nesting of arrays and objects that is taken as data. -/
def maxDepth : Nat := 127

def text (s : String) : Json :=
  .string (some s)

def textOrNull : Option String → Json
  | none => .null
  | some s => .text s

def ofMembers (members : List (String × Json)) : Json :=
  .object (members.map fun (key, value) => (some key, value))

end Json

end ActionLauncher
