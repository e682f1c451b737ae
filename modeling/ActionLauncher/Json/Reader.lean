import ActionLauncher.Json.Token

namespace ActionLauncher.Json

/-- An array or object that is still open, what it holds so far in reverse. -/
inductive Frame
  | array (items : List Json)
  | object (members : List (Option String × Json)) (key : Option String)

inductive Ready
  /-- A value. -/
  | forValue
  /-- The first item of an array, or its end. -/
  | forFirstItem
  /-- The first key of an object, or its end. -/
  | forFirstKey
  /-- A further key of an object with the given members. -/
  | forKey (members : List (Option String × Json))
  /-- The colon after a key. -/
  | forColon (members : List (Option String × Json)) (key : Option String)
  /-- A comma or the end of the innermost open array or object. -/
  | forNext
  /-- Nothing more: the value is complete. -/
  | forEnd (value : Json)

/-- The state of the reader. -/
structure Reading where
  ready : Ready
  stack : List Frame

namespace Reading

def complete (value : Json) : List Frame → Reading
  | [] => ⟨.forEnd value, []⟩
  | .array items :: stack => ⟨.forNext, .array (value :: items) :: stack⟩
  | .object members key :: stack => ⟨.forNext, .object ((key, value) :: members) none :: stack⟩

/-- The state after a token that can start a value. -/
def start? (token : Token) (stack : List Frame) : Option Reading :=
  match token with
  | .value v => some (complete v stack)
  | .quoted s => some (complete (.string s) stack)
  | .openArray => some ⟨.forFirstItem, stack⟩
  | .openObject => some ⟨.forFirstKey, stack⟩
  | _ => none

def step? (reading : Reading) (token : Token) : Option Reading :=
  match reading.ready, token with
  | .forValue, token => start? token reading.stack
  | .forFirstItem, .closeArray => some (complete (.array []) reading.stack)
  | .forFirstItem, token => start? token (.array [] :: reading.stack)
  | .forFirstKey, .closeObject => some (complete (.object []) reading.stack)
  | .forFirstKey, .quoted key => some ⟨.forColon [] key, reading.stack⟩
  | .forKey members, .quoted key => some ⟨.forColon members key, reading.stack⟩
  | .forColon members key, .colon => some ⟨.forValue, .object members key :: reading.stack⟩
  | .forNext, token =>
      match token, reading.stack with
      | .comma, .array items :: stack => some ⟨.forValue, .array items :: stack⟩
      | .closeArray, .array items :: stack => some (complete (.array items.reverse) stack)
      | .comma, .object members _ :: stack => some ⟨.forKey members, stack⟩
      | .closeObject, .object members _ :: stack =>
          some (complete (.object members.reverse) stack)
      | _, _ => none
  | _, _ => none

def run? (reading : Reading) : List Token → Option Reading
  | [] => some reading
  | token :: rest =>
      match step? reading token with
      | some next => run? next rest
      | none => none

def initial : Reading :=
  ⟨.forValue, []⟩

end Reading

/-- Reads a JSON text: one value and nothing else but white space. -/
def read? (s : List Char) : Option Json :=
  match Token.scan? s with
  | none => none
  | some tokens =>
      match Reading.initial.run? tokens with
      | some ⟨.forEnd value, _⟩ => some value
      | _ => none

def ofText? (s : String) : Option Json :=
  read? s.toList

end ActionLauncher.Json
