import ActionLauncher.Json.Value

namespace ActionLauncher.Json

/-- The fields of a record by name; one that is missing is absent. -/
structure Fields where
  values : List (String × Json)

/-- The value of a member that must not be repeated. -/
def member? (name : String) (members : List (Option String × Json)) :
    Option (Option Json) :=
  match members.filter fun m => m.1 == some name with
  | [] => some none
  | [m] => some (some m.2)
  | _ => none

/-- The fields of a record with the given names. -/
def fields? (names : List String) : Json → Option Fields
  | .object members =>
      if members.any fun m => m.1.isNone then none
      else (names.mapM fun name => (member? name members).map fun v => (name, v)).map
        fun found => ⟨found.filterMap fun (name, v) => v.map fun v => (name, v)⟩
  | .array items =>
      if items.length = names.length then some ⟨names.zip items⟩ else none
  | _ => none

namespace Fields

def get? (fields : Fields) (name : String) : Option Json :=
  fields.values.lookup name

def text? (fields : Fields) (name : String) : Option String :=
  match fields.get? name with
  | some (.string s) => s
  | _ => none

/-- A field that holds a text or is absent; null counts as absent. -/
def optionalText? (fields : Fields) (name : String) : Option (Option String) :=
  match fields.get? name with
  | none | some .null => some none
  | some (.string (some s)) => some (some s)
  | _ => none

def bool? (fields : Fields) (name : String) : Option Bool :=
  match fields.get? name with
  | some (.bool b) => some b
  | _ => none

def integer? (fields : Fields) (name : String) : Option Int :=
  match fields.get? name with
  | some (.integer n) => some n
  | _ => none

end Fields

/-- The name of a case without data: a text, or an object that gives the name the value null. -/
def caseName? : Json → Option String
  | .string s => s
  | .object [(name, .null)] => name
  | _ => none

end ActionLauncher.Json
