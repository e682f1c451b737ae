import ActionLauncher.Event
import ActionLauncher.Json.Fields
import ActionLauncher.Json.Reader
import ActionLauncher.Json.Writer
import ActionLauncher.Time.Reader

namespace ActionLauncher

namespace Event

def tag : Event → String
  | .stageChanged .. => "stage.changed"
  | .credentialsPropagated .. => "credentials.propagated"
  | .identitySwitched .. => "identity.switched"
  | .identityRestored .. => "identity.restored"
  | .outputsFlushed .. => "outputs.flushed"
  | .actionFinished .. => "action.finished"
  | .error .. => "error"

/-- The members of an event beside its tag. -/
def members : Event → List (String × Json)
  | .stageChanged run source target =>
      [("run_id", .text run.render), ("from", .text source), ("to", .text target)]
  | .credentialsPropagated location => [("location", .text location)]
  | .identitySwitched principal previous =>
      [("principal", .text principal), ("previous", .text previous)]
  | .identityRestored principal => [("principal", .text principal)]
  | .outputsFlushed run count path written =>
      [("run_id", .text run.render), ("count", .integer count.toNat),
        ("path", .textOrNull path), ("written", .bool written)]
  | .actionFinished run action success exitCode =>
      [("run_id", .text run.render), ("action", .text action), ("success", .bool success),
        ("exit_code", .integer exitCode.toInt)]
  | .error message context => [("message", .text message), ("context", .textOrNull context)]

def toJson (event : Event) : Json :=
  .ofMembers (("type", .text event.tag) :: event.members)

def word64? (n : Int) : Option UInt64 :=
  if 0 ≤ n ∧ n < 0x10000000000000000 then some (UInt64.ofNat n.toNat) else none

def signed32? (n : Int) : Option Int32 :=
  if -0x80000000 ≤ n ∧ n < 0x80000000 then some (Int32.ofInt n) else none

def idField? (fields : Json.Fields) (name : String) : Option Uuid :=
  (fields.text? name).bind Uuid.read?

/-- The names of the fields that belong to a tag. -/
def fieldNames? : String → Option (List String)
  | "stage.changed" => some ["run_id", "from", "to"]
  | "credentials.propagated" => some ["location"]
  | "identity.switched" => some ["principal", "previous"]
  | "identity.restored" => some ["principal"]
  | "outputs.flushed" => some ["run_id", "count", "path", "written"]
  | "action.finished" => some ["run_id", "action", "success", "exit_code"]
  | "error" => some ["message", "context"]
  | _ => none

/-- The event with a tag and its fields. -/
def ofFields? (tag : String) (fields : Json.Fields) : Option Event :=
  match tag with
  | "stage.changed" =>
      return .stageChanged (← idField? fields "run_id") (← fields.text? "from")
        (← fields.text? "to")
  | "credentials.propagated" => return .credentialsPropagated (← fields.text? "location")
  | "identity.switched" =>
      return .identitySwitched (← fields.text? "principal") (← fields.text? "previous")
  | "identity.restored" => return .identityRestored (← fields.text? "principal")
  | "outputs.flushed" =>
      return .outputsFlushed (← idField? fields "run_id")
        (← (fields.integer? "count").bind word64?) (← fields.optionalText? "path")
        (← fields.bool? "written")
  | "action.finished" =>
      return .actionFinished (← idField? fields "run_id") (← fields.text? "action")
        (← fields.bool? "success") (← (fields.integer? "exit_code").bind signed32?)
  | "error" => return .error (← fields.text? "message") (← fields.optionalText? "context")
  | _ => none

/-- Reads what stands beside the tag of an event. -/
def ofMembers? (tag : String) (json : Json) : Option Event := do
  ofFields? tag (← json.fields? (← fieldNames? tag))

/-- Reads an event that stands inside the given number of arrays and objects. -/
def ofNestedJson? (outer : Nat) (json : Json) : Option Event :=
  if !json.holds (Json.maxDepth - outer) then none
  else match json with
    | .object members =>
        match Json.member? "type" members with
        | some (some (.string (some tag))) =>
            ofMembers? tag (.object (members.filter fun m => m.1 != some "type"))
        | _ => none
    | .array (.string (some tag) :: rest) => ofMembers? tag (.array rest)
    | _ => none

def ofJson? (json : Json) : Option Event :=
  ofNestedJson? 0 json

def ofText? (s : String) : Option Event :=
  (Json.ofText? s).bind ofJson?

end Event

namespace Envelope

def toJson (envelope : Envelope) : Json :=
  .ofMembers [("id", .text envelope.id.render), ("timestamp", .text envelope.timestamp.render),
    ("event", envelope.event.toJson)]

/-- The names of the fields of an envelope. -/
def fieldNames : List String :=
  ["id", "timestamp", "event"]

def ofJson? (json : Json) : Option Envelope := do
  let fields ← json.fields? fieldNames
  let id ← Event.idField? fields "id"
  let timestamp ← Time.Timestamp.read? (← fields.text? "timestamp")
  let event ← Event.ofNestedJson? 1 (← fields.get? "event")
  return ⟨id, timestamp, event⟩

def ofText? (s : String) : Option Envelope :=
  (Json.ofText? s).bind ofJson?

end Envelope

end ActionLauncher
