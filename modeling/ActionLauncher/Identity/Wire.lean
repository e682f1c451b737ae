import ActionLauncher.Identity
import ActionLauncher.Json.Fields
import ActionLauncher.Json.Reader
import ActionLauncher.Time.Reader

namespace ActionLauncher

def Source.ofJson? (json : Json) : Option Source :=
  (Json.caseName? json).bind ofName?

def AuthenticationMethod.ofJson? (json : Json) : Option AuthenticationMethod :=
  (Json.caseName? json).bind ofName?

namespace Identity

def fieldNames : List String :=
  ["principal", "source", "credential_cache", "delegation_tokens", "acquired_at"]

def toJson (identity : Identity) : Json :=
  .ofMembers [("principal", .text identity.principal), ("source", .text identity.source.name),
    ("credential_cache", .textOrNull (identity.cache.map Path.text)),
    ("delegation_tokens", .textOrNull (identity.tokens.map Path.text)),
    ("acquired_at", .text identity.acquiredAt.render)]

def ofJson? (json : Json) : Option Identity := do
  let fields ← json.fields? fieldNames
  let principal ← fields.text? "principal"
  let source ← Source.ofJson? (← fields.get? "source")
  let cache ← fields.optionalText? "credential_cache"
  let tokens ← fields.optionalText? "delegation_tokens"
  let acquiredAt ← Time.Timestamp.read? (← fields.text? "acquired_at")
  return ⟨principal, source, cache.map Path.mk, tokens.map Path.mk, acquiredAt⟩

end Identity

end ActionLauncher
