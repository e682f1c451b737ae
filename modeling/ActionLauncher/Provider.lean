import ActionLauncher.World

namespace ActionLauncher

/-- A way to authenticate principals. -/
structure Provider where
  name : String
  /-- The identity that is active already; nothing is authenticated. -/
  ambient : Launch (Except SecurityError Identity)
  /-- Logs a principal in with the keys of a keytab. -/
  fromKeytab : String → Path → LoginSettings → Launch (Except SecurityError Identity)
  /-- The identity of an existing ticket cache; an empty principal stands for the cache's own. -/
  fromTicketCache : String → Path → LoginSettings → Launch (Except SecurityError Identity)
  /-- Discards what the provider itself created for an identity. -/
  release : Identity → Launch (Except SecurityError Unit)

/-- An identity acquired now, without credentials. -/
def Launch.newIdentity (principal : String) (source : Source) : Launch Identity := do
  return ⟨principal, source, none, none, ← Launch.now⟩

namespace Provider

/-- A text without a given start (its first character and the others), however often the start is
repeated. -/
def withoutStart (first : Char) (others s : List Char) : List Char :=
  match h : Text.Chars.after? (first :: others) s with
  | none => s
  | some rest =>
      have : rest.length < s.length := by
        rw [Text.Chars.eq_append_of_after? h]
        simp only [List.length_append, List.length_cons]
        omega
      withoutStart first others rest
  termination_by s.length

/-- A path that a variable holds, without the marks of a file-based cache in front of it.  A value
that is not a text counts as none. -/
def variablePath? (value : Option OsText) : Option Path :=
  (Text.nonBlank? ((value.bind OsText.text?).map fun s =>
    String.ofList (withoutStart 'F' "ILE:".toList s.toList))).map Path.mk

/-- The user that the environment names, or else the account of the process. -/
def ambientUser (world : World) : String :=
  let named := (world.osEnvironment.get? Names.userNameVariable).bind OsText.text?
  (Text.nonBlank? named).getD world.osUser

/-- The identity that the environment describes. -/
def ambientIdentity : Launch Identity := do
  let world ← get
  let identity ← Launch.newIdentity (ambientUser world) .ambient
  return { identity with
    cache := variablePath? (world.osEnvironment.get? Names.cacheVariable)
    tokens := variablePath? (world.osEnvironment.get? Names.tokenFileVariable) }

/-- The refusal of a credential that is no file. -/
def absent (principal what : String) (path : Path) : SecurityError :=
  .authentication principal (what ++ " " ++ path.text ++ " does not exist")

end Provider

end ActionLauncher
