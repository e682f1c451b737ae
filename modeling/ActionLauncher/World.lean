import ActionLauncher.Event
import ActionLauncher.Journal
import ActionLauncher.OsText
import ActionLauncher.OutputSheet
import ActionLauncher.Tracker

namespace ActionLauncher

/-- A call of a credential tool, with the two variables that steer it as the tool saw them. -/
structure ToolCall where
  tool : String
  args : List String
  realmConf : Option String
  trace : Option String
  deriving DecidableEq, Repr

/-- Everything that launching an action reads and changes. -/
structure World where
  files : FileTree
  environment : Table
  /-- The variables whose values are not UTF-8, as far as the environment does not give them another
  value. -/
  rawVariables : List (String × NotText)
  /-- The account that the process runs under. -/
  osUser : String
  /-- The login identity of the process. -/
  login : Identity
  /-- The identity that the current task impersonates. -/
  guest : Option Identity
  clock : Time.Timestamp
  /-- The next identifier to be given out. -/
  nextId : Uuid
  /-- What was published, the oldest first. -/
  events : List Event
  records : List Record
  toolCalls : List ToolCall
  journal : List JournalEntry
  /-- Whether log records belong to a run, and the tags recorded for the last run. -/
  inRun : Bool
  span : List (String × String)
  /-- The stages of the current run. -/
  stages : Tracker
  /-- The output sheet of the current run. -/
  outputs : OutputSheet
  /-- What was printed. -/
  stdout : List UInt8

/-- A computation that acts on the world. -/
abbrev Launch : Type → Type :=
  EStateM Panic World

namespace World

/-- A world in which nothing was launched yet. -/
def start (files : FileTree) (environment : Table) (osUser : String) (login : Identity)
    (clock : Time.Timestamp) (nextId : Uuid) : World where
  files := files
  environment := environment
  rawVariables := []
  osUser := osUser
  login := login
  guest := none
  clock := clock
  nextId := nextId
  events := []
  records := []
  toolCalls := []
  journal := []
  inRun := false
  span := []
  stages := .start nextId
  outputs := .empty
  stdout := []

/-- The environment with the variables whose values are not UTF-8. -/
def osEnvironment (world : World) : Environment :=
  ⟨world.environment, world.rawVariables⟩

/-- The identity that work runs as: the guest of the task, or else the login identity. -/
def current (world : World) : Identity :=
  world.guest.getD world.login

/-- The warnings and errors in the log, the oldest first. -/
def warnings (world : World) : List Record :=
  world.records.filter fun record => record.level != .debug

end World

namespace Launch

/-- Runs a computation to its end, be it a value or a panic. -/
def settle {α : Type} (x : Launch α) : Launch (Except Panic α) := fun world =>
  match x world with
  | .ok a world => .ok (.ok a) world
  | .error panic world => .ok (.error panic) world

def resume {α : Type} : Except Panic α → Launch α
  | .ok a => pure a
  | .error panic => throw panic

theorem resume_settle {α : Type} (x : Launch α) : (settle x >>= resume) = x := by
  funext world
  show EStateM.bind (settle x) resume world = x world
  unfold EStateM.bind settle
  cases x world <;> rfl

/-- The present time; no two calls get the same. -/
def now : Launch Time.Timestamp :=
  modifyGet fun world => (world.clock, { world with clock := world.clock.next })

/-- An identifier that was not given out before. -/
def freshId : Launch Uuid :=
  modifyGet fun world => (world.nextId, { world with nextId := ⟨world.nextId.bits + 1⟩ })

def log (level : Level) (message : String) (fields : List (String × String)) : Launch Unit :=
  modify fun world =>
    { world with records := world.records ++ [⟨level, message, fields, world.inRun⟩] }

def warn (message : String) : Launch Unit :=
  log .warn message []

def reportError (message : String) : Launch Unit :=
  log .error message []

/-- Publishes an event, unless the publisher has no bus. -/
def publish (announce : Bool) (event : Event) : Launch Unit :=
  if announce then modify fun world => { world with events := world.events ++ [event] }
  else pure ()

def note (entry : JournalEntry) : Launch Unit :=
  modify fun world => { world with journal := world.journal ++ [entry] }

def setVariable (name value : String) : Launch Unit :=
  modify fun world => { world with environment := world.environment.insert name value }

/-- Replaces the login identity; returns the one before. -/
def swapLogin (identity : Identity) : Launch Identity :=
  modifyGet fun world => (world.login, { world with login := identity })

/-- Runs a computation with a guest identity; the guest before comes back however it ends. -/
def asGuest {α : Type} (identity : Identity) (x : Launch α) : Launch α := fun world =>
  match x { world with guest := some identity } with
  | .ok a after => .ok a { after with guest := world.guest }
  | .error panic after => .error panic { after with guest := world.guest }

theorem asGuest_keeps {α : Type} (identity : Identity) (x : Launch α) (world : World) :
    match asGuest identity x world with
    | .ok _ after | .error _ after => after.guest = world.guest := by
  unfold asGuest
  cases x { world with guest := some identity } <;> rfl

theorem current_of_guest {world : World} {identity : Identity}
    (h : world.guest = some identity) : world.current = identity := by
  rw [World.current, h, Option.getD_some]

/-- Sets an output property of the current run. -/
def setOutput (key value : String) : Launch Unit :=
  modify fun world => { world with outputs := world.outputs.insert key value }

def print (bytes : List UInt8) : Launch Unit :=
  modify fun world => { world with stdout := world.stdout ++ bytes }

end Launch

end ActionLauncher
