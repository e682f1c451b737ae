import ActionLauncher.Diagnostics
import ActionLauncher.Text.Quoted
import ActionLauncher.World

namespace ActionLauncher

/-- The value of a key, from the properties or else from the configuration; blank values count as
absent. -/
def propertyOrConfig? (props : Properties) (config : Configuration) (key : String) :
    Option String :=
  (props.get? key).or (config.nonBlank? key)

/-- What an action sees of its run. -/
structure Context where
  config : Configuration
  identity : Identity
  properties : Properties
  diagnostics : Diagnostics

namespace Context

/-- The value of a key, from the properties or else from the configuration. -/
def get? (context : Context) (key : String) : Option String :=
  propertyOrConfig? context.properties context.config key

def workflowId? (context : Context) : Option String :=
  context.properties.workflowId?

def workflowName? (context : Context) : Option String :=
  context.config.nonBlank? Names.workflowName

def actionId? (context : Context) : Option String :=
  context.properties.actionId?

def actionName? (context : Context) : Option String :=
  context.diagnostics.actionName

def namenode? (context : Context) : Option String :=
  context.config.nonBlank? Names.defaultFileSystem

def queueName? (context : Context) : Option String :=
  context.get? Names.queueName

def hiveJdbcUrl? (context : Context) : Option String :=
  context.get? Names.hiveJdbcUrl

def metastorePrincipal? (context : Context) : Option String :=
  context.get? Names.metastorePrincipal

def principal? (context : Context) : Option String :=
  context.get? Names.principal

def keytab? (context : Context) : Option String :=
  context.get? Names.keytab

def values (context : Context) : List (String × Option String) :=
  [("workflow_id", context.workflowId?), ("workflow_name", context.workflowName?),
    ("action_id", context.actionId?), ("action_name", context.actionName?),
    ("namenode", context.namenode?), ("queue_name", context.queueName?),
    ("hive_jdbc_url", context.hiveJdbcUrl?), ("metastore_principal", context.metastorePrincipal?),
    ("kerberos_principal", context.principal?), ("kerberos_keytab", context.keytab?)]

/-- The variables that a child process gets, so that it runs with the credentials of this run. -/
def childEnvironment (context : Context) : List (String × String) :=
  (Names.userNameVariable, context.identity.shortName) ::
    ((context.identity.cache.map fun p => (Names.cacheVariable, "FILE:" ++ p.text)).toList ++
      (context.identity.tokens.map fun p => (Names.tokenFileVariable, p.text)).toList ++
      (context.properties.realmConf?.map fun p => (Names.realmConfVariable, p.text)).toList)

/-- What is logged of the context: the ids and the user, then every property and every
configuration key in order. -/
def account (context : Context) : List (String × List (String × String)) :=
  ("Action context",
    [("workflow_id", Text.quotedOption context.workflowId?),
      ("workflow_name", Text.quotedOption context.workflowName?),
      ("action_id", Text.quotedOption context.actionId?),
      ("action_name", Text.quotedOption context.actionName?),
      ("user", context.identity.principal),
      ("auth_source", context.identity.source.name)]) ::
    ((context.properties.entries.map fun (key, value) =>
        ("System property", [("key", key), ("value", value)])) ++
      (context.config.sorted.map fun (key, value) =>
        ("Configuration", [("key", key), ("value", value)])))

/-- Logs the context; returns what was logged. -/
def print (context : Context) : Launch (List Record) := do
  let before := (← get).records.length
  context.account.forM fun (message, fields) => Launch.log .debug message fields
  return (← get).records.drop before

end Context

end ActionLauncher
