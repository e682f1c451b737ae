import ActionLauncher.CommandLine

namespace ActionLauncher.CommandLine

def variableNames : List String :=
  ["PATH", "TMPDIR", Names.tokenFileVariable, Names.userNameVariable, Names.cacheVariable,
      Names.realmConfVariable, Names.traceVariable, Names.classPathVariable] ++
    Names.confDirVariables ++
    (Names.systemProperties ++ Names.credentialKeys).map Properties.variableName

namespace Invocation

/-- The directories in which a launch looks for site resources. -/
def resourceDirs (invocation : Invocation) (environment : Table) : List Path :=
  (invocation.systemProperties environment).confDir?.toList ++
    (Names.confDirVariables ++ [Names.classPathVariable]).flatMap fun name =>
      SearchPath.listed (environment.get? name)

/-- The files from which a launch resolves its configuration. -/
def resourceFiles (invocation : Invocation) (environment : Table) : List Path :=
  ((invocation.resourceDirs environment).flatMap fun dir =>
      Names.directoryResources.map fun name => dir.join ⟨name⟩) ++
    (invocation.systemProperties environment).actionConf?.toList

/-- The files that hold the credentials of a launch. -/
def credentialFiles (invocation : Invocation) (world : World) : List Path :=
  let spec := Runner.spec (invocation.systemProperties world.environment)
    (invocation.resolution world).config
  spec.ticketCache.toList ++ spec.keytab.toList ++
    (Provider.variablePath? (world.osEnvironment.get? Names.cacheVariable)).toList

end Invocation

end ActionLauncher.CommandLine
