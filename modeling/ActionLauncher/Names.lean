namespace ActionLauncher.Names

/-! System properties. -/

/-- A configuration directory that overrides every other source. -/
def confDir : String := "hadoop.conf.dir"
/-- The configuration resource prepared for the action. -/
def actionConf : String := "oozie.action.conf.xml"
def outputProperties : String := "oozie.action.output.properties"
def workflowId : String := "oozie.job.id"
def actionId : String := "oozie.action.id"
def authenticationMethod : String := "authentication.method"
def principal : String := "user.kerberos.principal"
def keytab : String := "user.kerberos.keytab"
def ticketCache : String := "user.kerberos.token.cache"
/-- The file that describes the realms. -/
def realmConf : String := "security.krb5.conf"
def realmDebug : String := "security.krb5.debug"

/-- Every system property that the environment can give. -/
def systemProperties : List String :=
  [confDir, actionConf, outputProperties, workflowId, actionId, authenticationMethod, principal,
    keytab, ticketCache, realmConf, realmDebug]

/-! Configuration keys. -/

def workflowName : String := "oozie.job.name"
def jobCredentials : String := "mapreduce.job.credentials.binary"
def tezCredentials : String := "tez.credentials.path"
def namenodePrincipal : String := "dfs.namenode.kerberos.principal"
def defaultFileSystem : String := "fs.defaultFS"
def securityAuthentication : String := "hadoop.security.authentication"
def ticketCachePath : String := "hadoop.security.kerberos.ticket.cache.path"
def queueName : String := "mapred.job.queue.name"
def hiveJdbcUrl : String := "hive2.jdbc.url"
def metastorePrincipal : String := "hcat.metastore.principal"

/-- The value of `securityAuthentication` that a login needs. -/
def kerberos : String := "KERBEROS"

/-- The keys that hold the location of the delegation tokens. -/
def credentialKeys : List String :=
  [jobCredentials, tezCredentials]

/-! Site resources. -/

/-- The resources of a configuration directory; a later one overrides an earlier one. -/
def directoryResources : List String :=
  ["core-site.xml", "hdfs-site.xml", "yarn-site.xml", "mapred-site.xml", "hbase-site.xml",
    "hive-site.xml"]

/-- The resources that the search path supplies. -/
def searchPathResources : List String :=
  ["hdfs-site.xml", "hbase-site.xml", "hive-site.xml"]

/-! Environment variables. -/

def tokenFileVariable : String := "HADOOP_TOKEN_FILE_LOCATION"
def userNameVariable : String := "HADOOP_USER_NAME"
def cacheVariable : String := "KRB5CCNAME"
def realmConfVariable : String := "KRB5_CONFIG"
def traceVariable : String := "KRB5_TRACE"
def classPathVariable : String := "CLASSPATH"

/-- The variables that list configuration directories, in the order in which they are searched. -/
def confDirVariables : List String :=
  ["HADOOP_CONF_DIR", "HBASE_CONF_DIR", "HIVE_CONF_DIR"]

end ActionLauncher.Names
