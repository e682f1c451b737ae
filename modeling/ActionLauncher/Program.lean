namespace ActionLauncher

/-- How a process ended. -/
inductive ExitStatus
  | exited (code : Nat)
  | killed (signal : Nat)
  deriving DecidableEq, Repr, Inhabited

namespace ExitStatus

def isSuccess : ExitStatus → Bool
  | .exited code => code == 0
  | .killed _ => false

/-- The exit code, absent for a process that was killed. -/
def code? : ExitStatus → Option Nat
  | .exited code => some code
  | .killed _ => none

def signalNames : List String :=
  ["SIGHUP", "SIGINT", "SIGQUIT", "SIGILL", "SIGTRAP", "SIGABRT", "SIGBUS", "SIGFPE", "SIGKILL",
    "SIGUSR1", "SIGSEGV", "SIGUSR2", "SIGPIPE", "SIGALRM", "SIGTERM", "SIGSTKFLT", "SIGCHLD",
    "SIGCONT", "SIGSTOP", "SIGTSTP", "SIGTTIN", "SIGTTOU", "SIGURG", "SIGXCPU", "SIGXFSZ",
    "SIGVTALRM", "SIGPROF", "SIGWINCH", "SIGIO", "SIGPWR", "SIGSYS"]

def describe : ExitStatus → String
  | .exited code => "exit status: " ++ toString code
  | .killed signal =>
      let name := match signal with
        | 0 => ""
        | n + 1 => match signalNames[n]? with
          | some name => " (" ++ name ++ ")"
          | none => ""
      "signal: " ++ toString signal ++ name

end ExitStatus

/-- What a finished process leaves. -/
structure Output where
  status : ExitStatus
  stdout : List UInt8
  stderr : List UInt8
  deriving Inhabited

/-- A tool that handles credentials, known by how it answers each list of arguments. -/
structure Tool where
  name : String
  reply : List String → Output
  /-- Whether the tool writes the credential cache that its arguments name. -/
  writesCache : Bool

namespace Tool

/-- A tool that answers alike whatever its arguments, except that it answers `check` when the
first one is `-s`. -/
def scripted (name : String) (run check : Output) (writesCache : Bool) : Tool where
  name := name
  reply := fun args => if args.head? = some "-s" then check else run
  writesCache := writesCache

end Tool

/-- The common programs that an action may start. -/
inductive Utility
  | succeed
  | fail
  | echo
  | printenv
  | shell
  | list
  | concatenate
  | count
  | transliterate
  | compiler
  deriving DecidableEq, Repr

namespace Utility

def name : Utility → String
  | .succeed => "true"
  | .fail => "false"
  | .echo => "echo"
  | .printenv => "printenv"
  | .shell => "sh"
  | .list => "ls"
  | .concatenate => "cat"
  | .count => "wc"
  | .transliterate => "tr"
  | .compiler => "cc"

def all : List Utility :=
  [.succeed, .fail, .echo, .printenv, .shell, .list, .concatenate, .count, .transliterate,
    .compiler]

end Utility

/-- What an executable file does. -/
inductive Program
  | tool (t : Tool)
  | utility (u : Utility)

end ActionLauncher
