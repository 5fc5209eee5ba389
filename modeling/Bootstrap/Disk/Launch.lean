import Bootstrap.Disk.Access

/-!
Running an external tool over a disk: the system refuses to start it, or it ends with a status, its
two output streams and a changed disk.
-/

namespace Bootstrap

inductive ExitStatus where
  | code (value : Nat)
  | signal (number : Nat)
  deriving DecidableEq, Repr

namespace ExitStatus

def isSuccess (status : ExitStatus) : Bool :=
  status = .code 0

def signalNames : List String :=
  ["SIGHUP", "SIGINT", "SIGQUIT", "SIGILL", "SIGTRAP", "SIGABRT", "SIGBUS", "SIGFPE", "SIGKILL",
    "SIGUSR1", "SIGSEGV", "SIGUSR2", "SIGPIPE", "SIGALRM", "SIGTERM", "SIGSTKFLT", "SIGCHLD",
    "SIGCONT", "SIGSTOP", "SIGTSTP", "SIGTTIN", "SIGTTOU", "SIGURG", "SIGXCPU", "SIGXFSZ",
    "SIGVTALRM", "SIGPROF", "SIGWINCH", "SIGIO", "SIGPWR", "SIGSYS"]

def text : ExitStatus → String
  | .code value => "exit status: " ++ toString value
  | .signal number =>
      "signal: " ++ toString number ++
        match if number = 0 then none else signalNames[number - 1]? with
        | some name => " (" ++ name ++ ")"
        | none => ""

end ExitStatus

structure Finish where
  status : ExitStatus
  stdout : Bytes
  stderr : Bytes
  disk : Disk
  deriving DecidableEq, Repr

inductive Launch where
  | refused (error : OsError)
  | finished (finish : Finish)
  deriving DecidableEq, Repr

/-- The external tools at hand: the words of a command, the file that it reads as its input if there
is one, and the disk it starts in. -/
abbrev Tools := List String → (input : Option Nat) → Disk → Launch

end Bootstrap
