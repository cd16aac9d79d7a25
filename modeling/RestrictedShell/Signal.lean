/-!
The names of the signals that can end or stop a process.
-/

namespace RestrictedShell.Signal

/-- The signals in the order of their numbers, from 1, without the leading `SIG`. -/
def names : List String :=
  ["HUP", "INT", "QUIT", "ILL", "TRAP", "ABRT", "BUS", "FPE", "KILL", "USR1", "SEGV", "USR2",
    "PIPE", "ALRM", "TERM", "STKFLT", "CHLD", "CONT", "STOP", "TSTP", "TTIN", "TTOU", "URG",
    "XCPU", "XFSZ", "VTALRM", "PROF", "WINCH", "IO", "PWR", "SYS"]

/-- The name of a signal with its leading `SIG`. -/
def name? (number : Nat) : Option String :=
  if number = 0 then none else names[number - 1]?.map ("SIG" ++ ·)

/-- What is said of a process that a signal has killed, in the order of the numbers, from 1. -/
def descriptions : List String :=
  ["Hangup", "Interrupt", "Quit", "Illegal instruction", "Trace/breakpoint trap", "Aborted",
    "Bus error", "Floating point exception", "Killed", "User defined signal 1",
    "Segmentation fault", "User defined signal 2", "Broken pipe", "Alarm clock", "Terminated",
    "Stack fault", "Child exited", "Continued", "Stopped (signal)", "Stopped",
    "Stopped (tty input)", "Stopped (tty output)", "Urgent I/O condition",
    "CPU time limit exceeded", "File size limit exceeded", "Virtual timer expired",
    "Profiling timer expired", "Window changed", "I/O possible", "Power failure",
    "Bad system call"]

/-- The first of the signals that have no meaning of their own. -/
def firstRealTime : Nat := 34

def description? (number : Nat) : Option String :=
  if number = 0 then none
  else descriptions[number - 1]?.or <| some <|
    if number < firstRealTime then "Unknown signal " ++ number.repr
    else "Real-time signal " ++ (number - firstRealTime).repr

/-- The names of the signals that have no meaning of their own, counted from both ends. -/
def realTimeNames : List String :=
  "RTMIN" :: (List.range 15).map (fun k => "RTMIN+" ++ (k + 1).repr) ++
    (List.range 14).reverse.map (fun k => "RTMAX-" ++ (k + 1).repr) ++ ["RTMAX"]

end RestrictedShell.Signal
