import PipelineShell.Text.Chars

/-!
# Signals

A signal is known by its number or its name. The number zero stands for the end of the shell where
an action for signals is wanted.
-/

namespace PipelineShell.Userland.Signal

/-- The names of the signals from number one on, and what is said about a process that one has
ended. -/
def known : List (Chars × Chars) :=
  [("HUP", "Hangup"), ("INT", "Interrupt"), ("QUIT", "Quit"), ("ILL", "Illegal instruction"),
    ("TRAP", "Trace/breakpoint trap"), ("ABRT", "Aborted"), ("BUS", "Bus error"),
    ("FPE", "Floating point exception"), ("KILL", "Killed"), ("USR1", "User defined signal 1"),
    ("SEGV", "Segmentation fault"), ("USR2", "User defined signal 2"), ("PIPE", "Broken pipe"),
    ("ALRM", "Alarm clock"), ("TERM", "Terminated"), ("STKFLT", "Stack fault"),
    ("CHLD", "Child exited"), ("CONT", "Continued"), ("STOP", "Stopped (signal)"),
    ("TSTP", "Stopped"), ("TTIN", "Stopped (tty input)"), ("TTOU", "Stopped (tty output)"),
    ("URG", "Urgent I/O condition"), ("XCPU", "CPU time limit exceeded"),
    ("XFSZ", "File size limit exceeded"), ("VTALRM", "Virtual timer expired"),
    ("PROF", "Profiling timer expired"), ("WINCH", "Window changed"), ("IO", "I/O possible"),
    ("PWR", "Power failure"), ("SYS", "Bad system call")].map fun (n, d) => (n.toList, d.toList)

def limit : Nat := 65

def name (n : Nat) : Chars :=
  if n = 0 then "EXIT".toList
  else
    match known[n - 1]? with
    | some (name, _) => name
    | none =>
      if n < 34 then Chars.ofNat n
      else if n = 34 then "RTMIN".toList
      else if n < 50 then "RTMIN+".toList ++ Chars.ofNat (n - 34)
      else if n < 64 then "RTMAX-".toList ++ Chars.ofNat (64 - n)
      else "RTMAX".toList

def description (n : Nat) : Chars :=
  match known[n - 1]? with
  | some (_, d) => d
  | none =>
    if n < 34 then "Unknown signal ".toList ++ Chars.ofNat n
    else "Real-time signal ".toList ++ Chars.ofNat (n - 34)

/-- The signal that a text means, by its number or, from number `least` on, by its name. -/
def read? (least : Nat) (t : Chars) : Option Nat :=
  let isNumber := !t.isEmpty && t.all Char.isDigit
  let n := t.foldl (fun n c => 10 * n + (c.toNat - 48)) 0
  if isNumber && n < limit then some n
  else
    ((List.range limit).drop least).find? fun n =>
      (name n).map Char.toUpper = t.map Char.toUpper

def isHarmless (n : Nat) : Bool := n = 17 || n = 18 || n = 23 || n = 28

def isCertain (n : Nat) : Bool := n = 9 || n = 19

def arithmetic : Nat := 8

def kill : Nat := 9

def pipe : Nat := 13

def child : Nat := 17

def fileSize : Nat := 25

end PipelineShell.Userland.Signal
