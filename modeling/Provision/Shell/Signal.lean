import Provision.Shell.ByteText
import Provision.Text.Decimal

namespace Provision.Shell.Signal

/-!
# Signals

A process is told of events by signals, which have numbers and names.  Most of them end a process
that does nothing about them.
-/

/-- All signals by number, with what the shell says of a process that one has ended. -/
def all : List (Nat × String × String) :=
  [(1, "HUP", "Hangup"), (2, "INT", ""), (3, "QUIT", "Quit"), (4, "ILL", "Illegal instruction"),
    (5, "TRAP", "Trace/breakpoint trap"), (6, "ABRT", "Aborted"), (7, "BUS", "Bus error"),
    (8, "FPE", "Floating point exception"), (9, "KILL", "Killed"),
    (10, "USR1", "User defined signal 1"), (11, "SEGV", "Segmentation fault"),
    (12, "USR2", "User defined signal 2"), (13, "PIPE", ""), (14, "ALRM", "Alarm clock"),
    (15, "TERM", "Terminated"), (16, "16", "Stack fault"), (17, "CHLD", ""),
    (18, "CONT", ""), (19, "STOP", "Stopped (signal)"), (20, "TSTP", "Stopped"),
    (21, "TTIN", "Stopped (tty input)"), (22, "TTOU", "Stopped (tty output)"),
    (23, "URG", ""), (24, "XCPU", "CPU time limit exceeded"),
    (25, "XFSZ", "File size limit exceeded"), (26, "VTALRM", "Virtual timer expired"),
    (27, "PROF", "Profiling timer expired"), (28, "WINCH", ""), (29, "IO", "I/O possible"),
    (30, "PWR", "Power failure"), (31, "SYS", "Bad system call")]

/-- What the shell says of a process that a signal has ended. -/
def endOf (signal : Nat) : ByteText :=
  ((all.lookup signal).elim "" Prod.snd).toList

/-- The name of an event: a signal, or the end of the shell as zero. -/
def eventName (event : Nat) : ByteText :=
  if event = 0 then "EXIT".toList
  else
    match all.lookup event with
    | some (name, _) => name.toList
    | none =>
        if event < 34 then .ofNat event
        else if event = 34 then "RTMIN".toList
        else if event < 50 then "RTMIN+".toList ++ ByteText.ofNat (event - 34)
        else if event < 64 then "RTMAX-".toList ++ ByteText.ofNat (64 - event)
        else "RTMAX".toList

/-- Whether a signal ends a process that does nothing about it. -/
def endsProcess (signal : Nat) : Bool :=
  signal ∉ [17, 18, 23, 28]

/-- The number of the event that a text names. -/
def event? (text : ByteText) : Option Nat :=
  match Text.decimal? text with
  | some number => if number < 65 then some number else none
  | none =>
      let text := text.map Char.toUpper
      if text = "EXIT".toList then some 0
      else (all.find? fun (_, name, _) => name.toList = text).map Prod.fst

/-- The number of the signal that a text names. -/
def signal? (text : ByteText) : Option Nat :=
  (event? text).bind fun event => if event = 0 && text ≠ ['0'] then none else some event

end Provision.Shell.Signal
