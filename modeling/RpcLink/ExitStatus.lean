/-!
How a process ended, and how that is told.
-/

namespace RpcLink

inductive ExitStatus where
  | exited (code : Nat)
  | signalled (signal : Nat)
  | stopped (signal : Nat)
  | continued
  | unknown (status : Int)
deriving DecidableEq

namespace ExitStatus

/-- The status that a wait for a process reports as a word: a signal in the lowest seven bits,
with two values of them for special cases, and a code in the eight bits above those of the
lowest byte. -/
def ofWord (word : Int) : ExitStatus :=
  let low := (word % 0x80).toNat
  let high := (word / 0x100 % 0x100).toNat
  if low = 0 then .exited high
  else if low < 0x7F then .signalled low
  else if word % 0x100 = 0x7F then .stopped high
  else if word = 0xFFFF then .continued
  else .unknown word

/-- The names of the signals, from the first on. -/
def signalNames : List String :=
  ["HUP", "INT", "QUIT", "ILL", "TRAP", "ABRT", "BUS", "FPE", "KILL", "USR1", "SEGV", "USR2",
    "PIPE", "ALRM", "TERM", "STKFLT", "CHLD", "CONT", "STOP", "TSTP", "TTIN", "TTOU", "URG",
    "XCPU", "XFSZ", "VTALRM", "PROF", "WINCH", "IO", "PWR", "SYS"]

/-- A signal's number, with its name if it has one. -/
def signalText (signal : Nat) : String :=
  match if signal = 0 then none else signalNames[signal - 1]? with
  | some name => s!"{signal} (SIG{name})"
  | none => toString signal

/-- A word as a hexadecimal number of 32 bits. -/
def wordText (word : Int) : String :=
  "0x" ++ String.ofList (Nat.toDigits 16 (word % 0x100000000).toNat)

/-- The sentence that tells how a program ended. -/
def reason (program : String) : ExitStatus → String
  | .exited code => s!"{program} exited with code {code}"
  | .signalled signal => s!"{program} terminated by signal {signal}"
  | .stopped signal =>
    s!"{program} exited (stopped (not terminated) by signal: {signalText signal})"
  | .continued => s!"{program} exited (continued (WIFCONTINUED))"
  | .unknown word =>
    s!"{program} exited (unrecognised wait status: {word} {wordText word})"

end ExitStatus

end RpcLink
