import RpcLink.Cli.Run

/-!
The command line. The script that the server follows is read from the standard input; without one
the server does what every scripted server does by itself.
-/

namespace RpcLink.Cli

/-- The variables of the environment that hold settings. -/
def settingVariables : List String := ["CODINGBUDDY_BIN", "CODINGBUDDY_NATIVE_HOST"]

/-- Those of some variables that are set. -/
def readVariables (names : List String) : IO NamedTexts := do
  let mut found : NamedTexts := {}
  for name in names do
    match ← IO.getEnv name with
    | some value => found := found.set name value
    | none => pure ()
  return found

/-- Do what the arguments ask for, and tell what came of it. -/
def perform (arguments : List String) : IO UInt32 := do
  let vars ← readVariables settingVariables
  let text ← (← IO.getStdin).getLine
  let script := ((Json.parse text).toOption.map Bench.Script.ofJson).getD {}
  let report := run arguments { vars } script
  (← IO.getStdout).putStr report.output
  match report.complaint with
  | some complaint => (← IO.getStderr).putStr complaint
  | none => pure ()
  return report.code.toUInt32

end RpcLink.Cli

def main (arguments : List String) : IO UInt32 := RpcLink.Cli.perform arguments
