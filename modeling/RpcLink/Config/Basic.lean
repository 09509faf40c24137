import RpcLink.Config.Settings
import RpcLink.Framing.LineBuffer
import RpcLink.Framing.Packet
import RpcLink.Wire.Handshake

/-!
What a client is told when it is made, and which of it is refused.
-/

namespace RpcLink

/-- Times are given in nanoseconds. -/
structure Config where
  /-- The server's program; the setting decides where none is given. -/
  program : Option String := none
  /-- The arguments that start the server. -/
  arguments : Option (List String) := none
  /-- The native host; the setting decides where none is given. -/
  host : Option String := none
  client : ClientInfo := {}
  /-- The directory in which the server runs. -/
  directory : Option String := none
  /-- Variables that the server gets beside the inherited ones. -/
  vars : NamedTexts := {}
  /-- Whether the server inherits variables. -/
  inherits : Bool := true
  /-- The time allowed for the handshake and for calls that have a limit. -/
  timeout : Option Nat := none
  /-- The time that a server has to acknowledge that it is being stopped. -/
  grace : Nat := 500000000
  /-- The number of bytes that a message may have. -/
  limit : Nat := Framing.defaultLimit
  /-- Whether somebody watches the channels. -/
  observed : Bool := false

namespace Config

/-- The arguments that start a server, where none are given. -/
def defaultArguments : List String := ["serve", "--transport", "stdio"]

/-- The longest message that a packet can hold. -/
def maxLimit : Nat := Framing.Packet.headerRange - 1

/-- Why a configuration is refused. -/
inductive Fault where
  | emptyProgram
  | blankHost
  | blankClient
  | badLimit
  | zeroTimeout
  | missingDirectory (path : String)
deriving DecidableEq

def Fault.message : Fault → String
  | .emptyProgram => "cli_path must not be empty"
  | .blankHost => "native_host must not be empty"
  | .blankClient => "client name must not be empty"
  | .badLimit => s!"max_message_bytes must be in 1..={maxLimit}"
  | .zeroTimeout => "timeout must be positive"
  | .missingDirectory path => s!"working directory does not exist: {path}"

/-- The first fault of a configuration, given which paths exist. -/
def fault? (c : Config) (pathExists : String → Bool) : Option Fault :=
  if c.program = some "" then some .emptyProgram
  else if c.host.any Text.allBlank then some .blankHost
  else if Text.allBlank c.client.name then some .blankClient
  else if c.limit = 0 ∨ maxLimit < c.limit then some .badLimit
  else if c.timeout = some 0 then some .zeroTimeout
  else
    match c.directory with
    | some path => if pathExists path then none else some (.missingDirectory path)
    | none => none

/-- Accept a configuration, or refuse it for its first fault. -/
def build (c : Config) (pathExists : String → Bool) : Except Failure Config :=
  match c.fault? pathExists with
  | some fault => .error (.invalidConfig fault.message)
  | none => .ok c

/-- The server's program, by what is given or else by the settings of the moment. -/
def command (c : Config) (s : Settings) : String :=
  c.program.getD (s.resolve Settings.programKey Settings.defaultProgram)

/-- The native host, by what is given or else by the settings of the moment. -/
def hostName (c : Config) (s : Settings) : String :=
  c.host.getD (s.resolve Settings.hostKey Settings.defaultHost)

/-- The arguments that start the server. -/
def serveArguments (c : Config) : List String :=
  c.arguments.getD defaultArguments

/-- The variables that a server gets, given those of its surroundings. -/
def serverVariables (c : Config) (inherited : NamedTexts) : NamedTexts :=
  (if c.inherits then inherited else {}).setAll c.vars.entries

end Config

end RpcLink
