import RpcLink.Config.Basic

/-!
Native hosts by name, and the commands that start them.
-/

namespace RpcLink

/-- A program with its arguments. -/
structure Launch where
  program : String
  arguments : List String
deriving DecidableEq

/-- How to start a native host; without a program of its own it is the server's. -/
structure HostCommand where
  program : Option String := none
  arguments : List String
deriving DecidableEq

/-- The native hosts that were registered, the latest first. -/
structure Hosts where
  entries : List (String × HostCommand) := []

namespace Hosts

/-- Register a command for a name, in place of an earlier one. -/
def register (h : Hosts) (name : String) (command : HostCommand) : Hosts :=
  ⟨(name, command) :: h.entries⟩

/-- The arguments of the default host: its own, and the directory to work in. -/
def defaultArguments (c : Config) : List String :=
  "native-host" ::
    match c.directory with
    | some path => ["--workspace-root", path]
    | none => []

/-- The command that starts a host. A name that was not registered and is not the default one
belongs to no host. -/
def launch (h : Hosts) (c : Config) (s : Settings) (name : String) : Except Failure Launch :=
  match h.entries.lookup name with
  | some command => .ok ⟨command.program.getD (c.command s), command.arguments⟩
  | none =>
    if name = Settings.defaultHost then .ok ⟨c.command s, defaultArguments c⟩
    else .error (.hostNotFound name)

end Hosts

end RpcLink
