import RpcLink.Bench.Stand
import RpcLink.Cli.Order

/-!
One call from the command line: the configuration, the parameters and the method are looked at in
this order, then the call is made, and its response is shown.
-/

namespace RpcLink.Cli

/-- Who makes the calls. -/
def caller : ClientInfo := { name := "codingbuddy-rpc", version := "0.1.0" }

/-- What a run leaves behind. -/
structure Report where
  code : Nat
  /-- What was written for the user. -/
  output : String := ""
  /-- What was written about a failure. -/
  complaint : Option String := none
deriving DecidableEq

/-- Why there is no response to show. -/
inductive Fault where
  | config (failure : Failure)
  | params (error : Json.ReadError)
  | blankMethod
  | call (method : String) (failure : Failure)

/-- A failure with the error behind it. -/
def chain (e : Failure) : String :=
  match e.source with
  | some source => s!"{e.message}: {source}"
  | none => e.message

def Fault.message : Fault → String
  | .config e => s!"invalid configuration: {chain e}"
  | .params e => s!"params must be valid JSON: {e.message}"
  | .blankMethod => "method must not be empty"
  | .call method e => s!"call to {method} failed: {chain e}"

/-- The configuration that options ask for. -/
def Options.config (o : Options) : Config where
  program := o.program
  host := o.host
  client := caller
  directory := o.directory
  timeout := o.timeout.map (· * 1000000)

/-- A call that can be made. -/
structure Plan where
  transport : Transport
  config : Config
  method : String
  params : Json

/-- The plan of an order, or its first fault. -/
def plan (pathExists : String → Bool) (o : Options) (method : String) (params : Option String) :
    Except Fault Plan := do
  let config ← (o.config.build pathExists).mapError .config
  let params ←
    match params with
    | some text => (Json.parse text).mapError .params
    | none => .ok (.object [])
  if Text.allBlank method then .error .blankMethod
  else .ok { transport := o.transport.getD default, config, method, params }

/-- What is shown of a response, and the code that tells whether it carries an error. -/
def Report.ofResponse (r : Response) : Report where
  code := if r.isError then 2 else 0
  output := r.toJson.indented ++ "\n"

/-- What is told of a fault. -/
def Report.ofFault (f : Fault) : Report where
  code := 1
  complaint := some s!"error: {f.message}\n"

/-- The report of a call, however it ended. -/
def Report.ofResult (method : String) : Except Failure Response → Report
  | .ok r => .ofResponse r
  | .error e => .ofFault (.call method e)

/-- How long a response is waited for where no time is set, in nanoseconds. -/
def patience : Nat := 60000000000

/-- Make the call of a plan to servers that follow a script. -/
def Plan.perform (p : Plan) (place : Bench.Place) (script : Bench.Script) : Report :=
  let stand :=
    Bench.Stand.opened p.transport p.config (.environment place.vars) {} place script
  let limited := p.config.timeout.isSome
  let wait := p.config.timeout.getD 0 + patience
  match (stand.runAll wait [.call p.method p.params limited]).1 with
  | some [.response r] => .ofResult p.method r
  | _ => { code := 1 }

/-- How the program is used, line by line. -/
def helpLines : List String :=
  ["Call the codingbuddy JSON-RPC server", "", "Usage: codingbuddy-rpc [OPTIONS] <COMMAND>", "",
    "Commands:",
    "  call  Call a method and print its response",
    "  help  Print this message or the help of the given subcommand(s)", "",
    "Options:",
    "      --transport <TRANSPORT>    Transport to use [default: stdio]",
    "      --binary <BINARY>          codingbuddy binary (default: $CODINGBUDDY_BIN, else " ++
      "\x60codingbuddy\x60)",
    "      --host <HOST>              Native-messaging host id (default: " ++
      "$CODINGBUDDY_NATIVE_HOST, else \x60io.codingbuddy.native_host\x60)",
    "      --workspace <WORKSPACE>    Working directory / workspace root for the server",
    "      --timeout-ms <TIMEOUT_MS>  Give up waiting after this many milliseconds",
    "  -v, --verbose                  Log transport activity to stderr",
    "  -h, --help                     Print help",
    "  -V, --version                  Print version"]

/-- The program's name and version. -/
def version : String := s!"{caller.name} {caller.version}\n"

/-- Do what arguments ask for, with servers that follow a script. -/
def run (arguments : List String) (place : Bench.Place) (script : Bench.Script) : Report :=
  match Order.ofList arguments with
  | .misuse => { code := 2 }
  | .showVersion => { code := 0, output := version }
  | .showHelp => { code := 0, output := String.join (helpLines.map (· ++ "\n")) }
  | .call o method params =>
    match plan place.pathExists o method params with
    | .error f => .ofFault f
    | .ok p => p.perform place script

end RpcLink.Cli
