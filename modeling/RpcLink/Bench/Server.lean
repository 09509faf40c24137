import RpcLink.Bench.Script
import RpcLink.Config.Settings
import RpcLink.ExitStatus
import RpcLink.Framing.LineBuffer
import RpcLink.Framing.Packet

/-!
Servers on a bench. A server does what its script says, one request after the other, as far as it
can at a given time. What it writes stays with it until somebody takes it.
-/

namespace RpcLink.Bench

structure Server where
  script : Script
  arguments : List String
  /-- The path of the directory in which the server runs. -/
  directory : String
  vars : NamedTexts
  /-- Input that is no whole request yet. -/
  held : List UInt8 := []
  /-- Requests that were not looked at yet. -/
  inbox : List String := []
  /-- Nothing more will be written to the server. -/
  inputEnded : Bool := false
  /-- The request at hand. -/
  request : Option String := none
  /-- What is still to be done for it. -/
  todo : List Action := []
  /-- The server does nothing before this time. -/
  wake : Option Nat := none
  /-- How often each rule was used. -/
  used : List Nat := []
  outputOpen : Bool := true
  /-- What was written and not taken. -/
  output : List (List UInt8) := []
  /-- What was written to the log and not taken. -/
  log : List (List UInt8) := []
  /-- How the server ended. -/
  status : Option ExitStatus := none
  /-- Its end was reported. -/
  reported : Bool := false

/-- How long a server goes on without input, in nanoseconds. -/
def idleTime : Nat := 10000000000

/-- Longer than any bench stands. -/
def ever : Nat := 1000000000000000000

/-- Signals that do not end a process that does not care about them. -/
def harmlessSignals : List Nat := [0, 17, 18, 23, 28]

/-- Signals that stop a process. -/
def stopSignals : List Nat := [19, 20, 21, 22]

namespace Server

/-- A server that was just started. -/
def started (script : Script) (arguments : List String) (directory : String)
    (vars : NamedTexts) : Server :=
  { script, arguments, directory, vars, todo := script.start,
    used := script.rules.map fun _ => 0 }

/-- The server ends, and with it its output and its log. -/
def finish (s : Server) (status : ExitStatus) : Server :=
  if s.status.isSome then s
  else { s with status := some status, outputOpen := false, todo := [], inbox := [], wake := none }

/-- The server is killed. -/
def kill (s : Server) : Server := s.finish (.signalled 9)

/-- The request at hand as a value. -/
def requestJson (s : Server) : Json :=
  ((s.request.map fun text => (Json.parse text).toOption).join).getD .null

/-- What placeholders stand for. -/
def facts (s : Server) : Facts where
  id := ((Script.field? s.requestJson "id").getD .null).chars
  request := (s.request.getD "null").toList
  arguments := (Json.array (s.arguments.map .string)).chars
  directory := Json.stringChars s.directory
  lookUp name := ((s.vars.get? name).map Json.stringChars).getD Json.null.chars

def write (s : Server) (bytes : List UInt8) : Server :=
  if s.outputOpen ∧ bytes ≠ [] then { s with output := s.output ++ [bytes] } else s

def writeLog (s : Server) (bytes : List UInt8) : Server :=
  { s with log := s.log ++ [bytes] }

/-- A payload as a packet. -/
def packet (payload : List UInt8) : List UInt8 :=
  Framing.Packet.header payload.length ++ payload

/-- Do something that takes no time. -/
def act (s : Server) : Action → Server
  | .print text => s.write (s.facts.bytes text)
  | .printBytes bytes => s.write bytes
  | .fill count => s.write (List.replicate count 0x78)
  | .packet text => s.write (packet (s.facts.bytes text))
  | .note text => s.writeLog (s.facts.bytes text)
  | .noteBytes bytes => s.writeLog bytes
  | .closeOutput => { s with outputOpen := false }
  | .exit code => s.finish (.exited (code % 256).toNat)
  | .signal _ | .sleep _ => s

/-- Do one thing after the other, as long as nothing takes time and the server goes on. -/
def perform (now : Nat) (s : Server) : List Action → Server
  | [] => { s with todo := [] }
  | .sleep ns :: rest => { s with todo := rest, wake := some (now + ns) }
  | .signal n :: rest =>
    if harmlessSignals.contains n then s.perform now rest
    else if stopSignals.contains n then { s with todo := rest, wake := some (now + ever) }
    else s.finish (.signalled n)
  | .exit code :: _ => s.act (.exit code)
  | action :: rest => (s.act action).perform now rest

/-- A reply to the request at hand. -/
def reply (s : Server) (result : String) : Action :=
  let text := "\x7b\"jsonrpc\":\"2.0\",\"id\":$ID,\"result\":" ++ result ++ "\x7d"
  if s.script.native then .packet text else .print (text ++ "\n")

/-- What the server does where no rule tells: it introduces itself, ends when it is asked to,
and sends every other request back. -/
def unruled (s : Server) (method : String) : List Action :=
  if method = "initialize" then
    [s.reply ("\x7b\"name\":\"fake\",\"version\":\"0.0.1\"," ++
      "\"capabilities\":[\"status\",\"echo\"]\x7d")]
  else if method = "shutdown" then [s.reply "null", .exit 0]
  else [s.reply "\x7b\"echo\":$REQ\x7d"]

/-- The first rule for a method that has not been used as often as it may be. -/
def ruleFor? (s : Server) (method : String) : Option (Rule × Nat) :=
  (s.script.rules.zipIdx).find? fun (r, i) =>
    (r.method.isNone || r.method == some method) && r.times.all (s.used.getD i 0 < ·)

/-- Take up a request: what is to be done for it. -/
def takeUp (s : Server) (text : String) : List Action × Server :=
  let s := { s with request := some text }
  let method :=
    match Script.field? s.requestJson "method" with
    | some (.string m) => m
    | _ => ""
  match s.ruleFor? method with
  | some (r, i) => (r.actions, { s with used := s.used.modify i (· + 1) })
  | none => (s.unruled method, s)

/-- Whether the server waits for a request. -/
def isIdle (s : Server) : Bool :=
  s.status.isNone && s.todo.isEmpty && s.wake.isNone

/-- Look at requests one after the other, as long as nothing takes time. -/
def attend (now : Nat) (s : Server) : List String → Server
  | [] => { s with inbox := [] }
  | text :: rest =>
    let (actions, s) := s.takeUp text
    let s := s.perform now actions
    if s.isIdle then s.attend now rest
    else if s.status.isSome then s
    else { s with inbox := rest }

/-- Go on as far as possible. A server without input goes on for some time and then ends. -/
def run (now : Nat) (s : Server) : Server :=
  if s.status.isSome || s.wake.any (now < ·) then s
  else
    let s := { s with wake := none }.perform now s.todo
    let s := if s.isIdle then s.attend now s.inbox else s
    if s.isIdle && s.inputEnded then
      { s with todo := [.exit 0], wake := some (now + idleTime) }
    else s

/-- Bytes arrive: whole requests are put in the inbox. -/
def receive (s : Server) (bytes : List UInt8) : Server :=
  if s.status.isSome then s
  else
    let (texts, held) :=
      if s.script.native then
        match Framing.Packet.split (Framing.Packet.headerRange - 1) (s.held ++ bytes) with
        | (payloads, .short rest) => (payloads, rest)
        | (payloads, .unusable _) => (payloads, [])
      else Framing.splitLines (s.held ++ bytes)
    { s with
      held
      inbox := s.inbox ++ texts.map fun t => String.ofList (Text.Utf8.lossy t) }

/-- What was written, which is taken. -/
def takeOutput (s : Server) : List (List UInt8) × Server :=
  (s.output, { s with output := [] })

/-- What was written to the log, which is taken. -/
def takeLog (s : Server) : List (List UInt8) × Server :=
  (s.log, { s with log := [] })

/-- How the server ended, which is told once. -/
def takeEnd (s : Server) : Option ExitStatus × Server :=
  if s.reported then (none, s) else (s.status, { s with reported := s.status.isSome })

end Server

end RpcLink.Bench
