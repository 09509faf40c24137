import RpcLink.Wire.Relay

/-!
Relaying the calls of a user interface to a client: one call and one reply for each message that
asks for a call, and a reply without a call for every other message.
-/

namespace RpcLink.Relay

/-- A client: what it does to answer a call. -/
abbrev Client (m : Type → Type) := String → Json → m (Except Failure Response)

variable {m : Type → Type} [Monad m]

/-- Make the call that is asked for. -/
def handle (client : Client m) (a : Ask) : m Reply := do
  let result ← client a.method a.params
  pure (Reply.ofResult result)

/-- Make the call that a message asks for; the reply is a message too. -/
def handleMessage (client : Client m) (message : Json) : m Json := do
  match Ask.decode message with
  | .ok a =>
    let reply ← handle client a
    pure reply.toJson.sorted
  | .error e => pure (Reply.refused e).toJson.sorted

/-- Make the call that is asked for, and hand the reply on. -/
def dispatch {α : Type} (client : Client m) (a : Ask) (reply : Reply → m α) : m α := do
  let r ← handle client a
  reply r

end RpcLink.Relay
