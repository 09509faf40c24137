import RpcLink.Proofs.Native.Traffic

/-!
What the events of a port come to when they are taken: the messages before the end are dispatched in
order, and the end, if it is among the events or known, ends the connection. On a channel that is
closed already a message can do no more than be reported.
-/

namespace RpcLink

/-- What is observed of a message that answers no call. -/
def strayReport (v : Json) : Observation :=
  match Response.ofFrame v with
  | .ok r => .unmatched r.id
  | .error e => .malformed (Framing.preview v.compact) e.message

namespace Switchboard

variable {b : Switchboard} {x : Nat}

theorem dispatch_of_retired (retired : b.Retired x) (v : Json) :
    b.dispatch x (.message v) = b.observe (strayReport v) := by
  have nobody : ∀ id k, (id, k) ∉ (b.exchange x).waiting := by simp [retired.2]
  cases read : Response.ofFrame v with
  | error e => simp only [dispatch, strayReport, read]
  | ok r =>
      simp only [dispatch, strayReport, read]
      rw [deliver_of_not_mem fun id k _ => nobody id k]

/-- On a closed channel messages are reported, and nothing else comes of them. -/
theorem dispatchAll_of_retired (retired : b.Retired x) (vs : List Json) :
    b.dispatchAll x (vs.map .message) = { b with log := b.log ++ vs.map strayReport } := by
  induction vs generalizing b with
  | nil => simp [dispatchAll]
  | cons v vs ih =>
      have rest := ih (b := b.observe (strayReport v)) retired
      unfold dispatchAll at rest ⊢
      rw [List.map_cons, List.foldl_cons, dispatch_of_retired retired, rest]
      simp [observe]

end Switchboard

namespace Native

/-- The port on which something happens. -/
def Event.port? : Event → Option Nat
  | .attend link _ | .peer link _ => some link
  | _ => none

/-- What is observed if a message that is taken answers no call. -/
def Crossing.report? : Crossing → Option Observation
  | .received _ message => some (strayReport message)
  | .posted .. => none

/-- The reason for which a connection ends whose port has these events, if they tell its end. -/
def ending (gone : Bool) : List PortEvent → Option String
  | [] => if gone then some lostReason else none
  | .message _ :: rest => ending gone rest
  | .disconnected reason :: _ => some reason

/-- A connection ends if there is a reason for it. -/
def Client.endIf (c : Client) (link : Nat) : Option String → Client
  | none => c
  | some reason => c.endLink link reason

/-- The messages before the end are dispatched, and then the connection ends if it does. -/
theorem Client.takeEvents_eq (c : Client) (link : Nat) (gone : Bool) (events : List PortEvent) :
    c.takeEvents link gone events =
      { c with board := c.board.dispatchAll link ((messages events).map .message) }.endIf link
        (ending gone events) := by
  induction events generalizing c with
  | nil =>
      unfold takeEvents ending
      cases gone with
      | false => rfl
      | true => rfl
  | cons event rest ih =>
      cases event with
      | message v =>
          rw [takeEvents, ih]
          rfl
      | disconnected reason => rfl

/-- Taking the events of a port whose events are still taken. -/
theorem Client.attend_eq {c : Client} {link : Nat} {l : Link} (found : c.links[link]? = some l)
    (attended : l.attended = true) (most : Option Nat) :
    let items := l.port.events.items
    let count := most.getD (items.length + 1)
    let events := { l.port.events with items := items.drop count }
    c.attend link most =
      { c with
        links := c.links.modify link fun l => { l with port := { l.port with events } }
        board := c.board.dispatchAll link ((messages (items.take count)).map .message) }.endIf link
          (ending (l.port.events.ended && items.length < count) (items.take count)) := by
  unfold attend
  simp only [found, attended, if_true]
  rw [takeEvents_eq]

end Native

end RpcLink
