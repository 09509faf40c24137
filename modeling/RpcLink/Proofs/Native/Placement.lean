import RpcLink.Proofs.Exchange.Placement
import RpcLink.Proofs.Native.Intake
import RpcLink.Proofs.Native.Routing

/-!
Where the calls of a client wait. Whatever happens to it, they wait in their places on its
switchboard, and those that were resolved stay as they are.
-/

namespace RpcLink.Native

open Switchboard (Follows)

variable {c c' : Client} {task link : Nat} {job : Job} {ask : Relay.Ask}
  {out : List (Nat × Json)}

theorem Sent.follows (sent : Sent task link job ask c out c') (h : c.board.Placed) :
    Follows c.board c'.board := by
  have registers := h.register link ask.method ask.params
  cases sent with
  | refused closed => exact h.follows_refl
  | @withdrawn request call board e registered reason =>
      rw [registered] at registers
      exact registers.trans (registers.placed.forget link request.id)
  | posted registered fits taken =>
      rw [registered] at registers
      exact registers

theorem Client.letGo_follows (c : Client) (task : Nat) (h : c.board.Placed) :
    Follows c.board (c.letGo task).board := by
  rcases c.letGo_board task with same | ⟨call, settled⟩
  · exact same ▸ h.follows_refl
  · exact settled ▸ h.settle call

theorem Move.follows (move : Move task c out c') (h : c.board.Placed) :
    Follows c.board c'.board := by
  cases move with
  | refuse found unread => exact h.follows_refl
  | queue found held => exact h.follows_refl
  | send found asks live sent => exact sent.follows h
  | sendLocked found asks grants live sent => exact sent.follows h
  | dial found asks grants dead => exact h.follows_refl
  | fail found asks => exact h.follows_refl
  | connect found asks sent => exact h.openExchange.trans (sent.follows h.openExchange.placed)
  | disconnect found asks grants =>
      show Follows c.board c.giveUp.board
      cases current : c.current with
      | none =>
          rw [Client.giveUp_of_none current]
          exact h.follows_refl
      | some link =>
          rw [Client.giveUp_of_some current]
          exact h.abort link disconnectReason
  | @answer job call result board found told =>
      have polled := h.poll call
      rw [told] at polled
      exact polled
  | expire found waits limited limit => exact c.letGo_follows task h

namespace Client

theorem endIf_follows {b : Switchboard} (h : Follows b c.board) (link : Nat)
    (reason? : Option String) : Follows b (c.endIf link reason?).board := by
  cases reason? with
  | none => exact h
  | some reason => exact h.trans (h.placed.abort link reason)

theorem takeEvents_follows {b : Switchboard} (h : Follows b c.board) (link : Nat) (gone : Bool)
    (events : List PortEvent) : Follows b (c.takeEvents link gone events).board := by
  rw [takeEvents_eq]
  apply endIf_follows
  exact h.trans (h.placed.dispatchAll link _)

theorem happen_follows (c : Client) (e : Event) (h : c.board.Placed) :
    Follows c.board (c.happen e).board := by
  cases e with
  | spawn job => exact h.follows_refl
  | step task dial timeUp =>
      exact step_keeps (P := fun a => Follows c.board a.board)
        (fun before move => before.trans (move.follows before.placed)) h.follows_refl dial timeUp
  | cancel task =>
      show Follows c.board (c.cancel task).board
      unfold cancel
      split
      · exact h.follows_refl
      · exact c.letGo_follows task h
  | attend link most =>
      show Follows c.board (c.attend link most).board
      unfold attend
      split
      · exact h.follows_refl
      · split
        · apply takeEvents_follows
          exact h.follows_refl
        · exact h.follows_refl
  | peer link act =>
      rw [happen, onPort_board]
      exact h.follows_refl
  | configure settings => exact h.follows_refl

theorem run_follows (c : Client) (es : List Event) (h : c.board.Placed) :
    Follows c.board (c.run es).board := by
  induction es generalizing c with
  | nil => exact h.follows_refl
  | cons e es ih =>
      have first := c.happen_follows e h
      exact first.trans (ih (c.happen e) first.placed)

end Client

end RpcLink.Native
