import RpcLink.Proofs.Wire.Records
import RpcLink.Relay

/-!
The three ways into a relay: a call that is asked for and waited for, one whose reply is handed on,
and one that comes as a message. Each of them makes the client call once and gives the one reply
that tells how that call ended. What they do is noted on the way, so that nothing is made twice.
-/

namespace RpcLink.Relay

/-! ### Replies -/

/-- The reply tells how a call ended: with a response, whatever that holds, or with the message of
the failure. -/
inductive Tells : Except Failure Response → Reply → Prop where
  | response (r : Response) : Tells (.ok r) { ok := true, response := some r, error := none }
  | failure (e : Failure) :
      Tells (.error e) { ok := false, response := none, error := some e.message }

/-- The message that tells how a call ended. -/
inductive TellsMessage : Except Failure Response → Json → Prop where
  | response (r : Response) :
      TellsMessage (.ok r) (.object [("ok", .bool true), ("response", r.toJson.sorted)])
  | failure (e : Failure) :
      TellsMessage (.error e) (.object [("error", .string e.message), ("ok", .bool false)])

variable {result : Except Failure Response}

theorem tells_ofResult (result : Except Failure Response) :
    Tells result (Reply.ofResult result) := by
  cases result with
  | ok r => exact .response r
  | error e => exact .failure e

theorem Tells.message {reply : Reply} (h : Tells result reply) :
    TellsMessage result reply.toJson.sorted := by
  rw [Reply.toJson_sorted]
  cases h with
  | response r => exact .response r
  | failure e => exact .failure e

/-- The message has a response or an error, and not both. -/
theorem TellsMessage.one_key {message : Json} (h : TellsMessage result message) :
    ∃ fields, message = .object fields ∧
      (Fields.has fields "response" = true ↔ Fields.has fields "error" = false) := by
  cases h with
  | response r => exact ⟨_, rfl, by simp [Fields.has, Fields.get?, List.lookup_cons]⟩
  | failure e => exact ⟨_, rfl, by simp [Fields.has, Fields.get?, List.lookup_cons]⟩

/-! ### What a relay does -/

/-- What can be seen of a relay from outside: a call of the client, or a reply that is handed on. -/
inductive Deed where
  | called (a : Ask)
  | replied (r : Reply)
deriving DecidableEq

variable {m : Type → Type} [Monad m] {α : Type}

/-- The client, with a note made of every call. -/
def watched (client : Client m) : Client (StateT (List Deed) m) := fun method params deeds => do
  let result ← client method params
  pure (result, deeds ++ [.called ⟨method, params⟩])

/-- What takes the replies, with a note made of every one of them. -/
def heard (reply : Reply → m α) : Reply → StateT (List Deed) m α := fun r deeds => do
  let x ← reply r
  pure (x, deeds ++ [.replied r])

theorem run_watched (client : Client m) (method : String) (params : Json) (deeds : List Deed) :
    (watched client method params).run deeds =
      (do let result ← client method params
          pure (result, deeds ++ [.called ⟨method, params⟩])) := rfl

theorem run_heard (reply : Reply → m α) (r : Reply) (deeds : List Deed) :
    (heard reply r).run deeds = (do let x ← reply r; pure (x, deeds ++ [.replied r])) := rfl

variable [LawfulMonad m]

theorem handle_watched (client : Client m) (a : Ask) (deeds : List Deed) :
    (handle (watched client) a).run deeds =
      (do let result ← client a.method a.params
          pure (Reply.ofResult result, deeds ++ [.called a])) := by
  simp [handle, run_watched]

theorem dispatch_watched (client : Client m) (reply : Reply → m α) (a : Ask) (deeds : List Deed) :
    (dispatch (watched client) a (heard reply)).run deeds =
      (do let result ← client a.method a.params
          let x ← reply (Reply.ofResult result)
          pure (x, deeds ++ [.called a, .replied (Reply.ofResult result)])) := by
  simp [dispatch, handle_watched, run_heard]

theorem handleMessage_watched (client : Client m) {a : Ask} (ordered : a.params.Ordered)
    (deeds : List Deed) :
    (handleMessage (watched client) a.toJson.sorted).run deeds =
      (do let result ← client a.method a.params
          pure ((Reply.ofResult result).toJson.sorted, deeds ++ [.called a])) := by
  simp [handleMessage, Ask.readBack.reads a ordered, handle_watched]

/-- Whatever the client does, each way into a relay makes it call once, with the method and the
parameters asked for. How that call ended decides the reply, which is the same for all three: it is
given back, handed on once, or given back as a message, and that has a response or an error. -/
theorem ways_in_agree (client : Client m) (reply : Reply → m α) {a : Ask}
    (ordered : a.params.Ordered) (deeds : List Deed) :
    (handle (watched client) a).run deeds =
        (do let result ← client a.method a.params
            pure (Reply.ofResult result, deeds ++ [.called a])) ∧
      (dispatch (watched client) a (heard reply)).run deeds =
        (do let result ← client a.method a.params
            let x ← reply (Reply.ofResult result)
            pure (x, deeds ++ [.called a, .replied (Reply.ofResult result)])) ∧
      (handleMessage (watched client) a.toJson.sorted).run deeds =
        (do let result ← client a.method a.params
            pure ((Reply.ofResult result).toJson.sorted, deeds ++ [.called a])) ∧
      ∀ result, Tells result (Reply.ofResult result) ∧
        TellsMessage result (Reply.ofResult result).toJson.sorted ∧
        ∃ fields, (Reply.ofResult result).toJson.sorted = .object fields ∧
          (Fields.has fields "response" = true ↔ Fields.has fields "error" = false) := by
  refine ⟨handle_watched client a deeds, dispatch_watched client reply a deeds,
    handleMessage_watched client ordered deeds, fun result => ?_⟩
  have tells := tells_ofResult result
  exact ⟨tells, tells.message, tells.message.one_key⟩

/-- A client whose channel is gone. -/
def deaf : Client Id := fun _ _ => .error (.channelClosed "gone")

/-- The three ways into a relay whose client fails, for a call with parameters that are `null`. -/
theorem failed_call_is_told_alike :
    let a : Ask := ⟨"m", .null⟩
    let told : Reply := { ok := false, error := some "channel closed: gone" }
    a.params.Ordered ∧ (handle (watched deaf) a).run [] = (told, [.called a]) ∧
      (dispatch (watched deaf) a (heard fun _ => pure ())).run [] =
        ((), [.called a, .replied told]) ∧
      (handleMessage (watched deaf) a.toJson.sorted).run [] =
        (.object [("error", .string "channel closed: gone"), ("ok", .bool false)],
          [.called a]) := by
  intro a told
  have ordered : a.params.Ordered := .null
  obtain ⟨handled, dispatched, answered, -⟩ :=
    ways_in_agree deaf (fun _ => pure ()) ordered []
  exact ⟨ordered, handled, dispatched, answered⟩

end RpcLink.Relay
