import RpcLink.Proofs.Exchange.Leaving

/-!
How a call fares that waits on a channel while messages come to it: the first response to it among
them answers it, and without one it goes on waiting.
-/

namespace RpcLink

/-- The value that a frame holds, if it holds one. -/
def Framing.Frame.message? : Framing.Frame → Option Json
  | .message v => some v
  | .malformed .. => none

/-- The response that a message is, if it is one to the request with a number. -/
def responseTo (id : UInt64) (v : Json) : Option Response :=
  (Response.ofFrame v).toOption.filter fun r => r.id == some id

theorem responseTo_eq_some_iff {id : UInt64} {v : Json} {r : Response} :
    responseTo id v = some r ↔ Response.ofFrame v = .ok r ∧ r.id = some id := by
  unfold responseTo
  rw [Option.filter_eq_some_iff, beq_iff_eq]
  cases Response.ofFrame v with
  | error e => simp [Except.toOption]
  | ok s => simp [Except.toOption]

/-- The first response to a request among messages. -/
def firstResponse (id : UInt64) (vs : List Json) : Option Response := vs.findSome? (responseTo id)

namespace Switchboard

/-- How a call stands that waited on a channel when messages began to come: it is answered by the
first response to it among them, or still waits. -/
def Fares (b : Switchboard) (x : Nat) (w : UInt64 × Nat) (vs : List Json) : Prop :=
  match firstResponse w.1 vs with
  | some r => b.status? w.2 = some (.answered r)
  | none => w ∈ (b.exchange x).waiting

variable {b b' : Switchboard} {x : Nat} {w : UInt64 × Nat}

theorem Follows.status?_eq (follows : Follows b b') {k : Nat} {status : CallStatus Response}
    (resolved : b.status? k = some status) (done : status ≠ .waiting) :
    b'.status? k = some status := by
  obtain ⟨c, found, rfl⟩ := Option.map_eq_some_iff.mp resolved
  obtain ⟨settled, found'⟩ := follows.resolved found done
  rw [status?, found']
  rfl

/-- A call that was answered stays so, and one that waits goes on from there. -/
theorem Fares.append {vs us : List Json} (first : b.Fares x w vs) (follows : Follows b b')
    (next : w ∈ (b.exchange x).waiting → b'.Fares x w us) : b'.Fares x w (vs ++ us) := by
  unfold Fares firstResponse at first next ⊢
  rw [List.findSome?_append]
  cases answered : vs.findSome? (responseTo w.1) with
  | some r =>
      rw [answered] at first
      exact follows.status?_eq first (by simp)
  | none =>
      rw [answered] at first
      exact next first

theorem dispatch_fares (placed : b.Placed) (waits : w ∈ (b.exchange x).waiting) (v : Json) :
    (b.dispatch x (.message v)).Fares x w [v] := by
  obtain ⟨id, k⟩ := w
  have single : firstResponse id [v] = responseTo id v := by simp [firstResponse]
  unfold Fares
  rw [single]
  cases answers : responseTo id v with
  | some r =>
      obtain ⟨read, number⟩ := responseTo_eq_some_iff.mp answers
      simp only [dispatch, read]
      exact (deliver_of_waits placed waits number).2.status
  | none =>
      cases read : Response.ofFrame v with
      | error e =>
          simp only [dispatch, read]
          exact waits
      | ok r =>
          simp only [dispatch, read]
          rcases perform_waits waits (.deliver x r) with still | removed
          · exact still
          · cases removed with
            | response number =>
                rw [responseTo_eq_some_iff.mpr ⟨read, number⟩] at answers
                cases answers

theorem dispatch_frame_fares (placed : b.Placed) (waits : w ∈ (b.exchange x).waiting)
    (frame : Framing.Frame) : (b.dispatch x frame).Fares x w frame.message?.toList := by
  cases frame with
  | message v => exact dispatch_fares placed waits v
  | malformed text error => exact waits

/-- A call that waits when frames come is answered by the first response to it among them. -/
theorem dispatchAll_frames_fare (placed : b.Placed) (waits : w ∈ (b.exchange x).waiting)
    (frames : List Framing.Frame) :
    (b.dispatchAll x frames).Fares x w (frames.filterMap Framing.Frame.message?) := by
  induction frames generalizing b with
  | nil => exact waits
  | cons frame frames ih =>
      have first := placed.dispatch x frame
      rw [← List.singleton_append, List.filterMap_append]
      have single : [frame].filterMap Framing.Frame.message? = frame.message?.toList := by
        cases frame <;> rfl
      rw [single]
      exact (dispatch_frame_fares placed waits frame).append (first.placed.dispatchAll x _)
        (ih first.placed)

theorem dispatchAll_fares (placed : b.Placed) (waits : w ∈ (b.exchange x).waiting)
    (vs : List Json) : (b.dispatchAll x (vs.map .message)).Fares x w vs := by
  have messages : (vs.map .message).filterMap Framing.Frame.message? = vs := by
    rw [List.filterMap_map]
    exact List.filterMap_some
  have fares := dispatchAll_frames_fare placed waits (vs.map .message)
  rwa [messages] at fares

end Switchboard

end RpcLink
