import RpcLink.Pipe.Channel

/-!
One turn of the watch over a server. To the calls it hands out what was read, or closes the channel,
or does nothing, and what the owner has told the channel stays as it is.
-/

namespace RpcLink.Pipe

/-- The owner's part of a channel is the same. -/
structure Steady (ch ch' : Channel) : Prop where
  program : ch'.program = ch.program
  stopping : ch'.stopping = ch.stopping
  written : ch'.written = ch.written

namespace Steady

variable {ch ch' ch'' : Channel}

theorem refl (ch : Channel) : Steady ch ch := ⟨rfl, rfl, rfl⟩

theorem trans (first : Steady ch ch') (second : Steady ch' ch'') : Steady ch ch'' where
  program := second.program.trans first.program
  stopping := second.stopping.trans first.stopping
  written := second.written.trans first.written

end Steady

/-- What a turn of the watch over a channel comes to. -/
inductive Turn (ch : Channel) (x : Nat) (b : Switchboard) : Channel × Switchboard → Prop
  | quiet {ch' : Channel} (steady : Steady ch ch') : Turn ch x b (ch', b)
  | hands {ch' : Channel} (steady : Steady ch ch') (frames : List Framing.Frame) :
      Turn ch x b (ch', b.dispatchAll x frames)
  | closes {ch' : Channel} (steady : Steady ch ch') (reason : String) :
      Turn ch x b (ch', (b.abort x reason).2)

section

variable {ch ch' : Channel} {x : Nat} {b : Switchboard} {s : Channel × Switchboard}

theorem Turn.steady (turn : Turn ch x b s) : Steady ch s.1 := by
  cases turn <;> assumption

/-- What is only noted or looked at before a turn changes nothing of what the turn comes to. -/
theorem Turn.of_steady (before : Steady ch ch') (turn : Turn ch' x b s) : Turn ch x b s := by
  cases turn with
  | quiet steady => exact .quiet (before.trans steady)
  | hands steady frames => exact .hands (before.trans steady) frames
  | closes steady reason => exact .closes (before.trans steady) reason

namespace Channel

theorem note_steady (ch : Channel) (e : Event) : Steady ch (ch.note e) := by
  cases e <;> exact ⟨rfl, rfl, rfl⟩

theorem look?_steady (looked : ch.look? = some ch') : Steady ch ch' := by
  obtain ⟨⟨killed, signal⟩, -, rfl⟩ := Option.map_eq_some_iff.mp looked
  exact ⟨rfl, rfl, rfl⟩

theorem steady_watch (ch : Channel) (watch : Watch) : Steady ch { ch with watch } := ⟨rfl, rfl, rfl⟩

theorem await_turn (ch : Channel) (x : Nat) (b : Switchboard) (patient : Bool) :
    Turn ch x b (ch.await x b patient) := by
  unfold await
  split
  · exact .closes (ch.steady_watch .over) _
  · exact .quiet (ch.steady_watch (.waiting patient))

theorem heed_turn (ch : Channel) (x : Nat) (b : Switchboard) : Turn ch x b (ch.heed x b) := by
  unfold heed
  split
  · exact .quiet (ch.steady_watch .broken)
  · rename_i ch' looked
    refine .of_steady (look?_steady looked) ?_
    split
    · exact ch'.await_turn x b false
    · exact .quiet (.refl ch')

theorem stepReading_turn (ch : Channel) (buffer : Framing.LineBuffer) (x : Nat) (b : Switchboard)
    (e : Event) : Turn ch x b (ch.stepReading buffer x b e) := by
  cases e with
  | output bytes => exact .hands (ch.steady_watch (.reading (buffer.feed bytes).2)) _
  | outputEnded => exact ch.await_turn x b true
  | _ => exact ch.heed_turn x b

theorem waitOn_turn (ch : Channel) (patient : Bool) (x : Nat) (b : Switchboard) (e : Event) :
    Turn ch x b (ch.waitOn patient x b e) := by
  unfold waitOn
  split
  · dsimp only
    split
    · exact .quiet (ch.steady_watch (.waiting false))
    · exact .closes (ch.steady_watch (.waiting false)) _
  · exact ch.await_turn x b _

theorem stepWaiting_turn (ch : Channel) (patient : Bool) (x : Nat) (b : Switchboard) (e : Event) :
    Turn ch x b (ch.stepWaiting patient x b e) := by
  unfold stepWaiting
  split
  · exact .quiet (ch.steady_watch .broken)
  · rename_i ch' looked
    refine .of_steady ?_ (ch'.waitOn_turn patient x b e)
    unfold lookOnce? at looked
    split at looked
    · cases looked
      exact .refl ch
    · exact look?_steady looked

theorem step_turn (ch : Channel) (x : Nat) (b : Switchboard) (e : Event) :
    Turn ch x b (ch.step x b e) := by
  unfold step
  split
  · exact .of_steady (ch.note_steady e) ((ch.note e).stepReading_turn _ x b e)
  · exact .of_steady (ch.note_steady e) ((ch.note e).stepWaiting_turn _ x b e)
  · exact .quiet (.refl ch)
  · exact .quiet (.refl ch)

theorem await_of_ended {status : ExitStatus} (ended : ch.ended = some status) (patient : Bool) :
    ch.await x b patient =
      ({ ch with watch := .over }, (b.abort x (ch.exitReason status)).2) := by
  rw [await, ended]

theorem await_of_going (going : ch.ended = none) (patient : Bool) :
    ch.await x b patient = ({ ch with watch := .waiting patient }, b) := by
  rw [await, going]

theorem step_waiting {patient : Bool} (waits : ch.watch = .waiting patient) {e : Event}
    (looked : (ch.note e).lookOnce? = some ch') : ch.step x b e = ch'.waitOn patient x b e := by
  rw [step, waits]
  show (ch.note e).stepWaiting patient x b e = _
  rw [stepWaiting, looked]

theorem step_output {buffer : Framing.LineBuffer} (reads : ch.watch = .reading buffer)
    (bytes : List UInt8) :
    ch.step x b (.output bytes) =
      ({ ch with watch := .reading (buffer.feed bytes).2 },
        b.dispatchAll x (buffer.feed bytes).1) := by
  rw [step, reads]
  rfl

end Channel

end

end RpcLink.Pipe
