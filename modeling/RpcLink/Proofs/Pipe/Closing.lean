import Mathlib.Data.List.Induction
import RpcLink.Proofs.Exchange.Closed
import RpcLink.Proofs.Exchange.Fares
import RpcLink.Proofs.Pipe.Watching

/-!
For which reason a channel to a program closes. The server, the watch over it, the owner and
whoever calls over the channel go on at once, and the first of them that closes the channel gives
the reason. What closes it can be told by what happened before: the owner can at any time, a grace
only if the output ended before anybody wanted the server killed or the channel stopped, and the end
of the server, which shows as soon as the output is over too, in any case.
-/

namespace RpcLink.Pipe

/-- What happens around a channel whose exchange is at a place. -/
inductive Happening (x : Nat) where
  | server (e : Event)
  /-- The owner is about to close the channel. -/
  | stopping
  /-- Anything is done to the channels and to their calls. The watch keeps its exchange. -/
  | board (a : Switchboard.Action) (kept : a ≠ .drop x)

namespace Happening

variable {x : Nat}

def apply (s : Channel × Switchboard) : Happening x → Channel × Switchboard
  | server e => s.1.step x s.2 e
  | stopping => ({ s.1 with stopping := true }, s.2)
  | board a _ => (s.1, s.2.act a)

def run (s : Channel × Switchboard) (hs : List (Happening x)) : Channel × Switchboard :=
  hs.foldl apply s

/-- How the server ends if this is its end. -/
def exit? : Happening x → Option ExitStatus
  | server (.exited status) => some status
  | _ => none

end Happening

variable {x : Nat} {program reason : String} {hs : List (Happening x)} {h : Happening x}

/-- The output ended, or the server was wanted killed, and no more of its output is read. -/
def OutputOver (hs : List (Happening x)) : Prop :=
  .server .outputEnded ∈ hs ∨ .server .kill ∈ hs

/-- The output ended before anybody wanted the server killed. -/
def EndedAlone (hs : List (Happening x)) : Prop :=
  ∃ before after, hs = before ++ .server .outputEnded :: after ∧ .server .kill ∉ before

/-- How the server ended, unless it goes on. -/
def endOf (hs : List (Happening x)) : Option ExitStatus := hs.findSome? Happening.exit?

/-- The output is over and the server has ended, whichever came first. -/
def Finished (hs : List (Happening x)) (status : ExitStatus) : Prop :=
  OutputOver hs ∧ endOf hs = some status

/-- What closes an open channel, and for which reason, by what happened before. -/
inductive Closes (program : String) (before : List (Happening x)) : Happening x → String → Prop
  | owner {reason : String} (kept : Switchboard.Action.abort x reason ≠ .drop x) :
      Closes program before (.board (.abort x reason) kept) reason
  | grace (alone : EndedAlone before) (going : .stopping ∉ before) :
      Closes program before (.server .graceOver) s!"{program} closed stdout"
  | exit {h : Happening x} {status : ExitStatus} (running : ∀ status, ¬ Finished before status)
      (finished : Finished (before ++ [h]) status) (going : .stopping ∉ before) :
      Closes program before h (status.reason program)
  | stopped {h : Happening x} {status : ExitStatus} (running : ∀ status, ¬ Finished before status)
      (finished : Finished (before ++ [h]) status) (stopping : .stopping ∈ before) :
      Closes program before h stopReason

/-- Nothing that happened closed the channel. -/
def Unclosed (program : String) (hs : List (Happening x)) : Prop :=
  ∀ before h after reason, hs = before ++ h :: after → ¬ Closes program before h reason

/-- The first of what happened that closed the channel did so for a reason. -/
def ClosedFirst (program : String) (hs : List (Happening x)) (reason : String) : Prop :=
  ∃ before h after, hs = before ++ h :: after ∧ Unclosed program before ∧
    Closes program before h reason

/-! ### Histories -/

/-- What happened before one of several things, if one more happened. -/
theorem concat_eq_append_cons {α : Type} {l before after : List α} {a e : α} :
    l ++ [a] = before ++ e :: after ↔
      (l = before ∧ a = e ∧ after = []) ∨
        ∃ rest, after = rest ++ [a] ∧ l = before ++ e :: rest := by
  rcases List.eq_nil_or_concat after with rfl | ⟨rest, last, rfl⟩
  · simp
  · rw [List.concat_eq_append, ← List.cons_append, ← List.append_assoc, List.append_singleton_inj]
    constructor
    · rintro ⟨rfl, rfl⟩
      exact .inr ⟨rest, rfl, rfl⟩
    · rintro (⟨-, -, empty⟩ | ⟨rest', same, rfl⟩)
      · cases List.append_ne_nil_of_right_ne_nil rest (List.cons_ne_nil last []) empty
      · obtain ⟨rfl, rfl⟩ := List.append_singleton_inj.mp same
        exact ⟨rfl, rfl⟩

theorem outputOver_concat : OutputOver (hs ++ [h]) ↔
    OutputOver hs ∨ h = .server .outputEnded ∨ h = .server .kill := by
  simp only [OutputOver, List.mem_append, List.mem_singleton, eq_comm (a := h)]
  tauto

theorem endedAlone_concat : EndedAlone (hs ++ [h]) ↔
    EndedAlone hs ∨ h = .server .outputEnded ∧ .server .kill ∉ hs := by
  simp only [EndedAlone, concat_eq_append_cons]
  constructor
  · rintro ⟨before, after, ⟨rfl, rfl, rfl⟩ | ⟨rest, rfl, rfl⟩, alone⟩
    · exact .inr ⟨rfl, alone⟩
    · exact .inl ⟨before, rest, rfl, alone⟩
  · rintro (⟨before, rest, rfl, alone⟩ | ⟨rfl, alone⟩)
    · exact ⟨before, rest ++ [h], .inr ⟨rest, rfl, rfl⟩, alone⟩
    · exact ⟨hs, [], .inl ⟨rfl, rfl, rfl⟩, alone⟩

theorem EndedAlone.outputOver (alone : EndedAlone hs) : OutputOver hs := by
  obtain ⟨before, after, rfl, -⟩ := alone
  exact .inl (by simp)

theorem endOf_concat : endOf (hs ++ [h]) = (endOf hs).or h.exit? := by
  rw [endOf, List.findSome?_append, List.findSome?_singleton, endOf]

theorem Finished.concat {status : ExitStatus} (finished : Finished hs status) :
    Finished (hs ++ [h]) status := by
  refine ⟨outputOver_concat.mpr (.inl finished.1), ?_⟩
  rw [endOf_concat, finished.2]
  rfl

theorem unclosed_concat : Unclosed program (hs ++ [h]) ↔
    Unclosed program hs ∧ ∀ reason, ¬ Closes program hs h reason := by
  simp only [Unclosed, concat_eq_append_cons]
  constructor
  · intro none
    exact ⟨fun before h' after reason split =>
        none before h' (after ++ [h]) reason (.inr ⟨after, rfl, split⟩),
      fun reason => none hs h [] reason (.inl ⟨rfl, rfl, rfl⟩)⟩
  · rintro ⟨before, last⟩ first h' after reason (⟨rfl, rfl, rfl⟩ | ⟨rest, rfl, split⟩)
    · exact last reason
    · exact before first h' rest reason split

theorem closedFirst_concat : ClosedFirst program (hs ++ [h]) reason ↔
    ClosedFirst program hs reason ∨ Unclosed program hs ∧ Closes program hs h reason := by
  simp only [ClosedFirst, concat_eq_append_cons]
  constructor
  · rintro ⟨before, h', after, ⟨rfl, rfl, rfl⟩ | ⟨rest, rfl, rfl⟩, unclosed, closes⟩
    · exact .inr ⟨unclosed, closes⟩
    · exact .inl ⟨before, h', rest, rfl, unclosed, closes⟩
  · rintro (⟨before, h', rest, rfl, facts⟩ | facts)
    · exact ⟨before, h', rest ++ [h], .inr ⟨rest, rfl, rfl⟩, facts⟩
    · exact ⟨hs, h, [], .inl ⟨rfl, rfl, rfl⟩, facts⟩

theorem unclosed_or_closedFirst (program : String) (hs : List (Happening x)) :
    Unclosed program hs ∨ ∃ reason, ClosedFirst program hs reason := by
  induction hs using List.reverseRecOn with
  | nil => exact .inl fun before h after reason split => by simp at split
  | append_singleton hs h ih =>
      rcases ih with unclosed | ⟨reason, first⟩
      · by_cases spares : ∀ reason, ¬ Closes program hs h reason
        · exact .inl (unclosed_concat.mpr ⟨unclosed, spares⟩)
        · simp only [not_forall, not_not] at spares
          obtain ⟨reason, closes⟩ := spares
          exact .inr ⟨reason, closedFirst_concat.mpr (.inr ⟨unclosed, closes⟩)⟩
      · exact .inr ⟨reason, closedFirst_concat.mpr (.inl first)⟩

/-! ### One thing happens -/

section

variable {s : Channel × Switchboard}

theorem Turn.follows {ch : Channel} {b : Switchboard} (turn : Turn ch x b s) (placed : b.Placed) :
    Switchboard.Follows b s.2 := by
  cases turn with
  | quiet steady => exact placed.follows_refl
  | hands steady frames => exact placed.dispatchAll x frames
  | closes steady reason => exact placed.abort x reason

theorem Turn.there {ch : Channel} {b : Switchboard} (turn : Turn ch x b s)
    (there : (b.exchange x).dropped = false) : (s.2.exchange x).dropped = false := by
  cases turn with
  | quiet steady => exact there
  | hands steady frames => exact ((b.shrinks_dispatchAll x frames).dropped_eq x).trans there
  | closes steady reason => exact (b.abort_dropped x x reason).trans there

theorem Turn.closed {ch : Channel} {b : Switchboard} (turn : Turn ch x b s)
    (closed : (b.exchange x).closed = some reason) :
    (s.2.exchange x).closed = some reason := by
  cases turn with
  | quiet steady => exact closed
  | hands steady frames => exact ((b.shrinks_dispatchAll x frames).closed_eq x).trans closed
  | closes steady later => exact b.abort_closed x x later closed

theorem Happening.apply_follows (placed : s.2.Placed) (h : Happening x) :
    Switchboard.Follows s.2 (h.apply s).2 := by
  cases h with
  | server e => exact (s.1.step_turn x s.2 e).follows placed
  | stopping => exact placed.follows_refl
  | board a kept => exact placed.act a

theorem Happening.apply_there (there : (s.2.exchange x).dropped = false) (h : Happening x) :
    ((h.apply s).2.exchange x).dropped = false := by
  cases h with
  | server e => exact (s.1.step_turn x s.2 e).there there
  | stopping => exact there
  | board a kept => exact Switchboard.act_there there kept

theorem Happening.run_follows (placed : s.2.Placed) (hs : List (Happening x)) :
    Switchboard.Follows s.2 (run s hs).2 := by
  induction hs generalizing s with
  | nil => exact placed.follows_refl
  | cons h hs ih =>
      have first := h.apply_follows placed
      exact first.trans (ih first.placed)

/-- The reason for which the channel closed stays. -/
theorem Happening.apply_closed (closed : (s.2.exchange x).closed = some reason)
    (h : Happening x) : ((h.apply s).2.exchange x).closed = some reason := by
  cases h with
  | server e => exact (s.1.step_turn x s.2 e).closed closed
  | stopping => exact closed
  | board a kept => exact Switchboard.run_closed closed [a]

end

/-! ### The watch -/

/-- What the watch has noticed of the signal by what happened. -/
inductive Noticed (hs : List (Happening x)) : KillSignal → Bool → Prop
  | alive (alive : .server .kill ∉ hs) : Noticed hs .awaited false
  | killed (wanted : .server .kill ∈ hs) : Noticed hs .seen true

/-- As long as nothing closed the channel and the owner is not about to, the watch is patient with a
server whose output ended before anybody wanted it killed. -/
def Patience (program : String) (hs : List (Happening x)) (patient : Bool) : Prop :=
  Unclosed program hs → .stopping ∉ hs → (patient = true ↔ EndedAlone hs)

/-- What the watch does by what happened. It never breaks down. -/
inductive Watches (program : String) (hs : List (Happening x)) :
    Watch → KillSignal → Bool → Option ExitStatus → Prop
  | reading {buffer : Framing.LineBuffer} {ended : Option ExitStatus} (unread : ¬ OutputOver hs)
      (noted : ended = endOf hs) : Watches program hs (.reading buffer) .awaited false ended
  | waiting {patient killed : Bool} {signal : KillSignal} (quiet : OutputOver hs)
      (going : endOf hs = none) (noticed : Noticed hs signal killed)
      (patience : Patience program hs patient) :
      Watches program hs (.waiting patient) signal killed none
  | through {signal : KillSignal} {killed : Bool} {ended : Option ExitStatus} {status : ExitStatus}
      (finished : Finished hs status) : Watches program hs .over signal killed ended

/-- The watch over a channel does what it does by what happened. -/
def Watched (program : String) (hs : List (Happening x)) (ch : Channel) : Prop :=
  Watches program hs ch.watch ch.signal ch.killed ch.ended

theorem Noticed.concat {signal : KillSignal} {killed : Bool} (noticed : Noticed hs signal killed)
    (other : h ≠ .server .kill) : Noticed (hs ++ [h]) signal killed := by
  cases noticed with
  | alive alive => exact .alive (by simpa [other.symm] using alive)
  | killed wanted => exact .killed (List.mem_append_left _ wanted)

/-- The watch looks for the signal until it has seen it, and so never in vain. -/
theorem Noticed.lookOnce {ch : Channel} (noticed : Noticed hs ch.signal ch.killed) (e : Event) :
    ∃ ch', (ch.note e).lookOnce? = some ch' ∧
      ch'.ended = ch.ended.or (Happening.server e : Happening x).exit? ∧
      Noticed (hs ++ [.server e]) ch'.signal ch'.killed := by
  obtain ⟨name, watch, signal, killed, ended, stopping, written, log⟩ := ch
  cases noticed with
  | alive alive =>
      have still := Noticed.alive alive
      cases e with
      | kill => exact ⟨_, rfl, ended.or_none.symm, .killed (by simp)⟩
      | exited status => exact ⟨_, rfl, rfl, still.concat nofun⟩
      | _ => exact ⟨_, rfl, ended.or_none.symm, still.concat nofun⟩
  | killed wanted =>
      have still : ∀ h : Happening x, Noticed (hs ++ [h]) .seen true := fun _ =>
        .killed (List.mem_append_left _ wanted)
      cases e with
      | exited status => exact ⟨_, rfl, rfl, still _⟩
      | _ => exact ⟨_, rfl, ended.or_none.symm, still _⟩

theorem endedAlone_of_not_killed (quiet : OutputOver hs) (alive : .server .kill ∉ hs) :
    EndedAlone hs := by
  obtain ⟨before, after, rfl⟩ := List.append_of_mem (quiet.resolve_right alive)
  exact ⟨before, after, rfl, fun killed => alive (List.mem_append_left _ killed)⟩

/-- Once the output is over, nothing more is to be known of its end. -/
theorem Patience.concat {patient : Bool} (patience : Patience program hs patient)
    (quiet : OutputOver hs) : Patience program (hs ++ [h]) patient := by
  intro unclosed unstopped
  have going : .stopping ∉ hs := fun begun => unstopped (List.mem_append_left _ begun)
  rw [endedAlone_concat,
    or_iff_left_of_imp fun last => endedAlone_of_not_killed quiet last.2]
  exact patience (unclosed_concat.mp unclosed).1 going

/-- What tells nothing of the server leaves the watch where it is. -/
theorem Watches.concat {watch : Watch} {signal : KillSignal} {killed : Bool}
    {ended : Option ExitStatus} (watches : Watches program hs watch signal killed ended)
    (silent : h.exit? = none) (unended : h ≠ .server .outputEnded) (alive : h ≠ .server .kill) :
    Watches program (hs ++ [h]) watch signal killed ended := by
  have same : endOf (hs ++ [h]) = endOf hs := by rw [endOf_concat, silent, Option.or_none]
  cases watches with
  | reading unread noted =>
      exact .reading (by simpa [outputOver_concat, unended, alive] using unread)
        (noted.trans same.symm)
  | waiting quiet going noticed patience =>
      exact .waiting (outputOver_concat.mpr (.inl quiet)) (same.trans going) (noticed.concat alive)
        (patience.concat quiet)
  | through finished => exact .through finished.concat

namespace Watched

variable {ch : Channel}

/-- Once the output is over, the watch waits for the end of the server, unless that came before. -/
theorem await {patient : Bool} (quiet : OutputOver hs) (ended : ch.ended = endOf hs)
    (noticed : Noticed hs ch.signal ch.killed) (patience : Patience program hs patient)
    (b : Switchboard) : Watched program hs (ch.await x b patient).1 := by
  cases status : ch.ended with
  | some status' =>
      rw [Channel.await_of_ended status]
      exact .through ⟨quiet, ended ▸ status⟩
  | none =>
      rw [Channel.await_of_going status]
      show Watches program hs (.waiting patient) ch.signal ch.killed ch.ended
      rw [status]
      exact .waiting quiet (ended ▸ status) noticed patience

/-- A turn of a watch that waits and has noticed whether the server is to be killed. -/
theorem waitOn {patient : Bool} {e : Event} (quiet : OutputOver hs) (going : endOf hs = none)
    (patience : Patience program hs patient) (ended : ch.ended = endOf (hs ++ [.server e]))
    (noticed : Noticed (hs ++ [.server e]) ch.signal ch.killed) (b : Switchboard) :
    Watched program (hs ++ [.server e]) (ch.waitOn patient x b e).1 := by
  have quiet' : OutputOver (hs ++ [.server e]) := outputOver_concat.mpr (.inl quiet)
  unfold Channel.waitOn
  split
  · have silent : endOf (hs ++ [.server .graceOver]) = none := by
      rw [endOf_concat, going]
      rfl
    -- Either the channel is closed now, or the owner is about to close it.
    have givenUp : Watches program (hs ++ [.server .graceOver]) (.waiting false) ch.signal
        ch.killed ch.ended := by
      rw [ended, silent]
      refine .waiting quiet' silent noticed fun unclosed unstopped => ?_
      obtain ⟨unclosed, spares⟩ := unclosed_concat.mp unclosed
      have unstopped : .stopping ∉ hs := fun begun => unstopped (List.mem_append_left _ begun)
      exact absurd (.grace ((patience unclosed unstopped).mp rfl) unstopped) (spares _)
    dsimp only
    split <;> exact givenUp
  · exact await quiet' ended noticed (patience.concat quiet) b

/-- Whatever happens to the server, the watch does what it does by that. -/
theorem step (watched : Watched program hs ch) (b : Switchboard) (e : Event) :
    Watched program (hs ++ [.server e]) (ch.step x b e).1 := by
  obtain ⟨name, watch, signal, killed, ended, stopping, written, log⟩ := ch
  cases watched with
  | @reading buffer _ unread noted =>
      have reading : Watches program hs (.reading buffer) .awaited false ended :=
        .reading unread noted
      have alive : .server .kill ∉ hs := fun killed => unread (.inr killed)
      have still : ∀ h : Happening x, h.exit? = none → ended = endOf (hs ++ [h]) := by
        intro h silent
        rw [endOf_concat, silent, Option.or_none]
        exact noted
      cases e with
      | output bytes => exact (Watches.reading unread noted).concat rfl nofun nofun
      | graceOver => exact reading.concat rfl nofun nofun
      | outputEnded =>
          have alone : EndedAlone (hs ++ [.server .outputEnded]) :=
            endedAlone_concat.mpr (.inr ⟨rfl, alive⟩)
          have noticed : Noticed (hs ++ [.server .outputEnded]) .awaited false :=
            (Noticed.alive alive).concat nofun
          let ch : Channel :=
            ⟨name, .reading buffer, .awaited, false, ended, stopping, written, log⟩
          show Watched program _ (ch.await x b true).1
          exact await alone.outputOver (still _ rfl) noticed (fun _ _ => iff_of_true rfl alone) b
      | kill =>
          have quiet : OutputOver (hs ++ [.server .kill]) :=
            outputOver_concat.mpr (.inr (.inr rfl))
          have noticed : Noticed (hs ++ [.server .kill]) .seen true := .killed (by simp)
          have together : ¬ EndedAlone (hs ++ [.server .kill]) := by
            intro alone
            rcases endedAlone_concat.mp alone with before | ⟨other, -⟩
            · exact unread before.outputOver
            · cases other
          have impatient : false = true ↔ EndedAlone (hs ++ [.server .kill]) :=
            iff_of_false Bool.false_ne_true together
          let ch : Channel := ⟨name, .reading buffer, .seen, true, ended, stopping, written, log⟩
          show Watched program _ (ch.await x b false).1
          exact await quiet (still _ rfl) noticed (fun _ _ => impatient) b
      | exited status =>
          have unread : ¬ OutputOver (hs ++ [.server (.exited status)]) := by
            simpa [outputOver_concat] using unread
          refine Watches.reading unread ?_
          rw [endOf_concat, ← noted]
          rfl
  | @waiting patient killed signal quiet going noticed patience =>
      let ch : Channel := ⟨name, .waiting patient, signal, killed, none, stopping, written, log⟩
      have noticed : Noticed hs ch.signal ch.killed := noticed
      obtain ⟨ch', looked, ended, noticed⟩ := noticed.lookOnce e
      show Watched program _ (ch.step x b e).1
      rw [Channel.step_waiting rfl looked]
      refine waitOn quiet going patience ?_ noticed b
      rw [ended, endOf_concat, going]
  | through finished => exact .through finished.concat

/-- The watch is over exactly when the output is over and the server has ended. -/
theorem over_iff (watched : Watched program hs ch) :
    ch.isOver ↔ ∃ status, Finished hs status := by
  obtain ⟨name, watch, signal, killed, ended, stopping, written, log⟩ := ch
  cases watched with
  | reading unread noted => exact iff_of_false nofun fun ⟨_, finished⟩ => unread finished.1
  | waiting quiet going noticed patience =>
      refine iff_of_false nofun fun ⟨status, finished⟩ => ?_
      cases going.symm.trans finished.2
  | through finished => exact iff_of_true rfl ⟨_, finished⟩

theorem not_broken (watched : Watched program hs ch) : ch.watch ≠ .broken := by
  intro broken
  unfold Watched at watched
  rw [broken] at watched
  cases watched

/-- Nobody looks for the signal any more once it was given, and giving it again changes nothing. -/
theorem killed_again (watched : Watched program hs ch) (wanted : .server .kill ∈ hs)
    (b : Switchboard) : (ch.isOver ∨ ch.killed) ∧ ch.step x b .kill = (ch, b) := by
  obtain ⟨name, watch, signal, killed, ended, stopping, written, log⟩ := ch
  cases watched with
  | reading unread noted => exact absurd (.inr wanted) unread
  | @waiting patient _ _ quiet going noticed patience =>
      cases noticed with
      | alive alive => exact absurd wanted alive
      | killed wanted => cases patient <;> exact ⟨.inr rfl, rfl⟩
  | through finished => exact ⟨.inl rfl, rfl⟩

end Watched

/-- The watch over an open channel is not over. -/
theorem not_finished_of_unclosed (unclosed : Unclosed program hs) (status : ExitStatus) :
    ¬ Finished hs status := by
  induction hs using List.reverseRecOn generalizing status with
  | nil => exact fun finished => nomatch finished.2
  | append_singleton hs h ih =>
      intro finished
      obtain ⟨unclosed, spares⟩ := unclosed_concat.mp unclosed
      by_cases begun : .stopping ∈ hs
      · exact spares _ (.stopped (ih unclosed) finished begun)
      · exact spares _ (.exit (ih unclosed) finished begun)

/-- What makes an end of the watch comes last: the end of the output, or the end of the server. -/
theorem finishes_cases {status : ExitStatus} (running : ∀ status, ¬ Finished hs status)
    (finished : Finished (hs ++ [h]) status) :
    (¬ OutputOver hs ∧ endOf hs = some status ∧ (h = .server .outputEnded ∨ h = .server .kill)) ∨
      (OutputOver hs ∧ endOf hs = none ∧ h = .server (.exited status)) := by
  obtain ⟨silenced, ended⟩ := finished
  rw [endOf_concat] at ended
  by_cases quiet : OutputOver hs
  · have going : endOf hs = none := by
      cases before : endOf hs with
      | none => rfl
      | some status' => exact absurd ⟨quiet, before⟩ (running status')
    rw [going, Option.none_or] at ended
    refine .inr ⟨quiet, going, ?_⟩
    unfold Happening.exit? at ended
    split at ended
    · cases ended
      rfl
    · cases ended
  · have last := (outputOver_concat.mp silenced).resolve_left quiet
    have silent : h.exit? = none := by
      rcases last with rfl | rfl <;> rfl
    rw [silent, Option.or_none] at ended
    exact .inl ⟨quiet, ended, last⟩

/-- That the owner is about to close a channel does not close it. -/
theorem not_closes_stopping : ¬ Closes program hs .stopping reason := by
  intro closes
  cases closes with
  | exit running finished going => rcases finishes_cases running finished with h | h <;> simp at h
  | stopped running finished begun =>
      rcases finishes_cases running finished with h | h <;> simp at h

/-! ### The channel -/

/-- How a channel is after what happened to it. -/
structure Stands (program : String) (hs : List (Happening x)) (s : Channel × Switchboard) :
    Prop where
  program_eq : s.1.program = program
  stopping_iff : s.1.stopping = true ↔ .stopping ∈ hs
  placed : s.2.Placed
  there : (s.2.exchange x).dropped = false
  watched : Watched program hs s.1
  opened : Unclosed program hs → (s.2.exchange x).closed = none
  closed : ∀ {reason}, ClosedFirst program hs reason → (s.2.exchange x).closed = some reason

namespace Stands

variable {s : Channel × Switchboard}

theorem exitReason_eq (stands : Stands program hs s) (status : ExitStatus) :
    (.stopping ∉ hs → s.1.exitReason status = status.reason program) ∧
      (.stopping ∈ hs → s.1.exitReason status = stopReason) := by
  unfold Channel.exitReason
  refine ⟨fun going => ?_, fun begun => if_pos (stands.stopping_iff.mpr begun)⟩
  rw [if_neg (mt stands.stopping_iff.mp going), stands.program_eq]

/-- When the output is over and the server has ended, the channel closes. -/
theorem apply_of_finishes (stands : Stands program hs s) {status : ExitStatus}
    (running : ∀ status, ¬ Finished hs status) (finished : Finished (hs ++ [h]) status) :
    (h.apply s).2 = (s.2.abort x (s.1.exitReason status)).2 := by
  obtain ⟨⟨name, watch, signal, killed, ended, stopping, written, log⟩, b⟩ := s
  have watched := stands.watched
  rcases finishes_cases running finished with ⟨unread, ended, last⟩ | ⟨quiet, -, rfl⟩
  · cases watched with
    | reading _ noted =>
        obtain rfl := noted.trans ended
        rcases last with rfl | rfl <;> rfl
    | waiting quiet going noticed patience => exact absurd quiet unread
    | through finished => exact absurd finished.1 unread
  · cases watched with
    | reading unread noted => exact absurd quiet unread
    | @waiting patient _ _ _ going noticed patience =>
        cases noticed <;> cases patient <;> rfl
    | through finished => exact absurd finished (running _)

/-- What closes an open channel by what happened before does to the calls what its owner would. -/
theorem apply_of_closes (stands : Stands program hs s) (closes : Closes program hs h reason)
    (unclosed : Unclosed program hs) : (h.apply s).2 = s.2.act (.abort x reason) := by
  rw [Switchboard.act_of_there rfl stands.there]
  show _ = (s.2.abort x reason).2
  cases closes with
  | owner kept => exact Switchboard.act_of_there rfl stands.there
  | grace alone going =>
      have watched := stands.watched
      obtain ⟨⟨_, watch, signal, killed, ended, stopping, written, log⟩, b⟩ := s
      obtain rfl := stands.program_eq
      obtain rfl : stopping = false := Bool.eq_false_iff.mpr (mt stands.stopping_iff.mp going)
      cases watched with
      | reading unread noted => exact absurd alone.outputOver unread
      | waiting quiet _ noticed patience =>
          obtain rfl := (patience unclosed going).mpr alone
          cases noticed <;> rfl
      | through finished => exact absurd finished (not_finished_of_unclosed unclosed _)
  | exit running finished going =>
      rw [stands.apply_of_finishes running finished, (stands.exitReason_eq _).1 going]
  | stopped running finished begun =>
      rw [stands.apply_of_finishes running finished, (stands.exitReason_eq _).2 begun]

/-- What does not close an open channel leaves it open. -/
theorem open_of_not_closes (stands : Stands program hs s)
    (unclosed : Unclosed program (hs ++ [h])) :
    ((h.apply s).2.exchange x).closed = none := by
  have running := not_finished_of_unclosed unclosed
  obtain ⟨before, spares⟩ := unclosed_concat.mp unclosed
  have opened := stands.opened before
  have watched := stands.watched
  cases h with
  | server e =>
      obtain ⟨⟨_, watch, signal, killed, ended, stopping, written, log⟩, b⟩ := s
      cases watched with
      | @reading buffer _ unread noted =>
          have going : (Happening.server e : Happening x).exit? = none →
              OutputOver (hs ++ [.server e]) → ended = none := by
            intro silent quiet
            cases ended with
            | none => rfl
            | some status =>
                refine absurd ⟨quiet, ?_⟩ (running status)
                rw [endOf_concat, ← noted]
                rfl
          cases e with
          | output bytes => exact ((b.shrinks_dispatchAll x _).closed_eq x).trans opened
          | outputEnded =>
              obtain rfl := going rfl (outputOver_concat.mpr (.inr (.inl rfl)))
              exact opened
          | kill =>
              obtain rfl := going rfl (outputOver_concat.mpr (.inr (.inr rfl)))
              exact opened
          | graceOver => exact opened
          | exited status => exact opened
      | @waiting patient _ _ quiet going noticed patience =>
          cases e with
          | graceOver =>
              cases patient with
              | false => cases noticed <;> exact opened
              | true =>
                  -- The time is up, but the owner is about to close the channel.
                  have begun : .stopping ∈ hs := by
                    by_contra going
                    exact spares _ (.grace ((patience before going).mp rfl) going)
                  obtain rfl : stopping = true := stands.stopping_iff.mpr begun
                  cases noticed <;> exact opened
          | exited status =>
              refine absurd ⟨outputOver_concat.mpr (.inl quiet), ?_⟩ (running status)
              rw [endOf_concat, going]
              rfl
          | _ => cases noticed <;> cases patient <;> exact opened
      | through finished => exact opened
  | stopping => exact opened
  | board a kept =>
      cases closed : ((s.2.act a).exchange x).closed with
      | none => exact closed
      | some reason =>
          obtain ⟨rfl, -⟩ := Switchboard.act_closes opened closed
          exact absurd (.owner kept) (spares reason)

theorem next (stands : Stands program hs s) (h : Happening x) :
    Stands program (hs ++ [h]) (h.apply s) where
  program_eq := by
    cases h with
    | server e => exact (s.1.step_turn x s.2 e).steady.program.trans stands.program_eq
    | _ => exact stands.program_eq
  stopping_iff := by
    cases h with
    | server e =>
        show (s.1.step x s.2 e).1.stopping = true ↔ _
        rw [(s.1.step_turn x s.2 e).steady.stopping, stands.stopping_iff]
        simp
    | stopping => exact iff_of_true rfl (by simp)
    | board a kept =>
        refine stands.stopping_iff.trans ?_
        simp
  placed := (h.apply_follows stands.placed).placed
  there := h.apply_there stands.there
  watched := by
    cases h with
    | server e => exact stands.watched.step s.2 e
    | _ => exact stands.watched.concat rfl nofun nofun
  opened := stands.open_of_not_closes
  closed closed := by
    rcases closedFirst_concat.mp closed with before | ⟨unclosed, closes⟩
    · exact h.apply_closed (stands.closed before)
    · rw [stands.apply_of_closes closes unclosed]
      exact Switchboard.act_abort_closed _ stands.there (stands.opened unclosed)

/-- Whatever happens to a channel, its history tells how it stands. -/
theorem run {before hs : List (Happening x)} (stands : Stands program before s) :
    Stands program (before ++ hs) (Happening.run s hs) := by
  induction hs generalizing before s with
  | nil => simpa [Happening.run] using stands
  | cons h hs ih =>
      have rest := ih (stands.next h)
      rwa [List.append_assoc] at rest

/-- A call that waits when an open channel is closed is rejected for the reason of that. -/
theorem rejected_of_closes (stands : Stands program hs s) (unclosed : Unclosed program hs)
    (closes : Closes program hs h reason) {id : UInt64} {call : Nat}
    (waits : (id, call) ∈ (s.2.exchange x).waiting) :
    (h.apply s).2.status? call = some (.rejected reason) := by
  obtain ⟨c, found, -, -, status⟩ := Switchboard.act_abort_call stands.placed reason stands.there
    (stands.opened unclosed) waits
  rw [stands.apply_of_closes closes unclosed, Switchboard.status?, found, Option.map_some, status]

/-- The channel is closed exactly for the reason of the first that closed it. -/
theorem closed_iff (stands : Stands program hs s) :
    (s.2.exchange x).closed = some reason ↔ ClosedFirst program hs reason := by
  refine ⟨fun closed => ?_, stands.closed⟩
  rcases unclosed_or_closedFirst program hs with unclosed | ⟨first, decided⟩
  · cases closed.symm.trans (stands.opened unclosed)
  · cases closed.symm.trans (stands.closed decided)
    exact decided

end Stands

/-- A channel that was just opened stands open. -/
theorem stands_opened (earlier : List Switchboard.Action) (program : String) (limit : Nat) :
    let b := ({} : Switchboard).run earlier
    Stands program ([] : List (Happening b.exchanges.length))
      (.opened program limit, b.openExchange) := by
  intro b
  have placed : b.Placed := (Switchboard.placed_empty.run earlier).placed
  have fresh : b.openExchange.exchange b.exchanges.length = {} := by
    rw [Switchboard.exchange_openExchange, if_pos rfl]
  constructor
  case program_eq => rfl
  case stopping_iff => exact iff_of_false nofun nofun
  case placed => exact placed.openExchange.placed
  case there => rw [fresh]
  case watched => exact .reading (fun quiet => quiet.elim nofun nofun) rfl
  case opened =>
    intro _
    rw [fresh]
  case closed =>
    rintro reason ⟨before, h, after, split, -⟩
    simp at split

/-- Once the owner is about to close a channel that is open, it closes because it was stopped, or
for another reason of the owner. -/
theorem reason_of_stopping {before after : List (Happening x)} (unclosed : Unclosed program before)
    (first : ClosedFirst program (before ++ .stopping :: after) reason) :
    reason = stopReason ∨ ∃ kept, .board (.abort x reason) kept ∈ after := by
  obtain ⟨earlier, h, later, split, -, closes⟩ := first
  -- What closed the channel came after the owner began to stop it.
  have behind : ∃ between, earlier = before ++ .stopping :: between ∧
      after = between ++ h :: later := by
    rcases List.append_eq_append_iff.mp split with ⟨rest, rfl, tail⟩ | ⟨rest, rfl, tail⟩
    · cases rest with
      | nil =>
          cases tail
          exact absurd closes not_closes_stopping
      | cons _ between =>
          cases tail
          exact ⟨between, rfl, rfl⟩
    · cases rest with
      | nil =>
          cases tail
          exact absurd closes not_closes_stopping
      | cons _ between =>
          cases tail
          exact absurd closes (unclosed earlier h between reason rfl)
  obtain ⟨between, rfl, rfl⟩ := behind
  have begun : .stopping ∈ before ++ .stopping :: between := by simp
  cases closes with
  | owner kept => exact .inr ⟨kept, by simp⟩
  | grace alone going => exact absurd begun going
  | exit running finished going => exact absurd begun going
  | stopped running finished begun => exact .inl rfl

/-- What closes a channel first gives the reason, whatever happens around it and in whatever order,
and rejects the calls that wait then for that reason. The watch is over once the output is over and
the server has ended, and the channel is closed then. Once its owner is about to close it while it
is open, it closes for no other reason than the owner's. A call that waits when a response to it is
read from the output is answered by it for good. The watch never looks at a signal that it has seen,
and a server that was to be killed before is not killed again. -/
theorem first_closing_gives_reason (earlier : List Switchboard.Action) (program : String)
    (limit : Nat) :
    let b := ({} : Switchboard).run earlier
    let x := b.exchanges.length
    let after := Happening.run (x := x) (.opened program limit, b.openExchange)
    ∀ hs : List (Happening x),
      (∀ reason, ((after hs).2.exchange x).closed = some reason ↔ ClosedFirst program hs reason) ∧
      (∀ before h rest reason id call, hs = before ++ h :: rest → Unclosed program before →
        Closes program before h reason → (id, call) ∈ ((after before).2.exchange x).waiting →
        (after hs).2.status? call = some (.rejected reason)) ∧
      ((after hs).1.isOver ↔ ∃ status, Finished hs status) ∧
      ((after hs).1.isOver → ((after hs).2.exchange x).closed.isSome) ∧
      (∀ before rest reason, hs = before ++ .stopping :: rest → Unclosed program before →
        ((after hs).2.exchange x).closed = some reason →
        reason = stopReason ∨ ∃ kept, .board (.abort x reason) kept ∈ rest) ∧
      (∀ before bytes rest buffer id call r, hs = before ++ .server (.output bytes) :: rest →
        (after before).1.watch = .reading buffer →
        (id, call) ∈ ((after before).2.exchange x).waiting →
        firstResponse id ((buffer.feed bytes).1.filterMap Framing.Frame.message?) = some r →
        (after hs).2.status? call = some (.answered r)) ∧
      (after hs).1.watch ≠ .broken ∧
      (.server .kill ∈ hs → ((after hs).1.isOver ∨ (after hs).1.killed) ∧
        after (hs ++ [.server .kill]) = after hs) := by
  intro b x after hs
  have stands : ∀ hs, Stands program hs (after hs) :=
    fun hs => (stands_opened earlier program limit).run
  have append : ∀ before rest, after (before ++ rest) = Happening.run (after before) rest :=
    fun before rest => List.foldl_append
  -- What a call came to stays.
  have lasting : ∀ before h rest call status,
      (Happening.apply (x := x) (after before) h).2.status? call = some status →
      status ≠ .waiting → (after (before ++ h :: rest)).2.status? call = some status := by
    intro before h rest call status resolved done
    have placed := (h.apply_follows (stands before).placed).placed
    rw [append]
    exact (Happening.run_follows placed rest).status?_eq resolved done
  refine ⟨fun reason => (stands hs).closed_iff, ?_, (stands hs).watched.over_iff, fun quiet => ?_,
    ?_, ?_, (stands hs).watched.not_broken, fun wanted => ?_⟩
  · rintro before h rest reason id call rfl unclosed closes waits
    exact lasting before h rest call _ ((stands before).rejected_of_closes unclosed closes waits)
      nofun
  · obtain ⟨status, finished⟩ := (stands hs).watched.over_iff.mp quiet
    rcases unclosed_or_closedFirst program hs with unclosed | ⟨reason, first⟩
    · exact absurd finished (not_finished_of_unclosed unclosed status)
    · rw [(stands hs).closed first]
      rfl
  · rintro before rest reason rfl unclosed closed
    exact reason_of_stopping unclosed ((stands _).closed_iff.mp closed)
  · rintro before bytes rest buffer id call r rfl reading waits answers
    have fares := Switchboard.dispatchAll_frames_fare (stands before).placed waits
      (buffer.feed bytes).1
    rw [Switchboard.Fares, answers] at fares
    refine lasting before _ rest call _ ?_ nofun
    show ((after before).1.step x (after before).2 (.output bytes)).2.status? call = _
    rw [Channel.step_output reading]
    exact fares
  · obtain ⟨heeded, same⟩ := (stands hs).watched.killed_again wanted (after hs).2
    refine ⟨heeded, ?_⟩
    rw [append]
    exact same

/-- A server that ended before its output did is not said to have closed it. -/
example : ((Happening.run (x := 0) (.opened "server" 64, ({} : Switchboard).openExchange)
    [.server (.exited (.exited 1)), .server .outputEnded,
      .server .graceOver]).2.exchange 0).closed = some "server exited with code 1" := rfl

/-- The output ends, the owner is about to close the channel, the time without output is up, and
then the server ends. -/
example : ((Happening.run (x := 0) (.opened "server" 64, ({} : Switchboard).openExchange)
    [.server .outputEnded, .stopping, .server .graceOver,
      .server (.exited (.signalled 9))]).2.exchange 0).closed = some "client stopped" := rfl

end RpcLink.Pipe
