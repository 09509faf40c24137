import RpcLink.Proofs.Exchange.Rejections
import RpcLink.Proofs.Native.Endings

/-!
What a call that is told of a closed channel says of its connection. A request that was posted is
told so only when its connection has ended, and the client will not use that one again. But where
the host's side takes no more messages, the call is told the same and the connection stays.
-/

namespace RpcLink

theorem second_append {s t : String} {x : Char} (found : s.toList[1]? = some x) :
    (s ++ t).toList[1]? = some x := by
  obtain ⟨inside, -⟩ := List.getElem?_eq_some_iff.mp found
  rw [String.toList_append, List.getElem?_append_left inside, found]

/-- No other failure says what a closed channel says: their texts differ in the second letter. -/
theorem Failure.eq_of_message {e : Failure} {reason : String}
    (same : e.message = (channelClosed reason).message) : e = .channelClosed reason := by
  have second : e.message.toList[1]? = some 'h' := by
    rw [same]
    exact second_append rfl
  have other : ∀ {x : Char}, e.message.toList[1]? = some x → x = 'h' := fun found =>
    Option.some.inj (found.symm.trans second)
  cases e with
  | channelClosed told =>
      have texts : "channel closed: " ++ told = "channel closed: " ++ reason := same
      rw [← String.toList_inj, String.toList_append, String.toList_append] at texts
      rw [String.toList_inj.mp (List.append_cancel_left texts)]
  | invalidConfig m => exact absurd (other (x := 'n') (second_append rfl)) (by decide)
  | programNotFound searched =>
      exact absurd (other (x := 'o') (second_append (second_append rfl))) (by decide)
  | spawn e => exact absurd (other (x := 'a') (second_append rfl)) (by decide)
  | hostNotFound host => exact absurd (other (x := 'p') (second_append rfl)) (by decide)
  | handshake m => exact absurd (other (x := 'a') (second_append rfl)) (by decide)
  | io e => exact absurd (other (x := 'O') (second_append rfl)) (by decide)
  | json m fault => exact absurd (other (x := 'a') (second_append rfl)) (by decide)
  | malformed m => exact absurd (other (x := 'a') (second_append rfl)) (by decide)
  | frameTooLarge length limit =>
      refine absurd (other (x := 'a') ?_) (by decide)
      exact second_append (second_append (second_append (second_append rfl)))
  | timeout ns => exact absurd (other (x := 'e') (second_append rfl)) (by decide)
  | rpc e => exact absurd (other (x := 'p') (second_append rfl)) (by decide)

namespace Native

/-- So whoever is told of a closed channel has a call that was rejected so, also in a reply. -/
theorem Job.result_of_conclude {job : Job} {result : Except Failure Response} {reason : String}
    (same : job.conclude result = job.conclude (.error (.channelClosed reason))) :
    result = .error (.channelClosed reason) := by
  cases job with
  | call method params limited => exact Outcome.response.inj same
  | disconnect => exact Outcome.response.inj same
  | relay message =>
      have replies := Outcome.reply.inj same
      cases result with
      | ok r =>
          have shape : Json.object [("ok", .bool true), ("response", r.toJson.sorted)] =
              .object [("error", .string (Failure.channelClosed reason).message),
                ("ok", .bool false)] := replies
          simp at shape
      | error e =>
          have shape : Json.object [("error", .string e.message), ("ok", .bool false)] =
              .object [("error", .string (Failure.channelClosed reason).message),
                ("ok", .bool false)] := replies
          simp only [Json.object.injEq, List.cons.injEq, Prod.mk.injEq, Json.string.injEq, true_and,
            and_true] at shape
          rw [Failure.eq_of_message shape]

variable {c c' : Client} {task link : Nat} {job : Job} {ask : Relay.Ask} {reason : String}
  {out : List (Nat × Json)} {τ τ' : List Crossing}

/-- A task that awaits a call posted its request, and whoever posted a request is done with
connecting. -/
structure Heeds (c : Client) (τ : List Crossing) : Prop where
  truthful : c.board.Truthful
  awaits : ∀ {t k}, c.phase? t = some (.awaiting k) → ∃ d message,
    c.board.calls[k]? = some d ∧ d.status ≠ .orphaned ∧ .posted t d.exchange message ∈ τ
  posted : ∀ {t l message}, .posted t l message ∈ τ → l < c.links.length ∧ c.Reached t 3

/-- Why a task was told that its channel is closed. -/
inductive Rejection (c : Client) (τ : List Crossing) (task : Nat) (reason : String) : Prop where
  /-- The connection has ended over which its request was posted. -/
  | ended {link : Nat} {message : Json} (posted : .posted task link message ∈ τ)
      (closed : (c.board.exchange link).closed = some reason)
  /-- The connector has no port and says so. -/
  | unconnected (unposted : ∀ link message, .posted task link message ∉ τ)
      (none : c.current = none)
  /-- There is a connection, but its host's side takes no messages, and the call is withdrawn. -/
  | refused {link : Nat} {id : UInt64} (unposted : ∀ link message, .posted task link message ∉ τ)
      (withdrawn : c.board.calls.getLast? = some { exchange := link, id, status := .orphaned })
      (text : reason = "native port is disconnected") (live : c.live? = some link)
      (shut : (c.port link).outgoing.shut = true)

/-! ### Moves -/

/-- Whoever is told of a closed channel has a call that was rejected, or one that was withdrawn. -/
theorem rejected_of_outcome {d : Call} (told : d.outcome = some (.error (.channelClosed reason))) :
    d.status = .rejected reason ∨ d.status = .orphaned := by
  unfold Call.outcome at told
  cases status : d.status <;> simp_all

theorem Client.letGo_upholds (truthful : c.board.Truthful) (task : Nat) :
    c.board.Upholds (c.letGo task).board := by
  rcases c.letGo_board task with same | ⟨call, settled⟩
  · exact same ▸ truthful.upholds_refl
  · exact settled ▸ truthful.settle call

namespace Heeds

theorem of_setPhase {phase : Phase} (h : Heeds c τ) (a : Client) (tasks : a.tasks = c.tasks)
    (longer : τ <+: τ') (next : c.board.Upholds a.board)
    (awaits : ∀ {k}, phase = .awaiting k → ∃ d message, a.board.calls[k]? = some d ∧
      d.status ≠ .orphaned ∧ .posted task d.exchange message ∈ τ')
    (posted : ∀ {t l message}, .posted t l message ∈ τ' → l < (a.setPhase task phase).links.length ∧
      (a.setPhase task phase).Reached t 3) : Heeds (a.setPhase task phase) τ' where
  truthful := next.truthful
  awaits := by
    intro t k found
    rw [Client.setPhase_phase?] at found
    split at found
    · rename_i same
      subst same
      obtain ⟨_, -, same⟩ := Option.map_eq_some_iff.mp found
      exact awaits same
    · rw [Client.phase?_of_tasks_eq tasks] at found
      obtain ⟨d, message, there, present, crossed⟩ := h.awaits found
      obtain ⟨d', there', place, present'⟩ := next.kept there
      exact ⟨d', message, there', present' present, place ▸ longer.subset crossed⟩
  posted := posted

/-- What changes the switchboard and no task. -/
theorem of_board (h : Heeds c τ) (tasks : c'.tasks = c.tasks) (longer : τ <+: τ')
    (next : c.board.Upholds c'.board)
    (posted : ∀ {t l message}, .posted t l message ∈ τ' → .posted t l message ∈ τ)
    (links : c.links.length ≤ c'.links.length) : Heeds c' τ' where
  truthful := next.truthful
  awaits := by
    intro t k found
    rw [Client.phase?_of_tasks_eq tasks] at found
    obtain ⟨d, message, there, present, crossed⟩ := h.awaits found
    obtain ⟨d', there', place, present'⟩ := next.kept there
    exact ⟨d', message, there', present' present, place ▸ longer.subset crossed⟩
  posted := by
    intro t l message member
    obtain ⟨inside, p, found, far⟩ := h.posted (posted member)
    exact ⟨Nat.lt_of_lt_of_le inside links, p, (Client.phase?_of_tasks_eq tasks t).trans found, far⟩

end Heeds

theorem Sent.heeds (sent : Sent task link job ask c out c') (h : Heeds c τ)
    (inside : link < c.board.exchanges.length)
    (posted : ∀ {t l message}, .posted t l message ∈ τ ++ out.map (fun o => .posted task o.1 o.2) →
      l < c'.links.length ∧ c'.Reached t 3) :
    Heeds c' (τ ++ out.map fun o => .posted task o.1 o.2) := by
  have registers := h.truthful.register link ask.method ask.params
  cases sent with
  | refused closed =>
      exact h.of_setPhase c rfl (List.prefix_append τ _) h.truthful.upholds_refl (by simp) posted
  | @withdrawn request call board e registered because =>
      have next := (h.truthful.withdraw inside registered).1
      exact h.of_setPhase { c with board := (board.forget link request.id).2 } rfl
        (List.prefix_append τ _) next (by simp) posted
  | @posted request call board registered fits taken =>
      obtain ⟨-, rfl, calls, -⟩ := Switchboard.of_registered registered
      rw [registered] at registers
      refine h.of_setPhase _ rfl (List.prefix_append τ _) registers ?_ posted
      rintro k ⟨⟩
      refine ⟨{ exchange := link, id := request.id }, _, ?_, by simp,
        List.mem_append_right τ List.mem_cons_self⟩
      show board.calls[_]? = _
      rw [calls]
      exact List.getElem?_concat_length

/-- Whoever posted a request has done so over a connection that there is, and goes on. -/
theorem Move.posters (move : Move task c out c') (linked : Linked c) (h : Heeds c τ)
    {t l : Nat} {message : Json}
    (member : .posted t l message ∈ τ ++ out.map fun o => .posted task o.1 o.2) :
    l < c'.links.length ∧ c'.Reached t 3 := by
  have posts := move.posts linked
  rcases List.mem_append.mp member with before | now
  · obtain ⟨inside, p, found, far⟩ := h.posted before
    obtain ⟨old, new, goes⟩ := move.goes
    obtain ⟨q, there, onward⟩ := goes.onward found
    exact ⟨Nat.lt_of_lt_of_le inside posts.links_le, q, there, Nat.le_trans far onward.rank_le⟩
  · obtain ⟨o, there, same⟩ := List.mem_map.mp now
    cases same
    exact ⟨posts.inside o there, ((move.stride linked).posts now).2⟩

theorem Move.heeds (move : Move task c out c') (linked : Linked c) (h : Heeds c τ) :
    Heeds c' (τ ++ out.map fun o => .posted task o.1 o.2) := by
  have posted : ∀ {t l message},
      .posted t l message ∈ τ ++ out.map (fun o => .posted task o.1 o.2) →
      l < c'.links.length ∧ c'.Reached t 3 := fun member => move.posters linked h member
  have longer := List.prefix_append τ (out.map fun o => Crossing.posted task o.1 o.2)
  have same := h.truthful.upholds_refl
  have isInside : ∀ {link}, c.live? = some link → link < c.board.exchanges.length :=
    fun live => linked.connections.aligned ▸ linked.lt_of_live live
  cases move with
  | refuse found unread => exact h.of_setPhase c rfl longer same (by simp) posted
  | queue found held => exact h.of_setPhase _ rfl longer same (by simp) posted
  | send found asks live sent => exact sent.heeds h (isInside live) posted
  | @sendLocked job phase lock ask link out c' found asks grants live sent =>
      have h' : Heeds { c with lock := lock.release } τ := ⟨h.truthful, h.awaits, h.posted⟩
      exact sent.heeds h' (isInside live) posted
  | dial found asks grants dead => exact h.of_setPhase _ rfl longer same (by simp) posted
  | fail found asks => exact h.of_setPhase _ rfl longer same (by simp) posted
  | connect found asks sent =>
      refine sent.heeds (h.of_board rfl List.prefix_rfl h.truthful.openExchange id ?_) ?_ posted
      · simp
      · simp [Switchboard.openExchange, linked.connections.aligned]
  | @disconnect job phase lock found asks grants =>
      have ended : c.board.Upholds c.giveUp.board := by
        cases current : c.current with
        | none =>
            rw [Client.giveUp_of_none current]
            exact same
        | some link =>
            rw [Client.giveUp_of_some current]
            exact h.truthful.abort link disconnectReason
      exact h.of_setPhase { c.giveUp with lock := lock.release } c.giveUp_tasks longer ended
        (by simp) posted
  | @answer job call result board found told =>
      have polled := h.truthful.poll call
      rw [told] at polled
      exact h.of_setPhase { c with board } rfl longer polled (by simp) posted
  | expire found waits limited limit =>
      exact h.of_setPhase (c.letGo task) (c.letGo_tasks task) longer
        (Client.letGo_upholds h.truthful task) (by simp) posted

/-! ### Rejections -/

/-- Who is not done with connecting posted nothing. -/
theorem Heeds.unposted (h : Heeds c τ) {p : Phase} (found : c.phase? task = some p)
    (early : p.rank < 3) (l : Nat) (message : Json) : .posted task l message ∉ τ := by
  intro member
  obtain ⟨-, q, there, far⟩ := h.posted member
  obtain rfl := Option.some.inj (found.symm.trans there)
  omega

/-- The phase to which a task was brought. -/
theorem ended_of_setPhase {a : Client} {phase other : Phase}
    (found : (a.setPhase task phase).phase? task = some other) : phase = other := by
  rw [Client.setPhase_phase?, if_pos rfl, Option.map_eq_some_iff] at found
  exact found.choose_spec.2

/-- A call that was sent and is told of a closed channel at once was refused by the host's side. -/
theorem Sent.rejection (sent : Sent task link job ask c out c') (truthful : c.board.Truthful)
    (inside : link < c.board.exchanges.length) (live : c.live? = some link)
    (unposted : ∀ l message, .posted task l message ∉ τ)
    (ended : c'.phase? task = some (.done (job.conclude (.error (.channelClosed reason))))) :
    Rejection c' (τ ++ out.map fun o => .posted task o.1 o.2) task reason := by
  obtain ⟨current, opened⟩ := Client.live?_eq_some_iff.mp live
  cases sent with
  | refused closed =>
      rw [opened] at closed
      cases closed
  | @withdrawn request call board e registered because =>
      have failed := Job.result_of_conclude (Phase.done.inj (ended_of_setPhase ended))
      cases failed
      obtain ⟨-, calls⟩ := truthful.withdraw inside registered
      have closings := c.board.register_closed link link ask.method ask.params
      rw [registered] at closings
      rcases because with ⟨other, -⟩ | ⟨text, shut⟩
      · cases other
      · cases text
        have last : (board.forget link request.id).2.calls.getLast? =
            some { exchange := link, id := request.id, status := .orphaned } := by
          rw [calls, List.getLast?_concat]
        have still : ((board.forget link request.id).2.exchange link).closed = none := by
          rw [(board.shrinks_forget link request.id).closed_eq]
          exact closings.trans opened
        exact .refused (by simpa using unposted) last rfl
          (Client.live?_eq_some_iff.mpr ⟨current, still⟩) shut
  | posted registered fits taken => cases ended_of_setPhase ended

/-- A move by which a task is told of a closed channel. -/
theorem Move.rejection (move : Move task c out c') (linked : Linked c) (h : Heeds c τ) {t : Task}
    (before : c.tasks[task]? = some t) (asks : t.job.ask? = some ask)
    (ended : c'.phase? task = some (.done (t.job.conclude (.error (.channelClosed reason))))) :
    Rejection c' (τ ++ out.map fun o => .posted task o.1 o.2) task reason := by
  have isInside : ∀ {link}, c.live? = some link → link < c.board.exchanges.length :=
    fun live => linked.connections.aligned ▸ linked.lt_of_live live
  have silent : ∀ {job phase}, c.tasks[task]? = some { job, phase } → phase.rank < 3 →
      ∀ l message, .posted task l message ∉ τ := fun found early =>
    h.unposted (Client.phase?_of_found found) early
  cases move with
  | @refuse message e found unread =>
      cases before.symm.trans found
      simp [Job.ask?, unread, Except.toOption] at asks
  | queue found held => cases ended_of_setPhase ended
  | send found asks' live sent =>
      cases before.symm.trans found
      exact sent.rejection h.truthful (isInside live) live (silent found (by simp)) ended
  | sendLocked found asks' grants live sent =>
      cases before.symm.trans found
      exact sent.rejection h.truthful (isInside live) live
        (silent found (Nat.lt_succ_of_lt grants.rank_lt)) ended
  | dial found asks' grants dead => cases ended_of_setPhase ended
  | fail found asks' =>
      refine .unconnected ?_ rfl
      simpa using silent found (by simp)
  | connect found asks' sent =>
      cases before.symm.trans found
      have opened : (c.board.openExchange.exchange c.links.length).closed = none := by
        rw [Switchboard.exchange_openExchange, if_pos linked.connections.aligned.symm]
      refine sent.rejection h.truthful.openExchange.truthful ?_ ?_ (silent found (by simp)) ended
      · simp [Switchboard.openExchange, linked.connections.aligned]
      · exact Client.live?_eq_some_iff.mpr ⟨rfl, opened⟩
  | disconnect found asks' grants =>
      cases before.symm.trans found
      cases asks'.symm.trans asks
  | @answer job call result board found told =>
      cases before.symm.trans found
      have failed := Job.result_of_conclude (Phase.done.inj (ended_of_setPhase ended))
      rw [failed] at told
      obtain ⟨d, there, outcome⟩ := outcome_of_poll told
      obtain ⟨d', message, there', present, posted⟩ := h.awaits (Client.phase?_of_found found)
      obtain rfl := Option.some.inj (there.symm.trans there')
      have rejected := (rejected_of_outcome outcome).resolve_right present
      refine .ended (List.mem_append_left _ posted) ?_
      have closings := (c.board.shrinks_poll call).closed_eq d.exchange
      rw [told] at closings
      exact closings.trans (h.truthful.told there rejected)
  | @expire t' ns found waits limited limit =>
      cases before.symm.trans found
      have same := Phase.done.inj (ended_of_setPhase ended)
      cases job : t.job with
      | call method params isLimited =>
          rw [job] at same
          cases same
      | relay message =>
          rw [job] at same
          cases same
      | disconnect =>
          rw [job] at asks
          cases asks

/-! ### Events -/

theorem Client.takeEvents_upholds {b : Switchboard} (h : b.Upholds c.board) (link : Nat)
    (gone : Bool) (events : List PortEvent) : b.Upholds (c.takeEvents link gone events).board := by
  have dispatched := h.trans (h.truthful.dispatchAll link ((messages events).map .message))
  rw [takeEvents_eq]
  cases ending gone events with
  | none => exact dispatched
  | some reason => exact dispatched.trans (dispatched.truthful.abort link reason)

namespace Heeds

theorem attend (h : Heeds c τ) (link : Nat) (most : Option Nat) :
    Heeds (c.attend link most) (τ ++ c.receipts link most) := by
  have quiet := quiet_attend c link most
  refine h.of_board quiet.tasks (List.prefix_append τ _) ?_ (fun member => ?_)
    (Nat.le_of_eq quiet.links_length.symm)
  · unfold Client.attend
    split
    · exact h.truthful.upholds_refl
    · split
      · apply Client.takeEvents_upholds
        exact h.truthful.upholds_refl
      · exact h.truthful.upholds_refl
  · exact (List.mem_append.mp member).resolve_right Client.posted_not_mem_receipts

theorem happen (h : Heeds c τ) (linked : Linked c) (e : Event) :
    Heeds (c.happen e) (τ ++ c.crossings e) := by
  cases e with
  | step task dial timeUp =>
      exact Client.step_keeps_posts (P := Heeds) (fun linked heeds move => move.heeds linked heeds)
        linked h dial timeUp
  | attend link most => exact h.attend link most
  | spawn job =>
      rw [Client.crossings, List.append_nil]
      refine ⟨h.truthful, fun found => ?_, fun member => ?_⟩
      · exact h.awaits (((c.spawn_phase? job).mp found).resolve_right (by simp))
      · obtain ⟨inside, p, found, far⟩ := h.posted member
        exact ⟨inside, p, (c.spawn_phase? job).mpr (.inl found), far⟩
  | cancel task =>
      rw [Client.crossings, List.append_nil]
      show Heeds (c.cancel task) τ
      have posted : ∀ {t l message}, .posted t l message ∈ τ →
          l < (c.cancel task).links.length ∧ (c.cancel task).Reached t 3 := by
        intro t l message member
        obtain ⟨inside, p, found, far⟩ := h.posted member
        obtain ⟨q, there, onward⟩ := Client.happen_onward found (.cancel task)
        refine ⟨?_, q, there, Nat.le_trans far onward.rank_le⟩
        exact Nat.lt_of_lt_of_le inside (Client.happen_turn linked (.cancel task)).links_le
      unfold Client.cancel at posted ⊢
      split
      · exact h
      · rename_i waits
        simp only [waits] at posted
        exact h.of_setPhase (c.letGo task) (c.letGo_tasks task) List.prefix_rfl
          (Client.letGo_upholds h.truthful task) (by simp) posted
  | peer link act =>
      rw [Client.crossings, List.append_nil]
      have quiet := quiet_onPort c link (fun p => ((), act.apply p)) ()
      refine h.of_board quiet.tasks List.prefix_rfl ?_ id (Nat.le_of_eq quiet.links_length.symm)
      rw [Client.happen, Client.onPort_board]
      exact h.truthful.upholds_refl
  | configure settings =>
      rw [Client.crossings, List.append_nil]
      exact h.of_board rfl List.prefix_rfl h.truthful.upholds_refl id (Nat.le_refl _)

theorem run (h : Heeds c τ) (linked : Linked c) (es : List Event) :
    Heeds (c.run es) (τ ++ c.traffic es) := by
  induction es generalizing c τ with
  | nil =>
      rw [Client.traffic, List.append_nil]
      exact h
  | cons e es ih =>
      have rest := ih (h.happen linked e) (linked.happen e)
      rwa [List.append_assoc] at rest

end Heeds

theorem heeds_fresh (config : Config) (settings : Settings) :
    Heeds (Client.fresh config settings) [] where
  truthful := Switchboard.truthful_empty
  awaits := by simp [Client.phase?, Client.fresh]
  posted := by simp

/-- A step by which a task is told of a closed channel. -/
theorem Client.step_rejection (linked : Linked c) (h : Heeds c τ) {t : Task}
    (before : c.tasks[task]? = some t) (waits : t.isOver = false) (asks : t.job.ask? = some ask)
    {dial : Dial} {timeUp : Bool} (ended : (c.step task dial timeUp).phase? task =
      some (.done (t.job.conclude (.error (.channelClosed reason))))) :
    Rejection (c.step task dial timeUp) (τ ++ c.posts task (c.step task dial timeUp)) task
      reason := by
  refine (Client.step_keeps_posts (P := fun a σ => Heeds a σ ∧
      a.tasks.map Task.job = c.tasks.map Task.job ∧
      (a.phase? task = some (.done (t.job.conclude (.error (.channelClosed reason)))) →
        Rejection a σ task reason)) ?keeps linked ⟨h, rfl, ?begins⟩ dial timeUp).2.2 ended
  case keeps =>
    rintro a out b σ linked ⟨heeds, jobs, -⟩ move
    refine ⟨move.heeds linked heeds, move.jobs.trans jobs, fun ended => ?_⟩
    have entry : a.tasks[task]?.map Task.job = some t.job := by
      rw [← List.getElem?_map, jobs, List.getElem?_map, before]
      rfl
    obtain ⟨u, there, same⟩ := Option.map_eq_some_iff.mp entry
    rw [← same] at asks ended
    exact move.rejection linked heeds there asks ended
  case begins =>
    intro already
    rw [phase?_of_found before] at already
    have finished := Option.some.inj already
    simp [Task.isOver, finished] at waits

/-- Only a step of a task brings it to an end with an outcome. -/
theorem Client.eq_step_of_done {t : Task} {outcome : Outcome} {e : Event}
    (before : c.tasks[task]? = some t) (waits : t.isOver = false)
    (ended : (c.happen e).phase? task = some (.done outcome)) :
    ∃ dial timeUp, e = .step task dial timeUp := by
  have first := phase?_of_found before
  have early : t.phase ≠ .done outcome := by
    intro finished
    simp [Task.isOver, finished] at waits
  rcases c.happen_cases e with ⟨other, dial, timeUp, rfl⟩ | quietly
  · by_cases same : other = task
    · exact ⟨dial, timeUp, same ▸ rfl⟩
    · have still : (c.step other dial timeUp).phase? task = c.phase? task := by
        refine step_keeps (P := fun a => a.phase? task = c.phase? task) ?_ rfl dial timeUp
        intro a out b kept move
        obtain ⟨old, new, goes⟩ := move.goes
        exact (goes.elsewhere (Ne.symm same)).trans kept
      exact absurd (Option.some.inj (first.symm.trans (still.symm.trans ended))) early
  · generalize c.happen e = b at quietly ended
    cases quietly with
    | spawned job =>
        rcases (c.spawn_phase? job).mp ended with before | ⟨-, fresh⟩
        · exact absurd (Option.some.inj (first.symm.trans before)) early
        · cases fresh
    | @cancelled other u found waits' =>
        by_cases same : task = other
        · subst same
          cases ended_of_setPhase ended
        · have goes : Goes c other u.phase .cancelled ((c.letGo other).setPhase other .cancelled) :=
            letGo_goes found waits' rfl
          rw [goes.elsewhere same, first] at ended
          exact absurd (Option.some.inj ended) early
    | quiet quiet =>
        rw [phase?_of_tasks_eq quiet.tasks, first] at ended
        exact absurd (Option.some.inj ended) early

/-! ### The next call -/

/-- The task of a call that gets its turn asks the connector. -/
def Client.Dials (c : Client) : Prop :=
  ∀ {task : Nat} {job : Job} {phase : Phase} {lock : FairLock} {ask : Relay.Ask} (dial : Dial)
    (timeUp : Bool), c.tasks[task]? = some { job, phase } → job.ask? = some ask →
    Grants c task phase lock →
    (c.step task dial timeUp).dialled = c.dialled ++ [c.config.hostName c.settings]

/-- A connection is done with: calls use a later one, or ask the connector while there is none. -/
structure Client.Left (c : Client) (link : Nat) : Prop where
  next : ∀ later, (∃ l, (c.run later).live? = some l ∧ link < l) ∨
    (c.run later).live? = none ∧ (c.run later).Dials
  posts : ∀ {later t l message}, .posted t l message ∈ c.traffic later → link < l

theorem Client.dials_of_dead (dead : c.live? = none) : c.Dials :=
  fun dial timeUp found asks grants => step_dialled found asks grants dead dial timeUp

/-- The current connection is the last one. -/
def Client.Newest (c : Client) : Prop := ∀ link, c.current = some link → link + 1 = c.links.length

/-- The current connection is a later one. -/
structure Client.Past (c : Client) (link : Nat) : Prop where
  inside : link < c.links.length
  current : ∀ l, c.current = some l → link < l

namespace Turn

variable {σ : List Crossing}

theorem newest (turn : Turn c σ c') (h : c.Newest) : c'.Newest := by
  intro link current
  rcases turn.links with ⟨length, same | lost⟩ | ⟨length, further⟩
  · rw [length]
    exact h link (same ▸ current)
  · rw [lost] at current
    cases current
  · rw [further] at current
    rw [length, Option.some.inj current]

theorem past (turn : Turn c σ c') (h : c.Past link) : c'.Past link where
  inside := Nat.lt_of_lt_of_le h.inside turn.links_le
  current l current := by
    rcases turn.links with ⟨-, same | lost⟩ | ⟨-, further⟩
    · exact h.current l (same ▸ current)
    · rw [lost] at current
      cases current
    · rw [further] at current
      exact Option.some.inj current ▸ h.inside

end Turn

namespace Client

theorem run_newest (linked : Linked c) (h : c.Newest) (es : List Event) : (c.run es).Newest := by
  induction es generalizing c with
  | nil => exact h
  | cons e es ih => exact ih (linked.happen e) ((happen_turn linked e).newest h)

theorem run_past (linked : Linked c) (h : c.Past link) (es : List Event) :
    (c.run es).Past link ∧ ∀ {t l message}, .posted t l message ∈ c.traffic es → link < l := by
  induction es generalizing c with
  | nil => exact ⟨h, fun member => nomatch member⟩
  | cons e es ih =>
      have turn := happen_turn linked e
      obtain ⟨past, later⟩ := ih (linked.happen e) (turn.past h)
      refine ⟨past, fun member => ?_⟩
      rcases List.mem_append.mp member with now | then_
      · exact (turn.past h).current _ (turn.posts now)
      · exact later then_

/-- A connection that has ended is done with. -/
theorem left_of_closed (linked : Linked c) (newest : c.Newest) (inside : link < c.links.length)
    (closed : (c.board.exchange link).closed = some reason) : c.Left link := by
  have past : c.Past link := by
    refine ⟨inside, fun l current => ?_⟩
    have last := newest l current
    have other : link ≠ l := by
      rintro rfl
      rw [(linked.connections.current_open current).2] at closed
      cases closed
    omega
  refine ⟨fun later => ?_, fun member => (run_past linked past _).2 member⟩
  cases live : (c.run later).live? with
  | none => exact .inr ⟨rfl, dials_of_dead live⟩
  | some l =>
      refine .inl ⟨l, rfl, (run_past linked past later).1.current l ?_⟩
      exact (live?_eq_some_iff.mp live).1

theorem not_left_of_live (live : c.live? = some link) : ¬ c.Left link := by
  intro left
  rcases left.next [] with ⟨l, live', later⟩ | ⟨dead, -⟩
  · cases live.symm.trans live'
    exact Nat.lt_irrefl _ later
  · cases live.symm.trans dead

end Client

/-- A call that is told of a closed channel has had its request posted over a connection that has
ended for this reason and is done with, or there is no connection and the connector said so, or the
host's side of the connection took no message. In this last case the connection stays the one that
calls use. -/
theorem closed_calls_leave_their_connection (config : Config) (settings : Settings)
    (es : List Event) (e : Event) {t : Task}
    (before : ((Client.fresh config settings).run es).tasks[task]? = some t)
    (waits : t.isOver = false) (asks : t.job.ask? = some ask)
    (ended : ((Client.fresh config settings).run (es ++ [e])).phase? task =
      some (.done (t.job.conclude (.error (.channelClosed reason))))) :
    let c := (Client.fresh config settings).run (es ++ [e])
    let τ := (Client.fresh config settings).traffic (es ++ [e])
    (∃ link message, .posted task link message ∈ τ ∧
      (c.board.exchange link).closed = some reason ∧ c.Left link) ∨
    (∀ link message, .posted task link message ∉ τ) ∧
      (c.live? = none ∧ c.Dials ∨
        ∃ link id, c.board.calls.getLast? = some { exchange := link, id, status := .orphaned } ∧
          reason = "native port is disconnected" ∧ (c.port link).outgoing.shut = true ∧
          c.live? = some link ∧ ¬ c.Left link) := by
  have fresh := linked_fresh config settings
  have linked := fresh.run es
  have heeds := (heeds_fresh config settings).run fresh es
  have linked' := fresh.run (es ++ [e])
  have heeds' := (heeds_fresh config settings).run fresh (es ++ [e])
  have newest : ((Client.fresh config settings).run (es ++ [e])).Newest :=
    Client.run_newest fresh (by simp [Client.Newest, Client.fresh]) _
  rw [List.nil_append] at heeds heeds'
  rw [Client.run_append] at ended linked' heeds' newest ⊢
  rw [Client.traffic_append] at heeds' ⊢
  obtain ⟨dial, timeUp, rfl⟩ := Client.eq_step_of_done before waits ended
  have rejection : Rejection (((Client.fresh config settings).run es).run [.step task dial timeUp])
      ((Client.fresh config settings).traffic es ++
        ((Client.fresh config settings).run es).traffic [.step task dial timeUp]) task reason := by
    rw [Client.traffic, Client.traffic, List.append_nil]
    exact Client.step_rejection linked heeds before waits asks ended
  intro c τ
  cases rejection with
  | @ended link message posted closed =>
      have inside := (heeds'.posted posted).1
      exact .inl ⟨link, message, posted, closed, Client.left_of_closed linked' newest inside closed⟩
  | unconnected unposted none =>
      have dead : c.live? = .none := by
        unfold Client.live?
        rw [none]
        rfl
      exact .inr ⟨unposted, .inl ⟨dead, Client.dials_of_dead dead⟩⟩
  | @refused link id unposted withdrawn text live shut =>
      exact .inr ⟨unposted, .inr ⟨link, id, withdrawn, text, shut, live,
        Client.not_left_of_live live⟩⟩

/-- A call is posted, and its connection ends before there is a response. -/
def cutOff : List Event :=
  let dial : Dial := fun _ => some (.ok .untouched)
  [.spawn (.call "status" .null false), .step 0 dial false, .peer 0 (.disconnect "host exited"),
    .attend 0 none]

/-- The call is rejected, and its connection is done with. -/
theorem cut_off_call_leaves_its_connection :
    ((Client.fresh {} (.stored {})).run cutOff).tasks[0]? =
        some { job := .call "status" .null false, phase := .awaiting 0 } ∧
      ((Client.fresh {} (.stored {})).run (cutOff ++ [.step 0 (fun _ => none) false])).phase? 0 =
        some (.done (.response (.error (.channelClosed "host exited")))) ∧
      ∃ link message, .posted 0 link message ∈
          (Client.fresh {} (.stored {})).traffic (cutOff ++ [.step 0 (fun _ => none) false]) ∧
        ((Client.fresh {} (.stored {})).run (cutOff ++ [.step 0 (fun _ => none) false])).Left
          link := by
  have before : ((Client.fresh {} (.stored {})).run cutOff).tasks[0]? =
      some { job := .call "status" .null false, phase := .awaiting 0 } := rfl
  have ended : ((Client.fresh {} (.stored {})).run
      (cutOff ++ [.step 0 (fun _ => none) false])).phase? 0 =
        some (.done (.response (.error (.channelClosed "host exited")))) := rfl
  refine ⟨before, ended, ?_⟩
  rcases closed_calls_leave_their_connection {} (.stored {}) cutOff _ before rfl rfl ended with
    ⟨link, message, posted, -, left⟩ | ⟨unposted, -⟩
  · exact ⟨link, message, posted, left⟩
  · let request : Request := { id := 1, method := "status", params := .null }
    have sent : ((Client.fresh {} (.stored {})).traffic
        (cutOff ++ [.step 0 (fun _ => none) false])).head? =
          some (.posted 0 0 request.toJson.sorted) := rfl
    exact (unposted 0 request.toJson.sorted (List.mem_of_head? sent)).elim

/-- A call waits, the host's side takes no more messages, and there is another call. -/
def deafened : List Event :=
  let dial : Dial := fun _ => some (.ok .untouched)
  [.spawn (.call "status" .null false), .step 0 dial false, .peer 0 .close,
    .spawn (.call "status" .null false), .step 1 dial false]

/-- There is one more call. -/
def repeated : List Event :=
  [.spawn (.call "status" .null false), .step 2 (fun _ => some (.ok .untouched)) false]

/-- The second call is told of a closed channel, and so is the third: the connection is still the
one that calls use, and the connector was asked only once. -/
theorem deaf_connection_is_kept :
    ((Client.fresh {} (.stored {})).run deafened).phase? 1 =
        some (.done (.response (.error (.channelClosed "native port is disconnected")))) ∧
      ((Client.fresh {} (.stored {})).run deafened).live? = some 0 ∧
      ¬ ((Client.fresh {} (.stored {})).run deafened).Left 0 ∧
      ((Client.fresh {} (.stored {})).run (deafened ++ repeated)).phase? 2 =
        some (.done (.response (.error (.channelClosed "native port is disconnected")))) ∧
      ((Client.fresh {} (.stored {})).run (deafened ++ repeated)).live? = some 0 ∧
      ((Client.fresh {} (.stored {})).run (deafened ++ repeated)).dialled.length = 1 := by
  have live : ((Client.fresh {} (.stored {})).run deafened).live? = some 0 := rfl
  exact ⟨rfl, live, Client.not_left_of_live live, rfl, rfl, rfl⟩

end Native

end RpcLink
