import RpcLink.Proofs.Native.Accounts

/-!
Which response ends which call. Whatever happens to a client, a call that ends with a response ends
with the first one that was taken, behind its request, from the port to which the request was
posted, and no response ends two calls.
-/

namespace RpcLink.Native

/-- A task posted a request to which this is the first response. -/
def Answered (τ : List Crossing) (task : Nat) (r : Response) : Prop :=
  ∃ p q link id, PostedAt τ p task link id ∧ FirstAnswer τ p q link id r

/-- How a task may have ended, given the traffic. -/
inductive Concluded (τ : List Crossing) (task : Nat) (job : Job) : Outcome → Prop where
  /-- Its call has a result, and if that is a response it answers the request of the task. -/
  | result {result : Except Failure Response} (source : ∀ r, result = .ok r → Answered τ task r) :
      Concluded τ task job (job.conclude result)
  | disconnected : Concluded τ task job .disconnected
  /-- Its message asks for no call. -/
  | refused {message : Json} {e : Json.DecodeError} (asks : job = .relay message)
      (unread : Relay.Ask.decode message = .error e) :
      Concluded τ task job (.reply (Relay.Reply.refused e).toJson.sorted)

/-- A task that waits posted the request of its call; one that ended did so as the traffic tells. -/
def Stands (b : Switchboard) (τ : List Crossing) (task : Nat) (t : Task) : Prop :=
  match t.phase with
  | .awaiting call => ∃ c p, b.calls[call]? = some c ∧ c.status ≠ .orphaned ∧
      PostedAt τ p task c.exchange c.id
  | .done outcome => Concluded τ task t.job outcome
  | _ => True

/-- The calls and the tasks of a client stand as the traffic tells. -/
structure Routed (c : Client) (τ : List Crossing) : Prop where
  accounted : Accounted c.board τ
  stands : ∀ {task t}, c.tasks[task]? = some t → Stands c.board τ task t

/-! ### Traffic that goes on -/

theorem Answered.append {τ σ : List Crossing} {task : Nat} {r : Response}
    (answered : Answered τ task r) : Answered (τ ++ σ) task r := by
  obtain ⟨p, q, link, id, posted, answers⟩ := answered
  exact ⟨p, q, link, id, posted.append, answers.append⟩

theorem Stands.extend {b b' : Switchboard} {τ τ' : List Crossing} {task : Nat} {t : Task}
    (stands : Stands b τ task t) (longer : τ <+: τ') (extends_ : Extends b b') :
    Stands b' τ' task t := by
  obtain ⟨σ, rfl⟩ := longer
  obtain ⟨job, phase⟩ := t
  cases phase with
  | awaiting call =>
      obtain ⟨c, p, found, present, posted⟩ := stands
      obtain ⟨d, found', place, number, kept⟩ := extends_ found
      refine ⟨d, p, found', kept present, ?_⟩
      rw [place, number]
      exact posted.append
  | done outcome =>
      show Concluded (τ ++ σ) task job outcome
      have concluded : Concluded τ task job outcome := stands
      cases concluded with
      | result source => exact .result fun r same => (source r same).append
      | disconnected => exact .disconnected
      | refused asks unread => exact .refused asks unread
  | fresh => trivial
  | queued => trivial
  | opening host => trivial
  | cancelled => trivial

namespace Routed

variable {c c' : Client} {τ τ' : List Crossing} {task : Nat}

/-- What changes the switchboard and no task. -/
theorem of_board (h : Routed c τ) (tasks : c'.tasks = c.tasks) (longer : τ <+: τ')
    (next : Accounted c'.board τ' ∧ Extends c.board c'.board) : Routed c' τ' := by
  refine ⟨next.1, fun {t k} found => ?_⟩
  rw [tasks] at found
  exact (h.stands found).extend longer next.2

/-- What changes the switchboard and then the phase of one task. -/
theorem of_setPhase {phase : Phase} (h : Routed c τ) (a : Client) (tasks : a.tasks = c.tasks)
    (longer : τ <+: τ') (next : Accounted a.board τ' ∧ Extends c.board a.board)
    (stands : ∀ t, c.tasks[task]? = some t → Stands a.board τ' task { t with phase }) :
    Routed (a.setPhase task phase) τ' := by
  refine ⟨next.1, fun {t k} found => ?_⟩
  rw [Client.setPhase_getElem?, tasks, Option.map_eq_some_iff] at found
  obtain ⟨u, found, shape⟩ := found
  split at shape
  · rename_i same
    subst same
    rw [← shape]
    exact stands u found
  · rw [← shape]
    exact (h.stands found).extend longer next.2

/-- A task ends whose call has a result that is no response. -/
theorem of_finish {job : Job} {phase : Phase} {e : Failure} (h : Routed c τ) (a : Client)
    (tasks : a.tasks = c.tasks) (next : Accounted a.board τ ∧ Extends c.board a.board)
    (found : c.tasks[task]? = some { job, phase }) :
    Routed (a.finish task job (.error e)) τ := by
  refine h.of_setPhase a tasks List.prefix_rfl next fun t found' => ?_
  rw [found] at found'
  cases found'
  exact Concluded.result fun r failed => by cases failed

end Routed

/-! ### Moves -/

theorem Sent.routed {c c' : Client} {τ : List Crossing} {task link : Nat} {job : Job}
    {phase : Phase} {ask : Relay.Ask} {out : List (Nat × Json)}
    (sent : Sent task link job ask c out c') (h : Routed c τ)
    (few : c'.board.calls.length < 2 ^ 64) (there : (c.board.exchange link).dropped = false)
    (found : c.tasks[task]? = some { job, phase }) :
    Routed c' (τ ++ out.map fun o => .posted task o.1 o.2) := by
  cases sent with
  | refused closed =>
      rw [List.map_nil, List.append_nil]
      exact h.of_finish c rfl h.accounted.unchanged found
  | @withdrawn request call board e registered reason =>
      rw [List.map_nil, List.append_nil]
      obtain ⟨-, -, -, calls⟩ := registered_eq (h.accounted.consistent.shared link) registered
      have count : board.calls.length = c.board.calls.length + 1 := by simp [calls]
      have kept := (board.shrinks_forget link request.id).calls_length_eq
      have few' : c.board.calls.length + 1 < 2 ^ 64 := by
        rw [← count, ← kept]
        exact few
      exact h.of_finish { c with board := (board.forget link request.id).2 } rfl
        (h.accounted.withdraw few' there registered) found
  | @posted request call board registered fits taken =>
      obtain ⟨-, -, -, calls⟩ := registered_eq (h.accounted.consistent.shared link) registered
      have count : board.calls.length = c.board.calls.length + 1 := by simp [calls]
      have few' : c.board.calls.length + 1 < 2 ^ 64 := by
        rw [← count]
        exact few
      obtain ⟨accounted, extends_, call_, posted⟩ :=
        h.accounted.post task few' there registered
      refine h.of_setPhase _ rfl (List.prefix_append τ _) ⟨accounted, extends_⟩ fun t _ => ?_
      exact ⟨_, τ.length, call_, by simp, posted⟩

/-- Whoever is told how a call ended is told of its outcome. -/
theorem outcome_of_poll {b board : Switchboard} {call : Nat} {result : Except Failure Response}
    (told : b.poll call = (.done result, board)) :
    ∃ c, b.calls[call]? = some c ∧ c.outcome = some result := by
  unfold Switchboard.poll at told
  split at told
  · cases told
  · rename_i c awaited
    refine ⟨c, (Option.filter_eq_some_iff.mp awaited).1, ?_⟩
    split at told
    · cases told
    · rename_i outcome
      obtain ⟨same, -⟩ := Prod.mk.inj told
      rw [outcome, Switchboard.Standing.done.inj same]

theorem answered_of_outcome {c : Call} {r : Response} (told : c.outcome = some (.ok r)) :
    c.status = .answered r := by
  unfold Call.outcome at told
  cases status : c.status <;> simp_all

namespace Routed

variable {c : Client} {τ : List Crossing} {task : Nat}

/-- A task is told of the first response to the request that it posted itself. -/
theorem answered_of_poll (h : Routed c τ) {job : Job} {call : Nat} {r : Response}
    {board : Switchboard} (found : c.tasks[task]? = some { job, phase := .awaiting call })
    (told : c.board.poll call = (.done (.ok r), board)) : Answered τ task r := by
  obtain ⟨d, p, there, present, posted⟩ := h.stands found
  obtain ⟨e, there', outcome⟩ := outcome_of_poll told
  obtain rfl := Option.some.inj (there.symm.trans there')
  obtain ⟨p', task', posted', -, answers⟩ := h.accounted.followed there present
  obtain ⟨q, first⟩ := answers r (answered_of_outcome outcome)
  obtain ⟨rfl, -, -⟩ := h.accounted.eq_of_posted posted posted'
  exact ⟨p, q, d.exchange, d.id, posted, first⟩

theorem letGo {phase : Phase} (h : Routed c τ)
    (stands : ∀ b t, c.tasks[task]? = some t → Stands b τ task { t with phase }) :
    Routed ((c.letGo task).setPhase task phase) τ := by
  have next : Accounted (c.letGo task).board τ ∧ Extends c.board (c.letGo task).board := by
    rcases c.letGo_board task with same | ⟨call, settled⟩
    · exact same ▸ h.accounted.unchanged
    · exact settled ▸ h.accounted.settle call
  exact h.of_setPhase (c.letGo task) (c.letGo_tasks task) List.prefix_rfl next
    fun t found => stands _ t found

end Routed

theorem Move.routed {c c' : Client} {τ : List Crossing} {task : Nat} {out : List (Nat × Json)}
    (move : Move task c out c') (linked : Linked c) (h : Routed c τ)
    (few : c'.board.calls.length < 2 ^ 64) :
    Routed c' (τ ++ out.map fun o => .posted task o.1 o.2) := by
  have same := h.accounted.unchanged
  have isThere : ∀ {link}, c.live? = some link → (c.board.exchange link).dropped = false :=
    fun live => linked.connections.there (linked.lt_of_live live)
  cases move with
  | refuse found unread =>
      rw [List.map_nil, List.append_nil]
      refine h.of_setPhase c rfl List.prefix_rfl same fun t found' => ?_
      rw [found] at found'
      cases found'
      exact Concluded.refused rfl unread
  | queue found held =>
      rw [List.map_nil, List.append_nil]
      exact h.of_setPhase _ rfl List.prefix_rfl same fun _ _ => trivial
  | send found asks live sent => exact sent.routed h few (isThere live) found
  | @sendLocked job phase lock ask link out c' found asks grants live sent =>
      have h' : Routed { c with lock := lock.release } τ := ⟨h.accounted, h.stands⟩
      exact sent.routed h' few (isThere live) found
  | dial found asks grants dead =>
      rw [List.map_nil, List.append_nil]
      exact h.of_setPhase _ rfl List.prefix_rfl same fun _ _ => trivial
  | fail found asks =>
      rw [List.map_nil, List.append_nil]
      exact h.of_finish _ rfl same found
  | connect found asks sent =>
      have there : (c.board.openExchange.exchange c.links.length).dropped = false := by
        rw [Switchboard.exchange_openExchange, if_pos linked.connections.aligned.symm]
      exact sent.routed (h.of_board rfl List.prefix_rfl h.accounted.openExchange) few there found
  | @disconnect job phase lock found asks grants =>
      rw [List.map_nil, List.append_nil]
      have ended : Accounted c.giveUp.board τ ∧ Extends c.board c.giveUp.board := by
        cases current : c.current with
        | none =>
            rw [Client.giveUp_of_none current]
            exact same
        | some link =>
            rw [Client.giveUp_of_some current]
            refine h.accounted.abort ?_ disconnectReason
            rw [linked.connections.aligned]
            exact (linked.connections.current_open current).1
      exact h.of_setPhase { c.giveUp with lock := lock.release } c.giveUp_tasks List.prefix_rfl
        ended fun _ _ => Concluded.disconnected
  | @answer job call result board found told =>
      rw [List.map_nil, List.append_nil]
      have polled := h.accounted.poll call
      rw [told] at polled
      refine h.of_setPhase { c with board } rfl List.prefix_rfl polled fun t found' => ?_
      rw [found] at found'
      cases found'
      refine Concluded.result fun r answered => ?_
      rw [answered] at told
      exact h.answered_of_poll found told
  | @expire t ns found waits limited limit =>
      rw [List.map_nil, List.append_nil]
      refine h.letGo fun b u found' => ?_
      rw [found] at found'
      cases found'
      obtain ⟨job, phase⟩ := t
      -- Only calls are limited, and they end with their result as it is.
      cases job with
      | call method params isLimited => exact Concluded.result fun r failed => by cases failed
      | relay message => cases limited
      | disconnect => cases limited

/-! ### How many numbers were drawn -/

theorem Sent.calls_length_le {c c' : Client} {task link : Nat} {job : Job} {ask : Relay.Ask}
    {out : List (Nat × Json)} (sent : Sent task link job ask c out c') :
    c.board.calls.length ≤ c'.board.calls.length := by
  have more := c.board.register_calls_length_le link ask.method ask.params
  cases sent with
  | refused closed => exact Nat.le_refl _
  | @withdrawn request call board e registered reason =>
      rw [registered] at more
      exact Nat.le_trans more
        (Nat.le_of_eq (board.shrinks_forget link request.id).calls_length_eq.symm)
  | posted registered fits taken =>
      rw [registered] at more
      exact more

theorem Client.letGo_calls_length (c : Client) (task : Nat) :
    (c.letGo task).board.calls.length = c.board.calls.length := by
  unfold letGo
  split
  · rfl
  · rfl
  · exact (c.board.shrinks_settle _).calls_length_eq
  · rfl

theorem Move.calls_length_le {c c' : Client} {task : Nat} {out : List (Nat × Json)}
    (move : Move task c out c') : c.board.calls.length ≤ c'.board.calls.length := by
  cases move with
  | refuse found unread => exact Nat.le_refl _
  | queue found held => exact Nat.le_refl _
  | send found asks live sent => exact sent.calls_length_le
  | sendLocked found asks grants live sent => exact sent.calls_length_le
  | dial found asks grants dead => exact Nat.le_refl _
  | fail found asks => exact Nat.le_refl _
  | connect found asks sent => exact sent.calls_length_le
  | disconnect found asks grants =>
      show _ ≤ c.giveUp.board.calls.length
      cases current : c.current with
      | none => exact Nat.le_of_eq (by rw [Client.giveUp_of_none current])
      | some link =>
          rw [Client.giveUp_of_some current]
          exact Nat.le_of_eq (c.board.abort_calls_length link disconnectReason).symm
  | @answer job call result board found told =>
      have count := (c.board.shrinks_poll call).calls_length_eq
      rw [told] at count
      exact Nat.le_of_eq count.symm
  | expire found waits limited limit =>
      exact Nat.le_of_eq (c.letGo_calls_length task).symm

theorem Client.takeEvents_calls_length (c : Client) (link : Nat) (ended : Bool)
    (events : List PortEvent) :
    (c.takeEvents link ended events).board.calls.length = c.board.calls.length := by
  induction events generalizing c with
  | nil =>
      unfold takeEvents
      split
      · exact c.board.abort_calls_length link lostReason
      · rfl
  | cons event rest ih =>
      cases event with
      | message v =>
          exact (ih _).trans (c.board.shrinks_dispatch link (.message v)).calls_length_eq
      | disconnected reason => exact c.board.abort_calls_length link reason

theorem Client.onPort_board {α : Type} (c : Client) (link : Nat) (act : Port → α × Port)
    (absent : α) : (c.onPort link act absent).2.board = c.board := by
  unfold onPort
  split
  · rfl
  · split <;> rfl

theorem Client.happen_calls_length_le (c : Client) (e : Event) :
    c.board.calls.length ≤ (c.happen e).board.calls.length := by
  cases e with
  | spawn job => exact Nat.le_refl _
  | step task dial timeUp =>
      exact step_keeps (P := fun a => c.board.calls.length ≤ a.board.calls.length)
        (fun before move => Nat.le_trans before move.calls_length_le) (Nat.le_refl _) dial timeUp
  | cancel task =>
      show _ ≤ (c.cancel task).board.calls.length
      unfold cancel
      split
      · exact Nat.le_refl _
      · exact Nat.le_of_eq (c.letGo_calls_length task).symm
  | attend link most =>
      show _ ≤ (c.attend link most).board.calls.length
      unfold attend
      split
      · exact Nat.le_refl _
      · split
        · apply Nat.le_of_eq
          rw [takeEvents_calls_length]
        · exact Nat.le_refl _
  | peer link act => exact Nat.le_of_eq (by rw [happen, onPort_board])
  | configure settings => exact Nat.le_refl _

theorem Client.run_calls_length_le (c : Client) (es : List Event) :
    c.board.calls.length ≤ (c.run es).board.calls.length := by
  induction es generalizing c with
  | nil => exact Nat.le_refl _
  | cons e es ih => exact Nat.le_trans (c.happen_calls_length_le e) (ih _)

/-! ### Events -/

namespace Routed

variable {c : Client} {τ : List Crossing}

theorem endLink (h : Routed c τ) (linked : Linked c) {link : Nat} (inside : link < c.links.length)
    (reason : String) : Routed (c.endLink link reason) τ := by
  exact h.of_board rfl List.prefix_rfl
    (h.accounted.abort (linked.connections.aligned ▸ inside) reason)

theorem takeEvents (h : Routed c τ) (linked : Linked c) {link : Nat}
    (inside : link < c.links.length) (ended : Bool) (events : List PortEvent) :
    Routed (c.takeEvents link ended events) (τ ++ (messages events).map (.received link)) := by
  induction events generalizing c τ with
  | nil =>
      rw [messages, List.map_nil, List.append_nil]
      unfold Client.takeEvents
      split
      · exact h.endLink linked inside lostReason
      · exact h
  | cons event rest ih =>
      cases event with
      | message v =>
          have next : Routed { c with board := c.board.dispatch link (.message v) }
              (τ ++ [.received link v]) :=
            h.of_board rfl (List.prefix_append τ _) (h.accounted.receive link v)
          have linked' : Linked { c with board := c.board.dispatch link (.message v) } :=
            linked.takeEvents inside false [.message v]
          have := ih next linked' inside
          rwa [List.append_assoc] at this
      | disconnected reason =>
          rw [messages, List.map_nil, List.append_nil]
          exact h.endLink linked inside reason

theorem attend (h : Routed c τ) (linked : Linked c) (link : Nat) (most : Option Nat) :
    Routed (c.attend link most) (τ ++ c.receipts link most) := by
  unfold Client.attend Client.receipts
  cases found : c.links[link]? with
  | none =>
      rw [List.append_nil]
      exact h
  | some l =>
      obtain ⟨inside, -⟩ := List.getElem?_eq_some_iff.mp found
      dsimp only
      split
      · apply takeEvents
        case h => exact ⟨h.accounted, h.stands⟩
        case linked => exact ⟨by simpa using linked.connections, linked.opening⟩
        case inside => simpa using inside
      · rw [List.append_nil]
        exact h

theorem happen (h : Routed c τ) (linked : Linked c) (e : Event)
    (few : (c.happen e).board.calls.length < 2 ^ 64) :
    Routed (c.happen e) (τ ++ c.crossings e) := by
  cases e with
  | step task dial timeUp =>
      refine Client.step_keeps_posts
        (P := fun a σ => a.board.calls.length < 2 ^ 64 → Routed a σ) ?_ linked (fun _ => h)
        dial timeUp few
      intro a out b σ linked routed move few
      exact move.routed linked (routed (Nat.lt_of_le_of_lt move.calls_length_le few)) few
  | attend link most => exact h.attend linked link most
  | spawn job =>
      rw [Client.crossings, List.append_nil]
      refine ⟨h.accounted, fun {t k} found => ?_⟩
      simp only [Client.happen, Client.spawn, List.getElem?_append] at found
      split at found
      · exact h.stands found
      · obtain rfl := List.mem_singleton.mp (List.mem_of_getElem? found)
        trivial
  | cancel task =>
      rw [Client.crossings, List.append_nil]
      show Routed (c.cancel task) τ
      unfold Client.cancel
      split
      · exact h
      · exact h.letGo fun _ _ _ => trivial
  | peer link act =>
      rw [Client.crossings, List.append_nil]
      show Routed (c.onPort link _ ()).2 τ
      unfold Client.onPort
      split
      · exact h
      · split
        · exact h
        · exact ⟨h.accounted, h.stands⟩
  | configure settings =>
      rw [Client.crossings, List.append_nil]
      exact ⟨h.accounted, h.stands⟩

theorem run (h : Routed c τ) (linked : Linked c) (es : List Event)
    (few : (c.run es).board.calls.length < 2 ^ 64) :
    Routed (c.run es) (τ ++ c.traffic es) := by
  induction es generalizing c τ with
  | nil =>
      rw [Client.traffic, List.append_nil]
      exact h
  | cons e es ih =>
      have first : (c.happen e).board.calls.length < 2 ^ 64 :=
        Nat.lt_of_le_of_lt ((c.happen e).run_calls_length_le es) few
      have := ih (h.happen linked e first) (linked.happen e) few
      rwa [List.append_assoc] at this

end Routed

theorem routed_fresh (config : Config) (settings : Settings) :
    Routed (Client.fresh config settings) [] where
  accounted := accounted_empty
  stands := by simp [Client.fresh]

/-! ### Where responses come from -/

/-- A message of the traffic is the response that answered a call. -/
def Resolves (c : Client) (τ : List Crossing) (q call : Nat) : Prop :=
  ∃ d r p task, c.board.calls[call]? = some d ∧ d.status = .answered r ∧
    PostedAt τ p task d.exchange d.id ∧ FirstAnswer τ p q d.exchange d.id r

/-- A message that is taken answers one request at most. -/
theorem FirstAnswer.eq {τ : List Crossing} {p p' q link link' : Nat} {id id' : UInt64}
    {r r' : Response} (answers : FirstAnswer τ p q link id r)
    (answers' : FirstAnswer τ p' q link' id' r') : link = link' ∧ id = id' ∧ r = r' := by
  obtain ⟨x, found, answer⟩ := answers.answer
  obtain ⟨x', found', answer'⟩ := answers'.answer
  obtain rfl := Option.some.inj (found.symm.trans found')
  obtain ⟨m, rfl, read, number⟩ := answerTo_eq_some_iff.mp answer
  obtain ⟨m', same, read', number'⟩ := answerTo_eq_some_iff.mp answer'
  obtain ⟨rfl, rfl⟩ := Crossing.received.inj same
  obtain rfl := Except.ok.inj (read.symm.trans read')
  exact ⟨rfl, Option.some.inj (number.symm.trans number'), rfl⟩

namespace Routed

variable {c : Client} {τ : List Crossing}

theorem ids_increasing (h : Routed c τ) : (τ.filterMap Crossing.id?).Pairwise (· < ·) := by
  refine List.pairwise_filterMap.mpr (h.accounted.ordered.imp ?_)
  intro x y apart i hi j hj
  exact apart i j hi hj

theorem eq_of_resolves (h : Routed c τ) {q call call' : Nat} (resolves : Resolves c τ q call)
    (resolves' : Resolves c τ q call') : call = call' := by
  obtain ⟨d, r, p, task, found, -, -, answers⟩ := resolves
  obtain ⟨d', r', p', task', found', -, -, answers'⟩ := resolves'
  exact h.accounted.consistent.eq_of_id_eq found found' (answers.eq answers').2.1

theorem answered_of_response (h : Routed c τ) {task : Nat} {job : Job} {r : Response}
    (found : c.tasks[task]? = some { job, phase := .done (.response (.ok r)) }) :
    Answered τ task r := by
  have concluded : Concluded τ task job (.response (.ok r)) := h.stands found
  generalize ended : Outcome.response (.ok r) = outcome at concluded
  cases concluded with
  | result source =>
      cases job with
      | relay message => cases ended
      | call method params limited =>
          cases ended
          exact source r rfl
      | disconnect =>
          cases ended
          exact source r rfl
  | disconnected => cases ended
  | refused asks unread => cases ended

theorem answered_of_reply (h : Routed c τ) {task : Nat} {message reply : Json}
    (found : c.tasks[task]? = some { job := .relay message, phase := .done (.reply reply) }) :
    (∃ e, Relay.Ask.decode message = .error e ∧
      reply = (Relay.Reply.refused e).toJson.sorted) ∨
    ∃ result, reply = (Relay.Reply.ofResult result).toJson.sorted ∧
      ∀ r, result = .ok r → Answered τ task r := by
  have concluded : Concluded τ task (.relay message) (.reply reply) := h.stands found
  generalize ended : Outcome.reply reply = outcome at concluded
  cases concluded with
  | @result result source =>
      cases ended
      exact .inr ⟨result, rfl, source⟩
  | disconnected => cases ended
  | @refused m e asks unread =>
      cases asks
      cases ended
      exact .inl ⟨e, unread, rfl⟩

end Routed

/-- Responses are routed over any number of connections, as long as there are numbers for the
calls: the numbers of the requests that are posted increase over the whole run, a call that ends
with a response posted a request to which that is the first response behind it on the same port,
and no message that is taken answers two calls. -/
theorem calls_end_with_first_response_on_their_port (config : Config) (settings : Settings)
    (es : List Event)
    (few : ((Client.fresh config settings).run es).board.calls.length < 2 ^ 64) :
    let c := (Client.fresh config settings).run es
    let τ := (Client.fresh config settings).traffic es
    (∀ task link message, .posted task link message ∈ τ → (idOf message).isSome) ∧
    (τ.filterMap Crossing.id?).Pairwise (· < ·) ∧
    (∀ task job r, c.tasks[task]? = some { job, phase := .done (.response (.ok r)) } →
      Answered τ task r) ∧
    -- A user interface is told that its message asks for no call, or the result of its call.
    (∀ task message reply,
      c.tasks[task]? = some { job := .relay message, phase := .done (.reply reply) } →
      (∃ e, Relay.Ask.decode message = .error e ∧
        reply = (Relay.Reply.refused e).toJson.sorted) ∨
      ∃ result, reply = (Relay.Reply.ofResult result).toJson.sorted ∧
        ∀ r, result = .ok r → Answered τ task r) ∧
    -- The same holds of calls that nobody awaits any more.
    (∀ call d r, c.board.calls[call]? = some d → d.status = .answered r →
      ∃ q, Resolves c τ q call) ∧
    (∀ q call call', Resolves c τ q call → Resolves c τ q call' → call = call') ∧
    (∀ p p' q task task' link link' id id' r r',
      PostedAt τ p task link id → FirstAnswer τ p q link id r →
      PostedAt τ p' task' link' id' → FirstAnswer τ p' q link' id' r' →
      p = p' ∧ task = task') := by
  intro c τ
  have h : Routed c τ :=
    (routed_fresh config settings).run (linked_fresh config settings) es few
  refine ⟨?_, h.ids_increasing, fun _ _ _ => h.answered_of_response,
    fun _ _ _ => h.answered_of_reply, ?_, fun _ _ _ => h.eq_of_resolves, ?_⟩
  · intro task link message member
    obtain ⟨id, number, -⟩ := h.accounted.numbered member
    simp [number]
  · intro call d r found answered
    obtain ⟨p, task, posted, -, answers⟩ := h.accounted.followed found (by simp [answered])
    obtain ⟨q, first⟩ := answers r answered
    exact ⟨q, d, r, p, task, found, answered, posted, first⟩
  · intro p p' q task task' link link' id id' r r' posted answers posted' answers'
    obtain ⟨rfl, rfl, -⟩ := answers.eq answers'
    obtain ⟨same, sameTask, -⟩ := h.accounted.eq_of_posted posted posted'
    exact ⟨same, sameTask⟩

/-- A call is given up with its connection, and the next one is posted over a new port. A response
with its number arrives on the old port, one with the earlier number on the new port, and then the
right one. -/
def reconnecting : List Event :=
  let answer (id : UInt64) : Json := .object [("id", .ofUInt64 id), ("result", .null)]
  let dial : Dial := fun _ => some (.ok .untouched)
  [.spawn (.call "status" .null false), .step 0 dial false,
    .spawn .disconnect, .step 1 dial false, .step 0 dial false,
    .spawn (.call "status" .null false), .step 2 dial false,
    .peer 0 (.send (answer 2)), .attend 0 none, .step 2 dial false,
    .peer 1 (.send (answer 1)), .peer 1 (.send (answer 2)), .attend 1 none,
    .step 2 dial false]

/-- The second call ends with the response on its own port. -/
theorem second_call_ends_with_response_on_second_port :
    ((Client.fresh {} (.stored {})).run reconnecting).board.calls.length < 2 ^ 64 ∧
      ((Client.fresh {} (.stored {})).run reconnecting).tasks[2]? = some {
        job := .call "status" .null false
        phase := .done (.response (.ok (.success 2 .null))) } ∧
      Answered ((Client.fresh {} (.stored {})).traffic reconnecting) 2 (.success 2 .null) := by
  have count : ((Client.fresh {} (.stored {})).run reconnecting).board.calls.length = 2 := rfl
  have few : ((Client.fresh {} (.stored {})).run reconnecting).board.calls.length < 2 ^ 64 := by
    rw [count]
    decide
  have ended : ((Client.fresh {} (.stored {})).run reconnecting).tasks[2]? = some {
      job := .call "status" .null false
      phase := .done (.response (.ok (.success 2 .null))) } := rfl
  obtain ⟨-, -, answered, -⟩ := calls_end_with_first_response_on_their_port {} (.stored {}) _ few
  exact ⟨few, ended, answered 2 _ _ ended⟩

end RpcLink.Native
