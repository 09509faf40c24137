import RpcLink.Proofs.Exchange.Fares
import RpcLink.Proofs.Native.Attempts
import RpcLink.Proofs.Native.Placement
import RpcLink.Proofs.Native.Stale

/-!
How the queue of the current connection is emptied while other things happen. As long as no call is
registered and the connection is the current one, the messages of its port are taken in order, each
call that waits on it is answered by the first response to it among them, and nothing else comes to
its channel.
-/

namespace RpcLink

namespace Native

open Switchboard (Follows)

/-- The events of a port that were not taken yet. -/
def Client.queued (c : Client) (link : Nat) : List PortEvent := (c.port link).events.items

/-- The events that come to a port at once. -/
def Client.arriving (c : Client) (link : Nat) (e : Event) : List PortEvent :=
  match e with
  | .peer .. => ((c.happen e).queued link).drop (c.queued link).length
  | _ => []

/-- All events that come to a port in a run, in order. -/
def Client.arrivals (c : Client) (link : Nat) : List Event → List PortEvent
  | [] => []
  | e :: es => c.arriving link e ++ (c.happen e).arrivals link es

/-- A message that was taken from a port. -/
def Crossing.from? (link : Nat) : Crossing → Option Json
  | .received l message => if l = link then some message else none
  | .posted .. => none

/-- The messages that are taken from a port in a run, in order. -/
def Client.taken (c : Client) (link : Nat) (es : List Event) : List Json :=
  (c.traffic es).filterMap (Crossing.from? link)

section

variable {c c' c'' : Client} {task link : Nat} {job : Job} {ask : Relay.Ask}
  {out : List (Nat × Json)}

theorem Client.port_of_found {l : Link} (found : c.links[link]? = some l) :
    c.port link = l.port := by
  rw [port, found]
  rfl

/-! ### What leaves the incoming queue of a connection alone -/

/-- The connections that there were are there, and only what is posted to them may have changed. -/
structure Incoming (c c' : Client) : Prop where
  link_eq : ∀ {i : Nat} {l : Link}, c.links[i]? = some l →
    ∃ outgoing, c'.links[i]? = some { l with port := { l.port with outgoing } }

theorem Incoming.of_links_eq (same : c'.links = c.links) : Incoming c c' where
  link_eq found := ⟨_, same ▸ found⟩

theorem Incoming.trans (first : Incoming c c') (second : Incoming c' c'') : Incoming c c'' where
  link_eq found := by
    obtain ⟨_, there⟩ := first.link_eq found
    obtain ⟨outgoing, last⟩ := second.link_eq there
    exact ⟨outgoing, last⟩

theorem Incoming.congr {a : Client} (incoming : Incoming a c') (same : a.links = c.links) :
    Incoming c c' :=
  (Incoming.of_links_eq same).trans incoming

theorem Sent.incoming (sent : Sent task link job ask c out c') : Incoming c c' := by
  cases sent with
  | refused closed => exact .of_links_eq rfl
  | withdrawn registered reason => exact .of_links_eq rfl
  | @posted request call board registered fits taken =>
      constructor
      intro i l found
      rw [Client.setPhase_links]
      dsimp only
      rw [List.getElem?_modify, found]
      by_cases here : link = i
      · subst here
        rw [Client.port_of_found found] at taken ⊢
        simp only [Port.post, Conduit.send, taken, if_true]
        exact ⟨_, rfl⟩
      · simp only [here, if_false]
        exact ⟨_, rfl⟩

theorem Move.incoming (move : Move task c out c') : Incoming c c' := by
  cases move with
  | refuse found unread => exact .of_links_eq rfl
  | queue found held => exact .of_links_eq rfl
  | send found asks live sent => exact sent.incoming
  | sendLocked found asks grants live sent => exact sent.incoming.congr rfl
  | dial found asks grants dead => exact .of_links_eq rfl
  | fail found asks => exact .of_links_eq rfl
  | connect found asks sent =>
      constructor
      intro i l found
      obtain ⟨inside, -⟩ := List.getElem?_eq_some_iff.mp found
      exact sent.incoming.link_eq ((List.getElem?_append_left inside).trans found)
  | disconnect found asks grants => exact .of_links_eq c.giveUp_links
  | answer found told => exact .of_links_eq rfl
  | expire found waits limited limit => exact .of_links_eq (c.letGo_links task)

/-- A connection that is new is one whose events are taken. -/
theorem Move.further (move : Move task c out c') :
    c'.links.length = c.links.length ∨
      ∃ l, c'.links[c.links.length]? = some l ∧ l.attended = true := by
  cases move with
  | refuse found unread => exact .inl rfl
  | queue found held => exact .inl rfl
  | send found asks live sent => exact .inl sent.links_length
  | sendLocked found asks grants live sent => exact .inl sent.links_length
  | dial found asks grants dead => exact .inl rfl
  | fail found asks => exact .inl rfl
  | connect found asks sent =>
      obtain ⟨outgoing, there⟩ := sent.incoming.link_eq List.getElem?_concat_length
      exact .inr ⟨_, there, rfl⟩
  | disconnect found asks grants => exact .inl (congrArg List.length c.giveUp_links)
  | answer found told => exact .inl rfl
  | expire found waits limited limit => exact .inl (congrArg List.length (c.letGo_links task))

/-- The events of the current connection are taken. -/
def Attended (c : Client) : Prop :=
  ∀ link, c.current = some link → ∃ l, c.links[link]? = some l ∧ l.attended = true

namespace Attended

theorem of_incoming (h : Attended c) (incoming : Incoming c c')
    (current : c'.current = c.current) : Attended c' := by
  intro link isCurrent
  obtain ⟨l, found, attended⟩ := h link (current.symm.trans isCurrent)
  obtain ⟨outgoing, there⟩ := incoming.link_eq found
  exact ⟨_, there, attended⟩

theorem move (h : Attended c) (linked : Linked c) (move : Move task c out c') : Attended c' := by
  intro link current
  by_cases inside : link < c.links.length
  · obtain ⟨l, found, attended⟩ := h link ((move.stride linked).turn.current_of inside current)
    obtain ⟨outgoing, there⟩ := move.incoming.link_eq found
    exact ⟨_, there, attended⟩
  · have inside' := ((linked.move move).connections.current_open current).1
    rcases move.further with same | ⟨l, there, attended⟩
    · rw [same] at inside'
      exact absurd inside' inside
    · -- There is one further connection at most.
      rcases (move.stride linked).links with ⟨same, -⟩ | ⟨-, further, -⟩
      · rw [same] at inside'
        exact absurd inside' inside
      · obtain rfl : c.links.length = link := Option.some.inj (further.symm.trans current)
        exact ⟨l, there, attended⟩

end Attended

/-! ### Taking events while the connection stays -/

theorem ending_eq_none {gone : Bool} {events : List PortEvent}
    (goesOn : ending gone events = none) : events = (messages events).map .message := by
  induction events with
  | nil => rfl
  | cons event rest ih =>
      cases event with
      | message v =>
          have tail := ih goesOn
          rw [messages, List.map_cons, ← tail]
      | disconnected reason => cases goesOn

/-- As long as the connection stays, only messages were taken, and they were dispatched in order. -/
theorem Client.attend_of_current {l : Link} (found : c.links[link]? = some l)
    (attended : l.attended = true) {most : Option Nat} (before : c.current = some link)
    (after : (c.attend link most).current = some link) :
    ∃ (vs : List Json) (rest : List PortEvent), l.port.events.items = vs.map .message ++ rest ∧
      c.receipts link most = vs.map (.received link) ∧
      c.attend link most =
        { c with
          links := c.links.modify link fun l' =>
            { l' with port := { l'.port with events := { l.port.events with items := rest } } }
          board := c.board.dispatchAll link (vs.map .message) } := by
  have receipts : c.receipts link most = (messages (l.port.events.items.take
      (most.getD (l.port.events.items.length + 1)))).map (.received link) := by
    simp [receipts, found, attended]
  rw [attend_eq found attended] at after ⊢
  rw [receipts]
  dsimp only at after ⊢
  generalize most.getD (l.port.events.items.length + 1) = count at after ⊢
  cases ends : ending (l.port.events.ended && l.port.events.items.length < count)
      (l.port.events.items.take count) with
  | none =>
      refine ⟨_, l.port.events.items.drop count, ?_, rfl, rfl⟩
      rw [← ending_eq_none ends, List.take_append_drop]
  | some reason =>
      rw [ends] at after
      simp [endIf, endLink, before] at after

/-! ### Steps that register nothing -/

/-- Sending over a connection registers a call, or does nothing to the switchboard. -/
theorem Sent.board_eq (sent : Sent task link job ask c out c')
    (count : c'.board.calls.length = c.board.calls.length) : c'.board = c.board := by
  have grows : ∀ {entry board}, c.board.register link ask.method ask.params = (.ok entry, board) →
      board.calls.length = c.board.calls.length + 1 := by
    intro entry board registered
    obtain ⟨-, -, calls, -⟩ := Switchboard.of_registered registered
    exact (congrArg List.length calls).trans List.length_append
  cases sent with
  | refused closed => rfl
  | @withdrawn request call board e registered reason =>
      have forgotten : (board.forget link request.id).2.calls.length = c.board.calls.length := count
      rw [(board.shrinks_forget link request.id).calls_length_eq, grows registered] at forgotten
      omega
  | @posted request call board registered fits taken =>
      have posted : board.calls.length = c.board.calls.length := count
      rw [grows registered] at posted
      omega

theorem Client.letGo_exchange (c : Client) (task i : Nat) :
    (c.letGo task).board.exchange i = c.board.exchange i := by
  unfold letGo
  split <;> rfl

/-- A move that registers no call leaves the channel of the current connection alone. -/
theorem Move.exchange_eq (move : Move task c out c') (inside : link < c.links.length)
    (current : c'.current = some link) (count : c'.board.calls.length = c.board.calls.length) :
    c'.board.exchange link = c.board.exchange link := by
  cases move with
  | refuse found unread => rfl
  | queue found held => rfl
  | send found asks live sent => rw [sent.board_eq count]
  | sendLocked found asks grants live sent => rw [sent.board_eq count]
  | dial found asks grants dead => rfl
  | fail found asks => rfl
  | connect found asks sent =>
      obtain rfl : c.links.length = link := Option.some.inj (sent.lock.2.symm.trans current)
      exact absurd inside (Nat.lt_irrefl _)
  | disconnect found asks grants =>
      have lost : c.giveUp.current = some link := current
      rw [c.giveUp_current] at lost
      cases lost
  | @answer job call result board found told =>
      show board.exchange link = _
      have polled := c.board.poll_board call
      rw [told] at polled
      rcases polled with rfl | rfl
      · rfl
      · rfl
  | expire found waits limited limit => exact c.letGo_exchange task link

theorem Client.step_incoming (c : Client) (task : Nat) (dial : Dial) (timeUp : Bool) :
    Incoming c (c.step task dial timeUp) :=
  step_keeps (fun before move => before.trans move.incoming) (.of_links_eq rfl) dial timeUp

theorem Client.step_exchange (h : Linked c) (inside : link < c.links.length) (dial : Dial)
    (timeUp : Bool) (current : (c.step task dial timeUp).current = some link)
    (count : (c.step task dial timeUp).board.calls.length = c.board.calls.length) :
    (c.step task dial timeUp).board.exchange link = c.board.exchange link := by
  -- A move cannot take back what an earlier one registered, nor a connection that was given up.
  have kept := step_keeps
    (P := fun a => Linked a ∧ link < a.links.length ∧
      c.board.calls.length ≤ a.board.calls.length ∧
      (a.current = some link → a.board.calls.length = c.board.calls.length →
        a.board.exchange link = c.board.exchange link))
    (fun {a out b} before (move : Move task a out b) => by
      obtain ⟨linked, there, more, same⟩ := before
      have turn := (move.stride linked).turn
      have further := move.calls_length_le
      refine ⟨linked.move move, Nat.lt_of_lt_of_le there turn.links_le,
        Nat.le_trans more further, ?_⟩
      intro isCurrent all
      rw [move.exchange_eq there isCurrent (by omega)]
      exact same (turn.current_of there isCurrent) (by omega))
    ⟨h, inside, Nat.le_refl _, fun _ _ => rfl⟩ dial timeUp
  exact kept.2.2.2 current count

/-! ### Events -/

theorem Client.queued_of_links_eq (same : c'.links[link]? = c.links[link]?) :
    c'.queued link = c.queued link := by
  rw [queued, queued, port, port, same]

theorem Incoming.queued_eq (incoming : Incoming c c') (inside : link < c.links.length) :
    c'.queued link = c.queued link := by
  obtain ⟨outgoing, there⟩ := incoming.link_eq (List.getElem?_eq_getElem inside)
  rw [Client.queued, Client.queued, Client.port, Client.port, there,
    List.getElem?_eq_getElem inside]
  rfl

/-- What the host's side does takes no event back. -/
theorem PeerAct.apply_events (act : PeerAct) (p : Port) :
    ∃ more, (act.apply p).events.items = p.events.items ++ more := by
  have nothing : ∃ more, p.events.items = p.events.items ++ more := ⟨[], by simp⟩
  have sent : ∀ event, ∃ more, (p.notify event).2.events.items = p.events.items ++ more := by
    intro event
    cases shut : p.events.shut with
    | true => exact ⟨[], by simp [Port.notify, Conduit.send, shut]⟩
    | false => exact ⟨[event], by simp [Port.notify, Conduit.send, shut]⟩
  cases act with
  | send message => exact sent _
  | disconnect reason => exact sent _
  | take count => exact nothing
  | close => exact nothing
  | discard => exact nothing
  | drop => exact nothing

theorem Client.peer_port (c : Client) (inside : link < c.links.length) (act : PeerAct) :
    (c.happen (.peer link act)).port link = c.port link ∨
      (c.happen (.peer link act)).port link = act.apply (c.port link) := by
  show (c.onPort link _ ()).2.port link = _ ∨ (c.onPort link _ ()).2.port link = _
  unfold onPort
  split
  · exact .inl rfl
  · rename_i l found
    split
    · exact .inl rfl
    · right
      rw [port_of_found found, port]
      dsimp only
      rw [modify_port inside, if_pos rfl]

/-- What the host's side sends comes behind what is there. -/
theorem Client.queued_append_arriving (c : Client) (inside : link < c.links.length) (l : Nat)
    (act : PeerAct) :
    c.queued link ++ c.arriving link (.peer l act) = (c.happen (.peer l act)).queued link := by
  obtain ⟨more, further⟩ :
      ∃ more, (c.happen (.peer l act)).queued link = c.queued link ++ more := by
    by_cases here : link = l
    · subst here
      unfold queued
      rcases c.peer_port inside act with same | acted
      · exact ⟨[], by rw [same, List.append_nil]⟩
      · obtain ⟨more, apply⟩ := act.apply_events (c.port link)
        exact ⟨more, by rw [acted, apply]⟩
    · exact ⟨[], by rw [queued_of_links_eq (happen_links_of_port c rfl here), List.append_nil]⟩
  rw [arriving, further, List.drop_left]

/-! ### Draining -/

/-- Events came to a connection and messages were taken from the front of its queue. Each call that
waited is answered by the first response to it, or still waits. -/
structure Drains (link : Nat) (c : Client) (arrived : List PortEvent) (vs : List Json)
    (c' : Client) : Prop where
  follows : Follows c.board c'.board
  queue : c.queued link ++ arrived = vs.map .message ++ c'.queued link
  fares : ∀ w ∈ (c.board.exchange link).waiting, c'.board.Fares link w vs

namespace Drains

variable {arrived arrived' : List PortEvent} {vs us : List Json}

theorem trans (first : Drains link c arrived vs c') (second : Drains link c' arrived' us c'') :
    Drains link c (arrived ++ arrived') (vs ++ us) c'' where
  follows := first.follows.trans second.follows
  queue := by
    rw [← List.append_assoc, first.queue, List.append_assoc, second.queue, List.map_append,
      List.append_assoc]
  fares w waits := (first.fares w waits).append second.follows (second.fares w)

/-- Nothing is taken, and nothing comes to the channel. -/
theorem of_spared (follows : Follows c.board c'.board)
    (queue : c.queued link ++ arrived = c'.queued link)
    (spared : c'.board.exchange link = c.board.exchange link) : Drains link c arrived [] c' where
  follows := follows
  queue := queue
  fares w waits := by
    show w ∈ (c'.board.exchange link).waiting
    rw [spared]
    exact waits

end Drains

theorem Client.cancel_incoming (c : Client) (task : Nat) : Incoming c (c.cancel task) := by
  unfold cancel
  split
  · exact .of_links_eq rfl
  · exact .of_links_eq (c.letGo_links task)

theorem Client.cancel_current (c : Client) (task : Nat) : (c.cancel task).current = c.current := by
  unfold cancel
  split
  · rfl
  · exact c.letGo_current task

theorem Client.cancel_exchange (c : Client) (task i : Nat) :
    (c.cancel task).board.exchange i = c.board.exchange i := by
  unfold cancel
  split
  · rfl
  · exact c.letGo_exchange task i

theorem Client.peer_attended (c : Client) (l : Nat) (act : PeerAct) :
    (c.happen (.peer l act)).links.map Link.attended = c.links.map Link.attended := by
  show (c.onPort l _ ()).2.links.map Link.attended = _
  unfold onPort
  split
  · rfl
  · split
    · rfl
    · exact map_modify_of_same c.links l fun _ => rfl

namespace Attended

theorem attend (h : Attended c) (l : Nat) (most : Option Nat) : Attended (c.attend l most) := by
  intro link current
  have before : c.current = some link := by
    rcases (quiet_attend c l most).current with same | lost
    · exact same.symm.trans current
    · rw [lost] at current
      cases current
  obtain ⟨k, found, attended⟩ := h link before
  by_cases here : link = l
  · subst here
    obtain ⟨vs, rest, -, -, shape⟩ := Client.attend_of_current found attended before current
    rw [shape]
    dsimp only
    rw [List.getElem?_modify_eq, found]
    exact ⟨_, rfl, attended⟩
  · have other : (c.attend l most).links[link]? = c.links[link]? :=
      happen_links_of_port c (e := .attend l most) rfl here
    rw [other]
    exact ⟨k, found, attended⟩

theorem peer (h : Attended c) (l : Nat) (act : PeerAct) : Attended (c.happen (.peer l act)) := by
  intro link current
  have before : c.current = some link := by
    rcases (quiet_onPort c l (fun p => ((), act.apply p)) ()).current with same | lost
    · exact same.symm.trans current
    · exact absurd (lost.symm.trans current) (by simp)
  obtain ⟨k, found, attended⟩ := h link before
  have entry : (c.happen (.peer l act)).links[link]?.map Link.attended = some true := by
    rw [← List.getElem?_map, c.peer_attended l act, List.getElem?_map, found, Option.map_some,
      attended]
  exact Option.map_eq_some_iff.mp entry

theorem happen (h : Attended c) (linked : Linked c) (e : Event) : Attended (c.happen e) := by
  cases e with
  | spawn job => exact h.of_incoming (.of_links_eq rfl) rfl
  | step task dial timeUp =>
      have keeps : ∀ {a out b}, Linked a ∧ Attended a → Move task a out b →
          Linked b ∧ Attended b :=
        fun before move => ⟨before.1.move move, before.2.move before.1 move⟩
      exact (Client.step_keeps keeps ⟨linked, h⟩ dial timeUp).2
  | cancel task => exact h.of_incoming (c.cancel_incoming task) (c.cancel_current task)
  | attend l most => exact h.attend l most
  | peer l act => exact h.peer l act
  | configure settings => exact h.of_incoming (.of_links_eq rfl) rfl

theorem run (h : Attended c) (linked : Linked c) (es : List Event) : Attended (c.run es) := by
  induction es generalizing c with
  | nil => exact h
  | cons e es ih => exact ih (h.happen linked e) (linked.happen e)

end Attended

theorem attended_fresh (config : Config) (settings : Settings) :
    Attended (Client.fresh config settings) := by
  intro link current
  cases current

theorem Client.posts_from? (c c' : Client) (task link : Nat) :
    (posts task c c').filterMap (Crossing.from? link) = [] := by
  unfold posts
  rw [List.filterMap_eq_nil_iff]
  intro x member
  obtain ⟨l, -, there⟩ := List.mem_flatMap.mp member
  obtain ⟨message, -, rfl⟩ := List.mem_map.mp there
  rfl

theorem received_from? (l link : Nat) (vs : List Json) :
    (vs.map (.received l)).filterMap (Crossing.from? link) = if l = link then vs else [] := by
  rw [List.filterMap_map]
  split
  · rename_i here
    subst here
    have same : Crossing.from? l ∘ .received l = some := by
      funext v
      simp [Crossing.from?]
    rw [same, List.filterMap_some]
  · rename_i other
    have nothing : ∀ v ∈ vs, (Crossing.from? link ∘ .received l) v = none := by
      intro v _
      simp [Crossing.from?, other]
    exact List.filterMap_eq_nil_iff.mpr nothing

/-- The pump of the connection takes events off its queue. -/
theorem Client.attend_drains (attended : Attended c) (placed : c.board.Placed)
    (before : c.current = some link) {most : Option Nat}
    (after : (c.attend link most).current = some link) :
    Drains link c [] ((c.receipts link most).filterMap (Crossing.from? link))
      (c.attend link most) := by
  obtain ⟨k, found, isAttended⟩ := attended link before
  obtain ⟨vs, rest, queue, receipts, shape⟩ := attend_of_current found isAttended before after
  rw [receipts, received_from?, if_pos rfl]
  refine ⟨c.happen_follows (.attend link most) placed, ?_, fun w waits => ?_⟩
  · rw [List.append_nil, shape, queued, queued, port_of_found found, queue, port]
    dsimp only
    rw [List.getElem?_modify_eq, found]
    rfl
  · rw [shape]
    exact Switchboard.dispatchAll_fares placed waits vs

/-- The pump of another connection has no part in it. -/
theorem Client.attend_drains_of_ne (linked : Linked c) (placed : c.board.Placed)
    (before : c.current = some link) {l : Nat} (other : l ≠ link) (most : Option Nat) :
    Drains link c [] ((c.receipts l most).filterMap (Crossing.from? link)) (c.attend l most) := by
  have stale : c.current ≠ some l := by
    rw [before]
    exact fun same => other (Option.some.inj same).symm
  have taken : (c.receipts l most).filterMap (Crossing.from? link) = [] := by
    rw [receipts]
    split
    · split
      · rw [received_from?, if_neg other]
      · rfl
    · rfl
  have elsewhere : (c.attend l most).links[link]? = c.links[link]? :=
    happen_links_of_port (e := .attend l most) c rfl (Ne.symm other)
  rw [taken]
  refine .of_spared (c.happen_follows (.attend l most) placed) ?_
    ((attend_of_stale linked stale most).exchange_eq link)
  rw [queued_of_links_eq elsewhere]
  exact List.append_nil _

/-- What happens while the connection stays and no call is registered. -/
theorem Client.happen_drains (linked : Linked c) (attended : Attended c) (placed : c.board.Placed)
    (inside : link < c.links.length) {e : Event} (after : (c.happen e).current = some link)
    (count : (c.happen e).board.calls.length = c.board.calls.length) :
    Drains link c (c.arriving link e) ((c.crossings e).filterMap (Crossing.from? link))
      (c.happen e) := by
  have follows := c.happen_follows e placed
  have before := (happen_turn linked e).current_of inside after
  cases e with
  | spawn job => exact .of_spared follows (List.append_nil _) rfl
  | step task dial timeUp =>
      show Drains link c [] ((c.posts task _).filterMap _) _
      rw [posts_from?]
      refine .of_spared follows ?_ (step_exchange linked inside dial timeUp after count)
      rw [List.append_nil]
      exact ((c.step_incoming task dial timeUp).queued_eq inside).symm
  | cancel task =>
      refine .of_spared follows ?_ (c.cancel_exchange task link)
      show c.queued link ++ [] = _
      rw [List.append_nil]
      exact ((c.cancel_incoming task).queued_eq inside).symm
  | attend l most =>
      by_cases here : l = link
      · subst here
        exact attend_drains attended placed before after
      · exact attend_drains_of_ne linked placed before here most
  | peer l act =>
      refine .of_spared follows (c.queued_append_arriving inside l act) ?_
      rw [happen, onPort_board]
  | configure settings => exact .of_spared follows (List.append_nil _) rfl

theorem Client.run_drains (linked : Linked c) (attended : Attended c) (placed : c.board.Placed)
    (inside : link < c.links.length) {es : List Event} (after : (c.run es).current = some link)
    (count : (c.run es).board.calls.length = c.board.calls.length) :
    Drains link c (c.arrivals link es) (c.taken link es) (c.run es) := by
  induction es generalizing c with
  | nil => exact .of_spared placed.follows_refl (List.append_nil _) rfl
  | cons e es ih =>
      have linked' := linked.happen e
      have inside' := Nat.lt_of_lt_of_le inside (happen_turn linked e).links_le
      have first := c.happen_calls_length_le e
      have rest := (c.happen e).run_calls_length_le es
      have all : ((c.happen e).run es).board.calls.length = c.board.calls.length := count
      have drains := happen_drains linked attended placed inside (e := e)
        (run_current linked' inside' after) (by omega)
      have later := ih linked' (attended.happen linked e) drains.follows.placed inside' after
        (by omega)
      unfold taken at later ⊢
      rw [traffic, List.filterMap_append]
      exact drains.trans later

end

end Native

end RpcLink
