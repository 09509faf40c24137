import RpcLink.Proofs.Native.Intake

/-!
Ports that are no longer current. Their events are still taken, by whoever took them before, but
their channels are closed and the client refers to another connection or to none. So nothing comes
of such an event but a report for each message.
-/

namespace RpcLink.Native

variable {c c' c'' : Client} {link : Nat}

/-- What is told of a call does not depend on what was observed. -/
theorem poll_of_log (b : Switchboard) (log : List Observation) (call : Nat) :
    (Switchboard.poll { b with log } call).1 = (b.poll call).1 := by
  have same : Switchboard.awaited? { b with log } call = b.awaited? call := rfl
  unfold Switchboard.poll
  rw [same]
  cases b.awaited? call with
  | none => rfl
  | some c =>
      dsimp only
      cases c.outcome <;> rfl

/-- Nothing has come of what was taken but reports, and the ports may have other queues. -/
structure Overhears (c : Client) (σ : List Crossing) (c' : Client) : Prop where
  eq : c' =
    { c with
      links := c'.links
      board := { c.board with log := c.board.log ++ σ.filterMap Crossing.report? } }
  hosts : c'.links.map Link.host = c.links.map Link.host

namespace Overhears

variable {σ τ : List Crossing}

theorem of_links {links : List Link} (hosts : links.map Link.host = c.links.map Link.host) :
    Overhears c [] { c with links } where
  eq := by simp
  hosts := hosts

theorem trans (first : Overhears c σ c') (second : Overhears c' τ c'') :
    Overhears c (σ ++ τ) c'' where
  eq := by
    rw [second.eq, first.eq]
    simp
  hosts := second.hosts.trans first.hosts

theorem current_eq (h : Overhears c σ c') : c'.current = c.current := by rw [h.eq]

theorem tasks_eq (h : Overhears c σ c') : c'.tasks = c.tasks := by rw [h.eq]

theorem exchange_eq (h : Overhears c σ c') (link : Nat) :
    c'.board.exchange link = c.board.exchange link := by
  rw [h.eq]
  rfl

theorem calls_eq (h : Overhears c σ c') : c'.board.calls = c.board.calls := by rw [h.eq]

theorem poll_eq (h : Overhears c σ c') (call : Nat) :
    (c'.board.poll call).1 = (c.board.poll call).1 := by
  rw [h.eq]
  exact poll_of_log c.board _ call

theorem live?_eq (h : Overhears c σ c') : c'.live? = c.live? := by
  rw [h.eq]
  rfl

theorem state_eq (h : Overhears c σ c') : c'.state = c.state := by
  rw [h.eq]
  rfl

theorem pendingCount_eq (h : Overhears c σ c') : c'.pendingCount = c.pendingCount := by
  rw [h.eq]
  rfl

theorem host?_eq (h : Overhears c σ c') : c'.host? = c.host? := by
  have named : ∀ link : Nat, c'.links[link]?.map Link.host = c.links[link]?.map Link.host := by
    intro link
    rw [← List.getElem?_map, h.hosts, List.getElem?_map]
  unfold Client.host?
  rw [h.live?_eq]
  exact congrArg c.live?.bind (funext named)

theorem text_eq (h : Overhears c σ c') : c'.text = c.text := by
  unfold Client.text
  rw [h.host?_eq, h.state_eq]

end Overhears

/-- What a change of one entry leaves alone in each stays as it is. -/
theorem map_modify_of_same {α β : Type} (xs : List α) (k : Nat) {f : α → α} {p : α → β}
    (same : ∀ x, p (f x) = p x) : (xs.modify k f).map p = xs.map p := by
  apply List.ext_getElem?
  intro i
  rw [List.getElem?_map, List.getElem?_map, List.getElem?_modify]
  cases xs[i]? with
  | none => rfl
  | some x => by_cases here : k = i <;> simp [here, same]

/-- The end of a connection that was closed before and is not the current one. -/
theorem endIf_of_retired (retired : c.board.Retired link) (other : c.current ≠ some link)
    (reason? : Option String) : Overhears c [] (c.endIf link reason?) := by
  cases reason? with
  | none => exact .of_links rfl
  | some reason =>
      obtain ⟨first, closed⟩ := Option.isSome_iff_exists.mp retired.1
      show Overhears c [] (c.endLink link reason)
      unfold Client.endLink
      rw [Switchboard.abort_of_closed closed, if_neg other]
      exact .of_links (map_modify_of_same _ _ fun _ => rfl)

/-- Taking the events of a port that is not the current one. -/
theorem attend_of_stale (h : Linked c) (other : c.current ≠ some link) (most : Option Nat) :
    Overhears c (c.receipts link most) (c.attend link most) := by
  cases found : c.links[link]? with
  | none =>
      simp only [Client.attend, Client.receipts, found]
      exact .of_links rfl
  | some l =>
      cases attended : l.attended with
      | false =>
          simp only [Client.attend, Client.receipts, found, attended]
          exact .of_links rfl
      | true =>
          obtain ⟨inside, -⟩ := List.getElem?_eq_some_iff.mp found
          have retired := h.connections.retired inside other
          simp only [Client.receipts, found, attended, if_true]
          rw [Client.attend_eq found attended, Switchboard.dispatchAll_of_retired retired]
          generalize messages (l.port.events.items.take _) = vs
          rw [← List.append_nil (vs.map _)]
          refine Overhears.trans ⟨?_, ?_⟩ (endIf_of_retired ?_ ?_ _)
          · rw [List.filterMap_map]
            congr 3
            exact (congrFun List.filterMap_eq_map vs).symm
          · exact map_modify_of_same _ _ fun _ => rfl
          · exact retired
          · exact other

/-- What happens on a port that is not the current one. -/
theorem happen_of_stale (h : Linked c) {e : Event} (there : e.port? = some link)
    (other : c.current ≠ some link) : Overhears c (c.crossings e) (c.happen e) := by
  cases e with
  | attend l most =>
      obtain rfl := Option.some.inj there
      exact attend_of_stale h other most
  | peer l act =>
      obtain rfl := Option.some.inj there
      show Overhears c [] (c.onPort l _ ()).2
      unfold Client.onPort
      split
      · exact .of_links rfl
      · split
        · exact .of_links rfl
        · exact .of_links (map_modify_of_same _ _ fun _ => rfl)
  | _ => cases there

theorem run_of_stale (h : Linked c) {late : List Event}
    (stale : ∀ e ∈ late, ∃ link, e.port? = some link ∧ c.current ≠ some link) :
    Overhears c (c.traffic late) (c.run late) := by
  induction late generalizing c with
  | nil => exact .of_links rfl
  | cons e late ih =>
      obtain ⟨link, there, other⟩ := stale e List.mem_cons_self
      have first := happen_of_stale h there other
      refine first.trans (ih (h.happen e) fun e' member => ?_)
      rw [first.current_eq]
      exact stale e' (List.mem_cons_of_mem _ member)

/-- What happens on a port leaves the other ports alone. -/
theorem happen_links_of_port (c : Client) {e : Event} {i : Nat} (there : e.port? = some link)
    (other : i ≠ link) : (c.happen e).links[i]? = c.links[i]? := by
  have kept : ∀ {links : List Link} {f}, (links.modify link f)[i]? = links[i]? :=
    List.getElem?_modify_ne _ _ (Ne.symm other)
  have ended : ∀ {a : Client} reason?, (a.endIf link reason?).links[i]? = a.links[i]? := by
    intro a reason?
    cases reason? with
    | none => rfl
    | some reason => exact kept
  cases e with
  | attend l most =>
      obtain rfl := Option.some.inj there
      show (c.attend l most).links[i]? = _
      unfold Client.attend
      split
      · rfl
      · split
        · rw [Client.takeEvents_eq, ended]
          exact kept
        · rfl
  | peer l act =>
      obtain rfl := Option.some.inj there
      show (c.onPort l _ ()).2.links[i]? = _
      unfold Client.onPort
      split
      · rfl
      · split
        · rfl
        · exact kept
  | _ => cases there

theorem run_links_of_ports (c : Client) {late : List Event}
    (ports : ∀ e ∈ late, ∃ link, e.port? = some link) {i : Nat}
    (others : ∀ e ∈ late, e.port? ≠ some i) : (c.run late).links[i]? = c.links[i]? := by
  induction late generalizing c with
  | nil => rfl
  | cons e late ih =>
      obtain ⟨link, there⟩ := ports e List.mem_cons_self
      have first : (c.happen e).links[i]? = c.links[i]? :=
        happen_links_of_port c there fun same => others e List.mem_cons_self (same ▸ there)
      rw [← first]
      exact ih (c.happen e) (fun e' member => ports e' (List.mem_cons_of_mem _ member))
        fun e' member => others e' (List.mem_cons_of_mem _ member)

/-- A report of a message. -/
theorem report_of_crossing {x : Crossing} {o : Observation} (reported : x.report? = some o) :
    (∃ id, o = .unmatched id) ∨ ∃ frame error, o = .malformed frame error := by
  cases x with
  | posted task link message => cases reported
  | received link message =>
      obtain rfl := Option.some.inj reported
      unfold strayReport
      split
      · exact .inl ⟨_, rfl⟩
      · exact .inr ⟨_, _, rfl⟩

/-- The events of a port that is not the current connection's change nothing. Whatever its host's
side does and whichever of its events are taken, up to its end and beyond, everything but the queues
of the port is as it was, and of each message that was taken there is one report that it was
malformed or unmatched. -/
theorem stale_ports_change_nothing (config : Config) (settings : Settings) (es late : List Event)
    (stale : ∀ e ∈ late, ∃ link, e.port? = some link ∧
      ((Client.fresh config settings).run es).current ≠ some link) :
    let c := (Client.fresh config settings).run es
    let c' := c.run late
    let reports := (c.traffic late).filterMap Crossing.report?
    c' = { c with links := c'.links, board := { c.board with log := c.board.log ++ reports } } ∧
    c'.links.map Link.host = c.links.map Link.host ∧
    (∀ link, (∀ e ∈ late, e.port? ≠ some link) → c'.links[link]? = c.links[link]?) ∧
    (∀ o ∈ reports, (∃ id, o = .unmatched id) ∨ ∃ frame error, o = .malformed frame error) ∧
    -- In particular nothing else is seen of the client, and its calls stand as they stood.
    c'.current = c.current ∧ c'.state = c.state ∧ c'.host? = c.host? ∧ c'.text = c.text ∧
    c'.pendingCount = c.pendingCount ∧
    (∀ link, c'.board.exchange link = c.board.exchange link) ∧
    c'.board.calls = c.board.calls ∧
    (∀ call, (c'.board.poll call).1 = (c.board.poll call).1) ∧ c'.tasks = c.tasks := by
  intro c c' reports
  have linked : Linked c := (linked_fresh config settings).run es
  have overhears : Overhears c (c.traffic late) c' := run_of_stale linked stale
  refine ⟨overhears.eq, overhears.hosts, fun link others => ?_, fun o member => ?_,
    overhears.current_eq, overhears.state_eq, overhears.host?_eq, overhears.text_eq,
    overhears.pendingCount_eq, overhears.exchange_eq, overhears.calls_eq, overhears.poll_eq,
    overhears.tasks_eq⟩
  · exact run_links_of_ports c (fun e member => (stale e member).imp fun _ => And.left) others
  · obtain ⟨x, -, reported⟩ := List.mem_filterMap.mp member
    exact report_of_crossing reported

/-- The host's side of a connection that was given up sends a response to the call of the next one,
then something else, and is gone. -/
theorem late_response_leaves_next_call :
    let es : List Event :=
      let dial : Dial := fun _ => some (.ok .untouched)
      [.spawn (.call "status" .null false), .step 0 dial false, .spawn .disconnect,
        .step 1 dial false, .spawn (.call "status" .null false), .step 2 dial false]
    let late : List Event :=
      [.peer 0 (.send (.object [("id", .ofUInt64 2), ("result", .null)])), .peer 0 (.send .null),
        .peer 0 .drop, .attend 0 none]
    let c := (Client.fresh {} (.stored {})).run es
    (∀ e ∈ late, ∃ link, e.port? = some link ∧ c.current ≠ some link) ∧
      (c.traffic late).length = 2 ∧ (c.run late).current = some 1 ∧
      (c.run late).pendingCount = 1 := by
  intro es late c
  have stale : ∀ e ∈ late, ∃ link, e.port? = some link ∧ c.current ≠ some link := by
    have other : c.current ≠ some 0 := by decide
    simp [late, Event.port?, other]
  obtain ⟨-, -, -, -, current, -, -, -, pending, -⟩ :=
    stale_ports_change_nothing {} (.stored {}) es late stale
  exact ⟨stale, rfl, current, pending⟩

end RpcLink.Native
