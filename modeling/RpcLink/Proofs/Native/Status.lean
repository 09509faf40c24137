import RpcLink.Proofs.Native.Attempts
import RpcLink.Proofs.Native.Stale

/-!
What a client says of its connection. An attempt to connect has run to its end when the connector
has answered it; one that is dropped before, or whose time is up, does not count. The client knows
whether some attempt has run to its end, and for which host each connection was made.
-/

namespace RpcLink.Native

/-- The connector answers an attempt, which a task has begun before or begins then. -/
def Client.Answered (c : Client) (e : Event) (host : String) (answer : Except Failure FreshPort) :
    Prop :=
  ∃ task dial timeUp, e = .step task dial timeUp ∧ dial host = some answer ∧
    (c.phase? task = some (.opening host) ∨ (c.happen e).dialled = c.dialled ++ [host])

/-- Some attempt runs to its end in a run. -/
def Client.Attempted (c : Client) (es : List Event) : Prop :=
  ∃ before e after host answer, es = before ++ e :: after ∧ (c.run before).Answered e host answer

/-- The hosts of the connections. -/
def Client.hosts (c : Client) : List String := c.links.map Link.host

/-- Nothing is heard of the connector, and it is not asked. -/
structure Unheard (c c' : Client) : Prop where
  opened : c'.opened = c.opened
  dialled : c'.dialled = c.dialled
  hosts : c'.hosts = c.hosts

/-- What is kept of what the connector says of a host. -/
structure Heard (c : Client) (host : String) (answer : Option (Except Failure FreshPort))
    (c' : Client) : Prop where
  opened : c'.opened = (c.opened || answer.isSome)
  hosts : c'.hosts = c.hosts ++ (answer.bind Except.toOption).toList.map fun _ => host

/-- A task that does not ask the connector yet may ask it, and may hear at once. -/
def Asks (c : Client) (dial : Dial) (c' : Client) : Prop :=
  Unheard c c' ∨ ∃ host, c'.dialled = c.dialled ++ [host] ∧ Heard c host (dial host) c'

section

variable {c a c' : Client} {task link : Nat} {job : Job} {ask : Relay.Ask} {dial : Dial}
  {host : String} {answer : Option (Except Failure FreshPort)}

namespace Unheard

theorem refl (c : Client) : Unheard c c := ⟨rfl, rfl, rfl⟩

theorem trans (first : Unheard c a) (second : Unheard a c') : Unheard c c' :=
  ⟨second.opened.trans first.opened, second.dialled.trans first.dialled,
    second.hosts.trans first.hosts⟩

theorem of_links_eq (opened : c'.opened = c.opened) (dialled : c'.dialled = c.dialled)
    (links : c'.links = c.links) : Unheard c c' :=
  ⟨opened, dialled, congrArg (List.map Link.host) links⟩

end Unheard

theorem Heard.of_unheard (heard : Heard a host answer c') (before : Unheard c a) :
    Heard c host answer c' :=
  ⟨by rw [heard.opened, before.opened], by rw [heard.hosts, before.hosts]⟩

theorem Heard.andThen (heard : Heard c host answer a) (after : Unheard a c') :
    Heard c host answer c' :=
  ⟨after.opened.trans heard.opened, after.hosts.trans heard.hosts⟩

theorem Asks.of_unheard (asks : Asks a dial c') (before : Unheard c a) : Asks c dial c' := by
  rcases asks with nothing | ⟨host, dialled, heard⟩
  · exact .inl (before.trans nothing)
  · exact .inr ⟨host, by rw [dialled, before.dialled], heard.of_unheard before⟩

theorem Asks.andThen (asks : Asks c dial a) (after : Unheard a c') : Asks c dial c' := by
  rcases asks with nothing | ⟨host, dialled, heard⟩
  · exact .inl (nothing.trans after)
  · exact .inr ⟨host, after.dialled.trans dialled, heard.andThen after⟩

theorem Sent.unheard {out : List (Nat × Json)} (sent : Sent task link job ask c out c') :
    Unheard c c' := by
  cases sent with
  | refused closed => exact .of_links_eq rfl rfl rfl
  | withdrawn registered reason => exact .of_links_eq rfl rfl rfl
  | posted registered fits taken => exact ⟨rfl, rfl, map_modify_of_same _ _ fun _ => rfl⟩

namespace Client

theorem send_unheard (c : Client) (task link : Nat) (job : Job) (ask : Relay.Ask) :
    Unheard c (c.send task link job ask) := by
  obtain ⟨out, sent⟩ := send_sent c task link job ask
  exact sent.unheard

theorem letGo_unheard (c : Client) (task : Nat) (phase : Phase) :
    Unheard c ((c.letGo task).setPhase task phase) := by
  unfold letGo
  split <;> exact .of_links_eq rfl rfl rfl

theorem concludeAttempt_heard (c : Client) (task : Nat) (job : Job) (ask : Relay.Ask)
    (host : String) (answer : Option (Except Failure FreshPort)) :
    (c.concludeAttempt task job ask host answer).dialled = c.dialled ∧
      Heard c host answer (c.concludeAttempt task job ask host answer) := by
  match answer with
  | none => exact ⟨rfl, by simp [concludeAttempt], by simp [concludeAttempt]⟩
  | some (.error e) =>
      exact ⟨rfl, by simp [concludeAttempt, finish, setPhase, release],
        by simp [concludeAttempt, finish, release, hosts, Except.toOption]⟩
  | some (.ok fresh) =>
      unfold concludeAttempt
      have sent := fun d : Client => d.send_unheard task c.links.length job ask
      refine ⟨(sent _).dialled, (sent _).opened.trans ?_, (sent _).hosts.trans ?_⟩
      · simp [release]
      · simp [release, hosts, Except.toOption]

theorem withLock_asks (c : Client) (task : Nat) (job : Job) (dial : Dial) :
    Asks c dial (c.withLock task job dial) := by
  unfold withLock
  cases job.ask? with
  | none =>
      left
      unfold disconnect
      cases c.current <;> exact .of_links_eq rfl rfl rfl
  | some ask =>
      dsimp only
      unfold connect
      cases c.live? with
      | some link =>
          have released : Unheard c c.release := .of_links_eq rfl rfl rfl
          exact .inl (released.trans (send_unheard ..))
      | none =>
          right
          obtain ⟨dialled, heard⟩ := concludeAttempt_heard
            (({ c with connecting := true, dialled := c.dialled ++ [c.config.hostName c.settings] }
              ).setPhase task (.opening (c.config.hostName c.settings)))
            task job ask (c.config.hostName c.settings) (dial (c.config.hostName c.settings))
          exact ⟨_, dialled, heard.opened, heard.hosts⟩

theorem askLock_asks (c : Client) (task : Nat) (job : Job) (dial : Dial) :
    Asks c dial (c.askLock task job dial) := by
  unfold askLock
  generalize c.lock.acquire task = asked
  obtain ⟨free, lock⟩ := asked
  cases free with
  | false => exact .inl (.of_links_eq rfl rfl rfl)
  | true =>
      have taken : Unheard c { c with lock } := .of_links_eq rfl rfl rfl
      exact (withLock_asks { c with lock } task job dial).of_unheard taken

theorem start_asks (c : Client) (task : Nat) (job : Job) (dial : Dial) :
    Asks c dial (c.start task job dial) := by
  unfold start
  cases job with
  | disconnect => exact c.askLock_asks task _ dial
  | call method params limited =>
      dsimp only
      cases c.live? with
      | some link => exact .inl (c.send_unheard ..)
      | none => exact c.askLock_asks task _ dial
  | relay message =>
      dsimp only
      cases Relay.Ask.decode message with
      | error e => exact .inl (.of_links_eq rfl rfl rfl)
      | ok ask =>
          dsimp only
          cases c.live? with
          | some link => exact .inl (c.send_unheard ..)
          | none => exact c.askLock_asks task _ dial

/-- A task that asks the connector may hear from it, and any other one may ask it. -/
theorem proceed_hears {t : Task} (h : Asked c) (found : c.tasks[task]? = some t) (dial : Dial) :
    (∃ host, t.phase = .opening host ∧ (c.proceed task t dial).dialled = c.dialled ∧
      Heard c host (dial host) (c.proceed task t dial)) ∨
    (∀ host, t.phase ≠ .opening host) ∧ Asks c dial (c.proceed task t dial) := by
  obtain ⟨job, phase⟩ := t
  have idle : Asks c dial c := .inl (.refl c)
  unfold proceed
  cases phase with
  | fresh => exact .inr ⟨by simp, c.start_asks task job dial⟩
  | queued =>
      refine .inr ⟨by simp, ?_⟩
      dsimp only
      split
      · exact c.withLock_asks task job dial
      · exact idle
  | opening host =>
      obtain ⟨ask, asks⟩ := h task host (phase?_of_found found)
      rw [ask?_of_found found] at asks
      refine .inl ⟨host, rfl, ?_⟩
      simp only [asks]
      exact c.concludeAttempt_heard task job ask host (dial host)
  | awaiting call =>
      refine .inr ⟨by simp, ?_⟩
      dsimp only
      split
      · exact .inl (.of_links_eq rfl rfl rfl)
      · exact idle
  | done outcome => exact .inr ⟨by simp, idle⟩
  | cancelled => exact .inr ⟨by simp, idle⟩

theorem step_unheard (c : Client) (task : Nat) {t : Task} (found : c.tasks[task]? = some t)
    (dial : Dial) (timeUp : Bool) : Unheard (c.proceed task t dial) (c.step task dial timeUp) := by
  unfold step
  rw [found]
  dsimp only
  split
  · split
    · exact letGo_unheard ..
    · exact .refl _
  · exact .refl _

theorem step_hears (h : Asked c) (task : Nat) (dial : Dial) (timeUp : Bool) :
    (∃ host, c.phase? task = some (.opening host) ∧ (c.step task dial timeUp).dialled = c.dialled ∧
      Heard c host (dial host) (c.step task dial timeUp)) ∨
    (∀ host, c.phase? task ≠ some (.opening host)) ∧ Asks c dial (c.step task dial timeUp) := by
  cases found : c.tasks[task]? with
  | none =>
      have stays : c.step task dial timeUp = c := by simp [step, found]
      rw [stays]
      exact .inr ⟨by simp [phase?, found], .inl (.refl c)⟩
  | some t =>
      have after := c.step_unheard task found dial timeUp
      have phase := phase?_of_found found
      rcases proceed_hears h found dial with ⟨host, opening, dialled, heard⟩ | ⟨others, asks⟩
      · exact .inl ⟨host, by rw [phase, opening], after.dialled.trans dialled, heard.andThen after⟩
      · refine .inr ⟨fun host => ?_, asks.andThen after⟩
        rw [phase]
        exact fun same => others host (Option.some.inj same)

/-! ### Events -/

theorem endLink_unheard (c : Client) (link : Nat) (reason : String) :
    Unheard c (c.endLink link reason) := ⟨rfl, rfl, map_modify_of_same _ _ fun _ => rfl⟩

theorem endIf_unheard (c : Client) (link : Nat) (reason? : Option String) :
    Unheard c (c.endIf link reason?) := by
  cases reason? with
  | none => exact .refl c
  | some reason => exact c.endLink_unheard link reason

theorem attend_unheard (c : Client) (link : Nat) (most : Option Nat) :
    Unheard c (c.attend link most) := by
  cases found : c.links[link]? with
  | none => simpa [attend, found] using Unheard.refl c
  | some l =>
      cases attended : l.attended with
      | false => simpa [attend, found, attended] using Unheard.refl c
      | true =>
          rw [attend_eq found attended]
          refine Unheard.trans ?_ (endIf_unheard ..)
          exact ⟨rfl, rfl, map_modify_of_same _ _ fun _ => rfl⟩

theorem onPort_unheard (c : Client) {α : Type} (link : Nat) (act : Port → α × Port) (absent : α) :
    Unheard c (c.onPort link act absent).2 := by
  unfold onPort
  split
  · exact .refl c
  · split
    · exact .refl c
    · exact ⟨rfl, rfl, map_modify_of_same _ _ fun _ => rfl⟩

/-- In an event nothing is heard of the connector, or what it says of one host, and then it answers
an attempt exactly if it says something. -/
theorem happen_hears (h : Asked c) (e : Event) :
    (∀ host answer, ¬ c.Answered e host answer) ∧ Unheard c (c.happen e) ∨
      ∃ host said, Heard c host said (c.happen e) ∧
        ∀ other answer, c.Answered e other answer ↔ other = host ∧ said = some answer := by
  have unheard : ∀ {d : Client}, (∀ task dial timeUp, e ≠ .step task dial timeUp) → Unheard c d →
      (∀ host answer, ¬ c.Answered e host answer) ∧ Unheard c d := by
    rintro d other nothing
    refine ⟨?_, nothing⟩
    rintro host answer ⟨task, dial, timeUp, rfl, -⟩
    exact other task dial timeUp rfl
  cases e with
  | spawn job => exact .inl (unheard (by simp) (.of_links_eq rfl rfl rfl))
  | cancel task =>
      refine .inl (unheard (by simp) ?_)
      show Unheard c (c.cancel task)
      unfold cancel
      split
      · exact .refl c
      · exact letGo_unheard ..
  | attend link most => exact .inl (unheard (by simp) (c.attend_unheard link most))
  | peer link act => exact .inl (unheard (by simp) (c.onPort_unheard link _ ()))
  | configure settings => exact .inl (unheard (by simp) (.of_links_eq rfl rfl rfl))
  | step task dial timeUp =>
      rcases step_hears h task dial timeUp with
        ⟨host, opening, dialled, heard⟩ | ⟨others, nothing | ⟨host, dialled, heard⟩⟩
      · refine .inr ⟨host, dial host, heard, fun other answer => ⟨?_, ?_⟩⟩
        · rintro ⟨_, _, _, ⟨⟩, said, before | further⟩
          · rw [opening] at before
            cases before
            exact ⟨rfl, said⟩
          · rw [happen, dialled] at further
            simp at further
        · rintro ⟨rfl, said⟩
          exact ⟨task, dial, timeUp, rfl, said, .inl opening⟩
      · refine .inl ⟨?_, nothing⟩
        rintro host answer ⟨_, _, _, ⟨⟩, -, before | further⟩
        · exact others host before
        · rw [happen, nothing.dialled] at further
          simp at further
      · refine .inr ⟨host, dial host, heard, fun other answer => ⟨?_, ?_⟩⟩
        · rintro ⟨_, _, _, ⟨⟩, said, before | further⟩
          · exact absurd before (others other)
          · rw [happen, dialled] at further
            obtain rfl : host = other := by simpa using further
            exact ⟨rfl, said⟩
        · rintro ⟨rfl, said⟩
          exact ⟨task, dial, timeUp, rfl, said, .inr dialled⟩

theorem happen_opened (h : Asked c) (e : Event) :
    (c.happen e).opened = true ↔ c.opened = true ∨ ∃ host answer, c.Answered e host answer := by
  rcases happen_hears h e with ⟨none, nothing⟩ | ⟨host, said, heard, answered⟩
  · simp [nothing.opened, none]
  · rw [heard.opened, Bool.or_eq_true, Option.isSome_iff_exists]
    refine or_congr_right ⟨?_, ?_⟩
    · rintro ⟨answer, told⟩
      exact ⟨host, answer, (answered host answer).mpr ⟨rfl, told⟩⟩
    · rintro ⟨other, answer, told⟩
      exact ⟨answer, ((answered other answer).mp told).2⟩

/-- A further connection is made when the connector answers an attempt with a port. -/
theorem happen_hosts (h : Asked c) (e : Event) :
    (c.happen e).hosts = c.hosts ∨
      ∃ host fresh, c.Answered e host (.ok fresh) ∧ (c.happen e).hosts = c.hosts ++ [host] := by
  rcases happen_hears h e with ⟨-, nothing⟩ | ⟨host, said, heard, answered⟩
  · exact .inl nothing.hosts
  · rw [heard.hosts]
    match said with
    | none => exact .inl (by simp)
    | some (.error e) => exact .inl (by simp [Except.toOption])
    | some (.ok fresh) =>
        exact .inr ⟨host, fresh, (answered _ _).mpr ⟨rfl, rfl⟩, by simp [Except.toOption]⟩

/-! ### Runs -/

theorem attempted_cons {e : Event} {es : List Event} :
    c.Attempted (e :: es) ↔
      (∃ host answer, c.Answered e host answer) ∨ (c.happen e).Attempted es := by
  constructor
  · rintro ⟨before, e', after, host, answer, shape, answered⟩
    cases before with
    | nil =>
        cases shape
        exact .inl ⟨host, answer, answered⟩
    | cons first before =>
        cases shape
        exact .inr ⟨before, e', after, host, answer, rfl, answered⟩
  · rintro (⟨host, answer, answered⟩ | ⟨before, e', after, host, answer, rfl, answered⟩)
    · exact ⟨[], e, es, host, answer, rfl, answered⟩
    · exact ⟨e :: before, e', after, host, answer, rfl, answered⟩

theorem run_opened (h : Asked c) (es : List Event) :
    (c.run es).opened = true ↔ c.opened = true ∨ c.Attempted es := by
  induction es generalizing c with
  | nil =>
      have never : ¬ c.Attempted [] := by
        rintro ⟨before, e, after, -, -, shape, -⟩
        simp at shape
      exact (or_iff_left never).symm
  | cons e es ih =>
      have next : Asked (c.happen e) := h.run [e]
      show ((c.happen e).run es).opened = true ↔ _
      rw [ih next, happen_opened h, attempted_cons, or_assoc]

theorem run_hosts (h : Asked c) (es : List Event) : ∃ more, (c.run es).hosts = c.hosts ++ more := by
  induction es generalizing c with
  | nil => exact ⟨[], (List.append_nil _).symm⟩
  | cons e es ih =>
      have next : Asked (c.happen e) := h.run [e]
      obtain ⟨more, later⟩ := ih next
      show ∃ more, ((c.happen e).run es).hosts = _
      rw [later]
      rcases happen_hosts h e with same | ⟨host, -, -, further⟩
      · exact ⟨more, by rw [same]⟩
      · exact ⟨host :: more, by rw [further, List.append_assoc]; rfl⟩

/-- Each connection was made when the connector answered an attempt with a port. -/
theorem exists_answered (h : Asked c) {es : List Event} (before : c.links.length ≤ link)
    (inside : link < (c.run es).links.length) :
    ∃ earlier e later host fresh, es = earlier ++ e :: later ∧
      (c.run earlier).links.length = link ∧ (c.run (earlier ++ [e])).links.length = link + 1 ∧
      (c.run earlier).Answered e host (.ok fresh) ∧ (c.run es).hosts[link]? = some host := by
  have count : ∀ d : Client, d.hosts.length = d.links.length := fun _ => List.length_map _
  induction es generalizing c with
  | nil => exact absurd inside (Nat.not_lt_of_le before)
  | cons e es ih =>
      have next : Asked (c.happen e) := h.run [e]
      rcases happen_hosts h e with same | ⟨host, fresh, answered, further⟩
      · have stays : (c.happen e).links.length = c.links.length := by
          rw [← count, same, count]
        obtain ⟨earlier, e', later, host, fresh, rfl, rest⟩ :=
          ih next (stays ▸ before) inside
        exact ⟨e :: earlier, e', later, host, fresh, rfl, rest⟩
      · have grows : (c.happen e).links.length = c.links.length + 1 := by
          rw [← count, further, List.length_append, count]
          rfl
        rcases Nat.eq_or_lt_of_le before with rfl | beyond
        · obtain ⟨more, last⟩ := run_hosts next es
          refine ⟨[], e, es, host, fresh, rfl, rfl, grows, answered, ?_⟩
          show ((c.happen e).run es).hosts[_]? = _
          rw [last, further, ← count]
          simp
        · obtain ⟨earlier, e', later, host, fresh, rfl, rest⟩ :=
            ih next (grows ▸ beyond) inside
          exact ⟨e :: earlier, e', later, host, fresh, rfl, rest⟩

end Client

/-- A task asks the connector for the host for which it was asked last. -/
def AsksLast (c : Client) : Prop :=
  ∀ task host, c.phase? task = some (.opening host) → c.dialled.getLast? = some host

/-- Who asks has asked before, or asks now. -/
theorem Move.opening (h : Linked c) {out : List (Nat × Json)} (move : Move task c out c') {t : Nat}
    (opening : c'.phase? t = some (.opening host)) :
    c.phase? t = some (.opening host) ∧ c'.dialled = c.dialled ∨
      c'.dialled = c.dialled ++ [host] := by
  cases move with
  | refuse found unread => exact .inl ⟨(opening_of_setPhase opening trivial).2, rfl⟩
  | queue found held => exact .inl ⟨(opening_of_setPhase opening trivial).2, rfl⟩
  | send found asks live sent => exact .inl ⟨(sent.opening opening).2, sent.dialled⟩
  | sendLocked found asks grants live sent => exact .inl ⟨(sent.opening opening).2, sent.dialled⟩
  | dial found asks grants dead =>
      rw [(grants.goes found).after] at opening
      split at opening
      · cases opening
        exact .inr rfl
      · exact absurd opening (h.not_opening_of_grants found grants)
  | fail found asks => exact .inl ⟨(opening_of_setPhase opening trivial).2, rfl⟩
  | connect found asks sent => exact .inl ⟨(sent.opening opening).2, sent.dialled⟩
  | disconnect found asks grants =>
      have before := (opening_of_setPhase opening trivial).2
      exact .inl ⟨(Client.phase?_of_tasks_eq c.giveUp_tasks t).symm.trans before, c.giveUp_dialled⟩
  | answer found told => exact .inl ⟨(opening_of_setPhase opening trivial).2, rfl⟩
  | expire found waits limited limit =>
      have before := (opening_of_setPhase opening trivial).2
      exact .inl ⟨(Client.phase?_of_tasks_eq (c.letGo_tasks task) t).symm.trans before,
        c.letGo_dialled task⟩

namespace AsksLast

theorem move (h : AsksLast c) (linked : Linked c) {out : List (Nat × Json)}
    (move : Move task c out c') : AsksLast c' := by
  intro t host opening
  rcases move.opening linked opening with ⟨before, same⟩ | further
  · rw [same]
    exact h t host before
  · simp [further]

theorem quietly (h : AsksLast c) (quietly : Quietly c c') : AsksLast c' := by
  intro t host opening
  cases quietly with
  | spawned job =>
      exact h t host (((c.spawn_phase? job).mp opening).resolve_right (by simp))
  | @cancelled task k found waits =>
      have before := (opening_of_setPhase opening trivial).2
      rw [Client.phase?_of_tasks_eq (c.letGo_tasks task)] at before
      show (c.letGo task).dialled.getLast? = _
      rw [c.letGo_dialled task]
      exact h t host before
  | quiet quiet =>
      rw [Client.phase?_of_tasks_eq quiet.tasks] at opening
      rw [quiet.dialled]
      exact h t host opening

theorem happen (h : AsksLast c) (linked : Linked c) (e : Event) : AsksLast (c.happen e) :=
  (Client.happen_keeps (P := fun a => Linked a ∧ AsksLast a)
    (fun holds move => ⟨holds.1.move move, holds.2.move holds.1 move⟩) ⟨linked, h⟩ e
    fun quietly => ⟨linked.happen e, h.quietly quietly⟩).2

theorem run (h : AsksLast c) (linked : Linked c) (es : List Event) : AsksLast (c.run es) := by
  induction es generalizing c with
  | nil => exact h
  | cons e es ih => exact ih (h.happen linked e) (linked.happen e)

end AsksLast

theorem asksLast_fresh (config : Config) (settings : Settings) :
    AsksLast (Client.fresh config settings) := by
  intro task host opening
  simp [Client.phase?, Client.fresh] at opening

/-- The connector answers the attempt for which it was asked last. -/
theorem dialled_of_answered (linked : Linked c) (last : AsksLast c) {e : Event}
    {said : Except Failure FreshPort} (answered : c.Answered e host said) :
    (c.happen e).dialled.getLast? = some host := by
  obtain ⟨task, dial, timeUp, rfl, -, opening | further⟩ := answered
  · have busy : ¬ c.Idle := fun idle => idle.quiet ⟨task, host, opening⟩
    rw [(Client.happen_turn linked _).dialled_of_not_idle busy]
    exact last task host opening
  · simp [further]

/-! ### What can be seen of a client -/

/-- Calls use the connection that is open. -/
theorem Linked.live?_eq_some_iff (h : Linked c) :
    c.live? = some link ↔ link < c.links.length ∧ (c.board.exchange link).isOpen = true := by
  rw [Client.live?_eq_some_iff]
  constructor
  · rintro ⟨current, opened⟩
    exact ⟨(h.connections.current_open current).1, by simp [Exchange.isOpen, opened]⟩
  · rintro ⟨inside, opened⟩
    exact ⟨h.current_of_isOpen inside opened, by simpa [Exchange.isOpen] using opened⟩

theorem Linked.connecting_dead (h : Linked c) (lined : Lined c) (connecting : c.connecting = true) :
    c.current = none := by
  obtain ⟨task, host, opening⟩ := lined.connecting_iff.mp connecting
  exact (h.opening opening).2

theorem Client.state_eq_connecting_iff (c : Client) :
    c.state = .connecting ↔ c.connecting = true := by
  unfold state
  cases c.connecting <;> cases c.live?.isSome <;> cases c.opened <;> simp

theorem Linked.state_eq_ready_iff (h : Linked c) (lined : Lined c) :
    c.state = .ready ↔ c.live?.isSome := by
  unfold Client.state
  cases connecting : c.connecting with
  | true =>
      have dead : c.live? = none := by simp [Client.live?, h.connecting_dead lined connecting]
      simp [dead]
  | false => cases live : c.live? <;> cases opened : c.opened <;> simp

/-- Without a connection, and without an attempt in flight, it counts whether one has run to its
end. -/
theorem Client.state_of_dead {c : Client} (dead : c.live? = none) (idle : c.connecting = false) :
    (c.state = .unconnected ↔ ¬ c.opened = true) ∧ (c.state = .closed ↔ c.opened = true) := by
  unfold Client.state
  cases c.opened <;> simp [idle, dead]

/-- A client that has made an attempt is not unconnected. -/
theorem Client.state_ne_unconnected {c : Client} (opened : c.opened = true) :
    c.state ≠ .unconnected := by
  unfold Client.state
  rw [opened]
  split
  · simp
  · split <;> simp

/-- Calls wait on an open connection only. -/
theorem Linked.pendingCount_of_dead (h : Linked c) (dead : c.live? = none) :
    c.pendingCount = 0 := by
  have none : c.current = none := by
    refine Option.eq_none_iff_forall_ne_some.mpr fun link current => ?_
    have live := Client.live?_eq_some_iff.mpr ⟨current, (h.connections.current_open current).2⟩
    rw [dead] at live
    cases live
  simp [Client.pendingCount, none]

/-- The host that a client names is the one of its open connection. -/
theorem Client.host?_eq_bind (c : Client) : c.host? = c.live?.bind fun link => c.hosts[link]? := by
  simp only [Client.host?, Client.hosts, List.getElem?_map]

/-- The open connection was made by an attempt, for the host that the client names. -/
theorem exists_attempt_of_live {config : Config} {settings : Settings} {es : List Event}
    (live : ((Client.fresh config settings).run es).live? = some link) :
    ∃ host, ((Client.fresh config settings).run es).host? = some host ∧
      ∃ before e after fresh, es = before ++ e :: after ∧
        ((Client.fresh config settings).run before).Answered e host (.ok fresh) ∧
        ((Client.fresh config settings).run before).links.length = link ∧
        ((Client.fresh config settings).run (before ++ [e])).links.length = link + 1 ∧
        ((Client.fresh config settings).run (before ++ [e])).dialled.getLast? = some host := by
  have linked : Linked ((Client.fresh config settings).run es) :=
    (linked_fresh config settings).run es
  have inside := (linked.live?_eq_some_iff.mp live).1
  obtain ⟨before, e, after, host, fresh, rfl, first, grows, answered, named⟩ :=
    Client.exists_answered (asked_fresh config settings) (Nat.zero_le link) inside
  have dialled := dialled_of_answered ((linked_fresh config settings).run before)
    ((asksLast_fresh config settings).run (linked_fresh config settings) before) answered
  refine ⟨host, ?_, before, e, after, fresh, rfl, answered, first, grows, ?_⟩
  · rw [Client.host?_eq_bind, live]
    exact named
  · rw [Client.run_append]
    exact dialled

end

/-- What a client says of its state is what has happened to it. It is connecting while a connect
call is in flight. Otherwise it is ready while a connection is open. Otherwise it is unconnected if
no attempt to connect has run to its end, and closed if one has. It names a host exactly while it is
ready, and that is the host for which the connector was asked when it made the connection. Nobody
waits unless the client is ready, and a client that has made an attempt is never unconnected
again. -/
theorem state_tells_what_happened (config : Config) (settings : Settings) (es : List Event) :
    let start := Client.fresh config settings
    let c := start.run es
    (c.state = .connecting ↔ c.IsOpening) ∧
    (¬ c.IsOpening →
      (c.state = .ready ↔ ∃ link, link < c.links.length ∧ (c.board.exchange link).isOpen = true) ∧
      ((∀ link, link < c.links.length → (c.board.exchange link).isOpen = false) →
        (c.state = .unconnected ↔ ¬ start.Attempted es) ∧
        (c.state = .closed ↔ start.Attempted es))) ∧
    (c.host?.isSome ↔ c.state = .ready) ∧
    (∀ host, c.host? = some host → ∃ before e after fresh,
      es = before ++ e :: after ∧ (start.run before).Answered e host (.ok fresh) ∧
      (start.run (before ++ [e])).dialled.getLast? = some host ∧
      let link := (start.run before).links.length
      (start.run (before ++ [e])).links.length = link + 1 ∧
      (c.board.exchange link).isOpen = true) ∧
    (c.state ≠ .ready → c.pendingCount = 0) ∧
    (start.Attempted es → ∀ more, (c.run more).state ≠ .unconnected) := by
  intro start c
  have linked : Linked c := (linked_fresh config settings).run es
  have lined : Lined c := (lined_fresh config settings).run (linked_fresh config settings) es
  have ready_iff := linked.state_eq_ready_iff lined
  have opened_iff : c.opened = true ↔ start.Attempted es :=
    (Client.run_opened (asked_fresh config settings) es).trans (or_iff_right Bool.false_ne_true)
  refine ⟨c.state_eq_connecting_iff.trans lined.connecting_iff, fun quiet => ⟨?_, fun dead => ?_⟩,
    ?_, fun host named => ?_, fun other => ?_, fun attempted more => ?_⟩
  · rw [ready_iff, Option.isSome_iff_exists]
    exact exists_congr fun link => linked.live?_eq_some_iff
  · have none : c.live? = none := by
      refine Option.eq_none_iff_forall_ne_some.mpr fun link live => ?_
      obtain ⟨inside, opened⟩ := linked.live?_eq_some_iff.mp live
      rw [dead link inside] at opened
      cases opened
    have idle : c.connecting = false := by
      rw [← Bool.not_eq_true, lined.connecting_iff]
      exact quiet
    rw [← opened_iff]
    exact Client.state_of_dead none idle
  · rw [ready_iff]
    cases live : c.live? with
    | none => simp [Client.host?_eq_bind, live]
    | some link =>
        obtain ⟨host, named, -⟩ := exists_attempt_of_live live
        rw [named]
        rfl
  · cases live : c.live? with
    | none => simp [Client.host?_eq_bind, live] at named
    | some link =>
        obtain ⟨host', named', before, e, after, fresh, shape, answered, first, grows, dialled⟩ :=
          exists_attempt_of_live live
        obtain rfl : host' = host := Option.some.inj (named'.symm.trans named)
        refine ⟨before, e, after, fresh, shape, answered, dialled, ?_⟩
        rw [first]
        exact ⟨grows, (linked.live?_eq_some_iff.mp live).2⟩
  · refine linked.pendingCount_of_dead (Option.not_isSome_iff_eq_none.mp fun live => ?_)
    exact other (ready_iff.mpr live)
  · exact Client.state_ne_unconnected ((Client.run_opened ((asked_fresh config settings).run es)
      more).mpr (.inl (opened_iff.mpr attempted)))

/-- An attempt that is dropped, one that makes a connection, which is lost, and one that fails. -/
def stages : List Event :=
  [.spawn (.call "status" .null false), .step 0 (fun _ => none) false, .cancel 0,
    .spawn (.call "status" .null false), .step 1 (fun _ => some (.ok .untouched)) false,
    .peer 0 .drop, .attend 0 none,
    .spawn (.call "status" .null false),
    .step 2 (fun host => some (.error (.hostNotFound host))) false]

/-- The attempt that was dropped does not count, and the client is closed when the others have. -/
theorem dropped_attempt_does_not_count :
    let start := Client.fresh {} (.stored {})
    (start.run (stages.take 2)).state = .connecting ∧ ¬ start.Attempted (stages.take 3) ∧
      (start.run (stages.take 5)).host? = some (Config.hostName {} (.stored {})) ∧
      (start.run (stages.take 5)).pendingCount = 1 ∧ start.Attempted stages := by
  obtain ⟨connecting, told, -⟩ := state_tells_what_happened {} (.stored {}) (stages.take 3)
  obtain ⟨connecting', told', -⟩ := state_tells_what_happened {} (.stored {}) stages
  have dropped : ((Client.fresh {} (.stored {})).run (stages.take 3)).state = .unconnected := by
    decide
  have failed : ((Client.fresh {} (.stored {})).run stages).state = .closed := by decide
  have none : ((Client.fresh {} (.stored {})).run (stages.take 3)).links.length = 0 := by decide
  have one : ((Client.fresh {} (.stored {})).run stages).links.length = 1 := by decide
  have lost : (((Client.fresh {} (.stored {})).run stages).board.exchange 0).isOpen = false := by
    decide
  have first := told fun opening => by
    rw [connecting.mpr opening] at dropped
    cases dropped
  have last := told' fun opening => by
    rw [connecting'.mpr opening] at failed
    cases failed
  refine ⟨by decide, (first.2 fun link inside => ?_).1.mp dropped, by decide, by decide,
    (last.2 fun link inside => ?_).2.mp failed⟩
  · rw [none] at inside
    exact absurd inside (Nat.not_lt_zero link)
  · rw [one] at inside
    rw [Nat.lt_one_iff.mp inside]
    exact lost

end RpcLink.Native
