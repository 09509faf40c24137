import RpcLink.Proofs.Config.Changes
import RpcLink.Proofs.Native.Status
import RpcLink.Proofs.Native.Unsent

/-!
Clients of native hosts while the settings and the registered hosts change. Whatever is looked up is
looked up among what is there at that moment. An attempt to connect looks the host up once, when it
begins, and the connection that comes of it keeps that host.
-/

namespace RpcLink.Native

/-- A client, and the hosts that its connector knows. Both look settings up at one place, and that
is where they are changed. -/
structure Session where
  client : Client
  hosts : Hosts := {}

/-- What happens in a session: the settings or the hosts change, or something else happens to the
client. -/
inductive Happening where
  | change (change : Change)
  | client (e : Event) (apart : e.configures = false)

/-- The changes of a history, in order. -/
def changes (history : List Happening) : List Change :=
  history.filterMap fun
    | .change change => some change
    | .client .. => none

namespace Session

/-- A session in which nothing has happened. -/
def fresh (config : Config) (settings : Settings) : Session :=
  { client := Client.fresh config settings }

def whereabouts (s : Session) : Whereabouts := { settings := s.client.settings, hosts := s.hosts }

def happen (s : Session) : Happening → Session
  | .change (.put name value) =>
      { s with client := s.client.happen (.configure (s.client.settings.put name value)) }
  | .change (.register name command) => { s with hosts := s.hosts.register name command }
  | .client e _ => { s with client := s.client.happen e }

def run (s : Session) (history : List Happening) : Session := history.foldl happen s

/-! ### What is looked up -/

/-- The server's program. -/
def program (s : Session) : String := s.client.config.command s.client.settings

/-- The native host. -/
def hostName (s : Session) : String := s.client.config.hostName s.client.settings

/-- What a key has as its setting after a history, as far as the changes in it tell. -/
def settingAfter (s : Session) (history : List Happening) (key : String) : Option String :=
  s.whereabouts.settingAfter (changes history) key

/-- The command that starts a host. -/
def launch (s : Session) (name : String) : Except Failure Launch :=
  s.hosts.launch s.client.config s.client.settings name

end Session

/-- The host for which a task asks the connector, if it asks it now: the one with which its attempt
began, or else the one that is looked up now. -/
def Client.wanted (c : Client) (task : Nat) : String :=
  match c.phase? task with
  | some (.opening host) => host
  | _ => c.config.hostName c.settings

section

variable {c c' : Client} {task link : Nat} {job : Job} {ask : Relay.Ask} {dial dial' : Dial}
  {host : String} {history : List Happening}

/-! ### What the connector is asked for -/

/-- A task asks the connector for the host that is looked up then, or not at all. -/
theorem Move.dials {out : List (Nat × Json)} (move : Move task c out c') :
    c'.dialled = c.dialled ∨ c'.dialled = c.dialled ++ [c.config.hostName c.settings] := by
  cases move with
  | refuse found unread => exact .inl rfl
  | queue found held => exact .inl rfl
  | send found asks live sent => exact .inl sent.dialled
  | sendLocked found asks grants live sent => exact .inl sent.dialled
  | dial found asks grants dead => exact .inr rfl
  | fail found asks => exact .inl rfl
  | connect found asks sent => exact .inl sent.dialled
  | disconnect found asks grants => exact .inl c.giveUp_dialled
  | answer found told => exact .inl rfl
  | expire found waits limited limit => exact .inl (c.letGo_dialled task)

namespace Client

/-- However often a task asks in a step, it asks for the host that is looked up then. -/
theorem step_asks (c : Client) (task : Nat) (dial : Dial) (timeUp : Bool) :
    ∃ n, (c.step task dial timeUp).dialled =
      c.dialled ++ List.replicate n (c.config.hostName c.settings) := by
  have start : ∃ n, c.dialled = c.dialled ++ List.replicate n (c.config.hostName c.settings) :=
    ⟨0, (List.append_nil _).symm⟩
  refine (step_keeps (P := fun a => a.told = c.told ∧ ∃ n, a.dialled =
    c.dialled ++ List.replicate n (c.config.hostName c.settings)) ?_ ⟨rfl, start⟩ dial timeUp).2
  rintro a out b ⟨told, n, asked⟩ move
  have config : a.config = c.config := congrArg Prod.fst told
  have settings : a.settings = c.settings := congrArg Prod.snd told
  refine ⟨move.told.trans told, ?_⟩
  rcases move.dials with same | further
  · exact ⟨n, same.trans asked⟩
  · refine ⟨n + 1, ?_⟩
    rw [further, asked, config, settings, List.replicate_succ', List.append_assoc]

theorem happen_dials (linked : Linked c) (e : Event) :
    (c.happen e).dialled = c.dialled ∨
      (c.happen e).dialled = c.dialled ++ [c.config.hostName c.settings] := by
  rcases c.happen_cases e with ⟨task, dial, timeUp, rfl⟩ | quietly
  · rcases (happen_turn linked (.step task dial timeUp)).dials with same | ⟨⟨host, one⟩, -⟩
    · exact .inl same
    · obtain ⟨n, asked⟩ := c.step_asks task dial timeUp
      have alike := List.append_cancel_left (one.symm.trans asked)
      obtain rfl : host = c.config.hostName c.settings :=
        List.eq_of_mem_replicate (alike ▸ List.mem_singleton_self host)
      exact .inr one
  · left
    generalize c.happen e = b at quietly
    cases quietly with
    | spawned job => rfl
    | cancelled found waits => exact c.letGo_dialled _
    | quiet quiet => exact quiet.dialled

theorem run_dialled (linked : Linked c) (es : List Event) :
    ∃ more, (c.run es).dialled = c.dialled ++ more := by
  induction es generalizing c with
  | nil => exact ⟨[], (List.append_nil _).symm⟩
  | cons e es ih =>
      obtain ⟨more, later⟩ := ih (linked.happen e)
      rcases happen_dials linked e with same | further
      · exact ⟨more, later.trans (by rw [same])⟩
      · exact ⟨_ :: more, later.trans (by rw [further, List.append_assoc]; rfl)⟩

/-! What the connector says of other hosts plays no part. -/

theorem withLock_congr (same : dial (c.config.hostName c.settings) =
    dial' (c.config.hostName c.settings)) :
    c.withLock task job dial = c.withLock task job dial' := by
  unfold withLock
  cases job.ask? with
  | none => rfl
  | some ask =>
      dsimp only
      unfold connect
      cases c.live? with
      | some link => rfl
      | none => exact congrArg (concludeAttempt _ task job ask _) same

theorem askLock_congr (same : dial (c.config.hostName c.settings) =
    dial' (c.config.hostName c.settings)) :
    c.askLock task job dial = c.askLock task job dial' := by
  unfold askLock
  generalize c.lock.acquire task = asked
  obtain ⟨free, lock⟩ := asked
  cases free with
  | false => rfl
  | true => exact withLock_congr (c := { c with lock }) same

theorem start_congr (same : dial (c.config.hostName c.settings) =
    dial' (c.config.hostName c.settings)) :
    c.start task job dial = c.start task job dial' := by
  have asks : c.askLock task job dial = c.askLock task job dial' := askLock_congr same
  unfold start
  split
  · exact asks
  · split
    · rfl
    · exact asks
  · split
    · rfl
    · split
      · rfl
      · exact asks

theorem step_congr (same : dial (c.wanted task) = dial' (c.wanted task)) (timeUp : Bool) :
    c.step task dial timeUp = c.step task dial' timeUp := by
  unfold step
  cases found : c.tasks[task]? with
  | none => rfl
  | some t =>
      have proceeds : c.proceed task t dial = c.proceed task t dial' := by
        unfold wanted at same
        rw [phase?_of_found found] at same
        unfold proceed
        cases phase : t.phase with
        | fresh => exact start_congr (by simpa [phase] using same)
        | queued =>
            dsimp only
            split
            · exact withLock_congr (by simpa [phase] using same)
            · rfl
        | opening host =>
            rw [phase] at same
            dsimp only at same ⊢
            rw [same]
        | _ => rfl
      dsimp only
      rw [proceeds]

/-- A connection keeps its host for as long as it is open. -/
theorem host?_of_live (asked : Asked c) (linked : Linked c) {es : List Event}
    (live : c.live? = some link) (later : (c.run es).live? = some link) :
    (c.run es).host? = c.host? := by
  obtain ⟨more, grown⟩ := run_hosts asked es
  have inside : link < c.hosts.length := by
    rw [hosts, List.length_map]
    exact (linked.live?_eq_some_iff.mp live).1
  rw [host?_eq_bind, host?_eq_bind, live, later, Option.bind_some, Option.bind_some, grown,
    List.getElem?_append_left inside]

/-- The connector was asked for the host of the open connection. -/
theorem mem_dialled_of_host? {config : Config} {settings : Settings} {es : List Event}
    (named : ((fresh config settings).run es).host? = some host) :
    host ∈ ((fresh config settings).run es).dialled := by
  obtain ⟨link, live⟩ : ∃ link, ((fresh config settings).run es).live? = some link := by
    rw [← Option.isSome_iff_exists]
    by_contra dead
    rw [host?_eq_bind, Option.not_isSome_iff_eq_none.mp dead] at named
    cases named
  obtain ⟨other, named', before, e, after, port, rfl, -, -, -, last⟩ := exists_attempt_of_live live
  obtain rfl := Option.some.inj (named.symm.trans named')
  have shape : before ++ e :: after = (before ++ [e]) ++ after := by simp
  rw [shape, run_append]
  obtain ⟨more, grown⟩ := run_dialled ((linked_fresh config settings).run (before ++ [e])) after
  rw [grown]
  exact List.mem_append_left _ (List.mem_of_getLast? last)

end Client

/-! ### Sessions -/

namespace Session

variable {s : Session}

/-- What happens to the client of a session is a run of it. -/
theorem exists_run (s : Session) (history : List Happening) :
    ∃ es, (s.run history).client = s.client.run es := by
  induction history generalizing s with
  | nil => exact ⟨[], rfl⟩
  | cons x history ih =>
      obtain ⟨es, same⟩ := ih (s.happen x)
      match x with
      | .change (.put name value) =>
          exact ⟨.configure (s.client.settings.put name value) :: es, same⟩
      | .change (.register name command) => exact ⟨es, same⟩
      | .client e apart => exact ⟨e :: es, same⟩

theorem run_append (s : Session) (first second : List Happening) :
    s.run (first ++ second) = (s.run first).run second :=
  List.foldl_append ..

theorem run_concat (s : Session) (history : List Happening) (x : Happening) :
    s.run (history ++ [x]) = (s.run history).happen x :=
  List.foldl_concat ..

theorem linked_run (linked : Linked s.client) (history : List Happening) :
    Linked (s.run history).client := by
  obtain ⟨es, same⟩ := s.exists_run history
  exact same ▸ linked.run es

theorem config_run (s : Session) (history : List Happening) :
    (s.run history).client.config = s.client.config := by
  obtain ⟨es, same⟩ := s.exists_run history
  rw [same, Client.run_config]

theorem whereabouts_run (s : Session) (history : List Happening) :
    (s.run history).whereabouts = s.whereabouts.changeAll (changes history) := by
  induction history generalizing s with
  | nil => rfl
  | cons x history ih =>
      refine (ih (s.happen x)).trans ?_
      match x with
      | .change (.put name value) => rfl
      | .change (.register name command) => rfl
      | .client e apart =>
          have settings := congrArg Prod.snd (s.client.happen_told apart)
          have same : (s.happen (.client e apart)).whereabouts = s.whereabouts :=
            congrArg (Whereabouts.mk · s.hosts) settings
          rw [same]
          rfl

theorem get?_run (s : Session) (history : List Happening) (key : String) :
    (s.run history).client.settings.get? key = s.settingAfter history key := by
  rw [settingAfter, ← Whereabouts.get?_changeAll, ← whereabouts_run]
  rfl

theorem program_eq_iff (s : Session) (history : List Happening) {text : String} :
    (s.run history).program = text ↔ Settings.Counts s.client.config.program
      (s.settingAfter history Settings.programKey) Settings.defaultProgram text := by
  rw [← get?_run, ← config_run s history]
  exact Config.command_eq_iff

theorem hostName_eq_iff (s : Session) (history : List Happening) {text : String} :
    (s.run history).hostName = text ↔ Settings.Counts s.client.config.host
      (s.settingAfter history Settings.hostKey) Settings.defaultHost text := by
  rw [← get?_run, ← config_run s history]
  exact Config.hostName_eq_iff

theorem launch_eq_iff (s : Session) (none : s.hosts = {}) (history : List Happening) {name : String}
    {launch : Except Failure Launch} :
    (s.run history).launch name = launch ↔ Launches s.client.config (s.run history).program name
      (newest? (Change.commandOf name) (changes history)) launch := by
  have registered : (s.run history).hosts.entries.lookup name =
      newest? (Change.commandOf name) (changes history) := by
    have found := s.whereabouts.lookup_changeAll (changes history) name
    rw [← whereabouts_run, show s.whereabouts.hosts = {} from none] at found
    exact found.trans Option.or_none
  rw [← registered, ← config_run s history]
  exact Hosts.launch_eq_iff

/-- In an event the connector is not asked, or asked for the host that is looked up then. -/
theorem happen_dials (linked : Linked s.client) (x : Happening) :
    (s.happen x).client.dialled = s.client.dialled ∨
      (s.happen x).client.dialled = s.client.dialled ++ [s.hostName] := by
  match x with
  | .change (.put name value) => exact .inl rfl
  | .change (.register name command) => exact .inl rfl
  | .client e apart => exact Client.happen_dials linked e

/-- Each time that the connector was asked, it was asked for the host that was looked up then. -/
theorem exists_lookup (linked : Linked s.client) (silent : s.client.dialled = []) {i : Nat}
    (asked : (s.run history).client.dialled[i]? = some host) :
    ∃ before x after, history = before ++ x :: after ∧
      (s.run before).client.dialled.length = i ∧
      (s.run (before ++ [x])).client.dialled.length = i + 1 ∧ (s.run before).hostName = host := by
  induction history using List.reverseRecOn with
  | nil =>
      have none : (s.run []).client.dialled = [] := silent
      rw [none] at asked
      cases asked
  | append_singleton history last ih =>
      have earlier : (s.run history).client.dialled[i]? = some host → ∃ before x after,
          history ++ [last] = before ++ x :: after ∧
          (s.run before).client.dialled.length = i ∧
          (s.run (before ++ [x])).client.dialled.length = i + 1 ∧
          (s.run before).hostName = host := by
        intro asked
        obtain ⟨before, x, after, rfl, rest⟩ := ih asked
        exact ⟨before, x, after ++ [last], by simp, rest⟩
      rcases happen_dials (linked_run linked history) last with same | further
      · rw [run_concat, same] at asked
        exact earlier asked
      · rw [run_concat, further] at asked
        rcases Nat.lt_trichotomy i (s.run history).client.dialled.length with less | rfl | more
        · rw [List.getElem?_append_left less] at asked
          exact earlier asked
        · refine ⟨history, last, [], rfl, rfl, ?_, ?_⟩
          · rw [run_concat, further, List.length_append, List.length_singleton]
          · simpa using asked
        · rw [List.getElem?_eq_none (by simp; omega)] at asked
          cases asked

end Session

end

/-- Nothing that is looked up is remembered. The server's program and the native host are what was
given for them when the client was made, or else the setting as it was put last, trimmed, if it
tells something, or else the default. A host is started by the command that was registered for it
last; one that has no program of its own takes the server's, as does the default host if nothing was
registered for it; any other name belongs to no host. Each time that a client asked its connector
for a host, it was for the native host as it was when the attempt began, and the attempt keeps to
it: what the connector says of another one plays no part. No change touches the host of an open
connection, which stays the same for as long as the connection is open, and is one that the
connector was asked for. -/
theorem settings_are_read_when_needed (config : Config) (settings : Settings)
    (history : List Happening) :
    let start := Session.fresh config settings
    let s := start.run history
    (∀ text, s.program = text ↔ Settings.Counts config.program
      (start.settingAfter history Settings.programKey) Settings.defaultProgram text) ∧
    (∀ text, s.hostName = text ↔ Settings.Counts config.host
      (start.settingAfter history Settings.hostKey) Settings.defaultHost text) ∧
    (∀ name launch, s.launch name = launch ↔ Launches config s.program name
      (newest? (Change.commandOf name) (changes history)) launch) ∧
    (∀ (i : Nat) host, s.client.dialled[i]? = some host → ∃ before x after,
      history = before ++ x :: after ∧ (start.run before).client.dialled.length = i ∧
      (start.run (before ++ [x])).client.dialled.length = i + 1 ∧ Settings.Counts config.host
        (start.settingAfter before Settings.hostKey) Settings.defaultHost host) ∧
    (∀ task host, s.client.phase? task = some (.opening host) →
      s.client.dialled.getLast? = some host) ∧
    (∀ task dial dial' timeUp, dial (s.client.wanted task) = dial' (s.client.wanted task) →
      s.client.step task dial timeUp = s.client.step task dial' timeUp) ∧
    (∀ change, (s.happen (.change change)).client.host? = s.client.host?) ∧
    (∀ more link, s.client.live? = some link →
      (start.run (history ++ more)).client.live? = some link →
      (start.run (history ++ more)).client.host? = s.client.host?) ∧
    ∀ host, s.client.host? = some host → host ∈ s.client.dialled := by
  intro start s
  have linked : Linked start.client := linked_fresh config settings
  obtain ⟨es, ran⟩ : ∃ es, s.client = (Client.fresh config settings).run es :=
    start.exists_run history
  refine ⟨fun text => start.program_eq_iff history, fun text => start.hostName_eq_iff history,
    fun name launch => start.launch_eq_iff rfl history, fun i host entry => ?_,
    fun task host opening => ?_, fun task dial dial' timeUp same => Client.step_congr same timeUp,
    fun change => ?_, fun more link live later => ?_, fun host named => ?_⟩
  · obtain ⟨before, x, after, shape, first, grown, looked⟩ :=
      Session.exists_lookup (s := start) linked rfl entry
    exact ⟨before, x, after, shape, first, grown, (start.hostName_eq_iff before).mp looked⟩
  · rw [ran] at opening ⊢
    exact (asksLast_fresh config settings).run linked es task host opening
  · cases change <;> rfl
  · rw [start.run_append] at later ⊢
    obtain ⟨further, same⟩ := s.exists_run more
    rw [same] at later ⊢
    have asked : Asked s.client := ran ▸ (asked_fresh config settings).run es
    exact Client.host?_of_live asked (Session.linked_run linked history) live later
  · rw [ran] at named ⊢
    exact Client.mem_dialled_of_host? named

/-- A host is set, and another one while the attempt to connect is under way. -/
def resettings : List Happening :=
  [.change (.put Settings.hostKey (some " h ")),
    .client (.spawn (.call "status" .null false)) rfl,
    .client (.step 0 (fun _ => none) false) rfl,
    .change (.put Settings.hostKey (some "k")), .change (.register "k" ⟨none, ["serve"]⟩),
    .client (.step 0 (fun _ => some (.ok .untouched)) false) rfl,
    .change (.put Settings.programKey (some "p"))]

/-- The connection is to the host that was set first, and whatever is looked up afterwards is what
was set last. -/
theorem attempt_keeps_the_host_it_began_with :
    let s := (Session.fresh {} (.stored {})).run resettings
    s.client.host? = some "h" ∧ s.client.dialled = ["h"] ∧ "h" ∈ s.client.dialled ∧
      s.hostName = "k" ∧ s.launch "k" = .ok ⟨s.program, ["serve"]⟩ ∧ s.program = "p" := by
  obtain ⟨programs, names, launches, -, -, -, -, -, dialled⟩ :=
    settings_are_read_when_needed {} (.stored {}) resettings
  have named : ((Session.fresh {} (.stored {})).run resettings).client.host? = some "h" := by
    decide +kernel
  refine ⟨named, by decide +kernel, dialled "h" named, (names "k").mpr ?_,
    (launches "k" _).mpr .bare, (programs "p").mpr ?_⟩
  · exact .set rfl rfl (by decide) (Text.trims_iff.mpr (by decide))
  · exact .set rfl rfl (by decide) (Text.trims_iff.mpr (by decide))

end RpcLink.Native
