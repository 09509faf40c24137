import Mathlib.Data.List.Induction
import RpcLink.Proofs.Pipe.Stages

/-!
What is told when no channel can be opened, and what is left of the attempt. Whatever goes wrong
until a server has said what it is, the task is told that no server could be reached; it has asked
no server for anything but to greet it, and the client has no channel until another attempt begins.
-/

namespace RpcLink.Pipe

namespace Client

/-- Every task is in a phase that its job can be in. -/
def Suited (c : Client) : Prop :=
  ∀ (k : Nat) (t : Task), c.tasks[k]? = some t → t.phase.Suits t.job

/-- A task needs a channel, there is none, and it is the task's turn to start a server. -/
inductive Attempts (c : Client) : Act → Prop where
  | intro {task : Nat} {t : Task} {m : Moment} (found : c.tasks[task]? = some t)
      (starts : c.Starts task t) : Attempts c (.step task m)

/-- What an event does to a task. -/
inductive Passing (c : Client) (act : Act) (task : Nat) : Prop where
  | same (other : ∀ m, act ≠ .step task m)
      (same : (c.happen act).tasks[task]? = c.tasks[task]?)
  /-- There is no such task to take a step. -/
  | idle (absent : c.tasks[task]? = none) (same : c.happen act = c)
  | spawned {job : Job} (other : ∀ m, act ≠ .step task m) (absent : c.tasks[task]? = none)
      (new : (c.happen act).tasks[task]? = some { job })
  | cancelled {t : Task} (found : c.tasks[task]? = some t)
      (ended : (c.happen act).tasks[task]? = some { t with phase := .cancelled })
  | steps {t : Task} {m : Moment} (step : act = .step task m) (found : c.tasks[task]? = some t)
      (goes : Goes c task t (c.happen act))
  | expires {t : Task} {m : Moment} {ns : Nat} (step : act = .step task m)
      (found : c.tasks[task]? = some t) (up : m.timeUp = true) (limited : t.job.isLimited = true)
      (limit : (c.proceed task t m).config.timeout = some ns)
      (puts : Puts task (.done (.response (.error (.timeout ns)))) c (c.happen act))

section

variable {c c' : Client} {task k : Nat} {t t' : Task} {act : Act} {m : Moment} {acts : List Act}

theorem letGo_standing (c : Client) (task : Nat) :
    (c.letGo task).standing = c.standing ∨
      (c.letGo task).standing = (c.current, false, c.opened) := by
  unfold letGo
  split
  all_goals first
    | exact .inl rfl
    | exact .inr rfl

theorem cancel_tasks (c : Client) (task : Nat) :
    (c.cancel task).tasks = c.tasks ∨ Puts task .cancelled c (c.cancel task) := by
  unfold cancel
  split
  · exact .inl rfl
  · refine .inr ?_
    have put : Puts task .cancelled c ((c.letGo task).setPhase task .cancelled) :=
      .of_tasks_eq (c.letGo_tasks task) rfl
    exact put.rests (rests_sweep _)

theorem Suited.happen_cases (h : c.Suited) (act : Act) (task : Nat) : Passing c act task := by
  cases act with
  | spawn job =>
      have other : ∀ m, Act.spawn job ≠ .step task m := by rintro m ⟨⟩
      have new : (c.happen (.spawn job)).tasks = c.tasks ++ [({ job } : Task)] := rfl
      cases found : c.tasks[task]? with
      | some t =>
          have inside := (List.getElem?_eq_some_iff.mp found).1
          exact .same other (by rw [new, List.getElem?_append_left inside])
      | none =>
          rcases Nat.eq_or_lt_of_le (List.getElem?_eq_none_iff.mp found) with rfl | beyond
          · have added : (c.happen (.spawn job)).tasks[c.tasks.length]? =
                some ({ job } : Task) := by simp [new]
            exact .spawned other found added
          · refine .same other ?_
            rw [new, found, List.getElem?_eq_none_iff, List.length_append, List.length_singleton]
            omega
  | cancel k =>
      have other : ∀ m, Act.cancel k ≠ .step task m := by rintro m ⟨⟩
      rcases c.cancel_tasks k with same | puts
      · exact .same other (congrArg (·[task]?) same)
      · by_cases here : task = k
        · subst here
          cases found : c.tasks[task]? with
          | none =>
              have idle : c.cancel task = c := by simp [cancel, isOver, found]
              exact .idle found idle
          | some t => exact .cancelled found (puts.own found)
        · exact .same other (puts.other here)
  | step k m =>
      have others : task ≠ k → ∀ m', Act.step k m ≠ .step task m' := by
        rintro apart m' ⟨⟩
        exact apart rfl
      cases found : c.tasks[k]? with
      | none =>
          have idle : c.step k m = c := by simp only [step, found]
          by_cases here : task = k
          · subst here
            exact .idle found idle
          · exact .same (others here) (congrArg (fun a => a.tasks[task]?) idle)
      | some t =>
          have suits := h k t found
          rcases step_goes found suits m with goes | ⟨ns, limit, up, limited, expired⟩
          · by_cases here : task = k
            · subst here
              exact .steps rfl found goes
            · obtain ⟨p, puts, -⟩ := goes.puts found suits
              exact .same (others here) (puts.other here)
          · obtain ⟨p, puts, -⟩ := (proceed_goes found suits m).puts found suits
            have ended : Puts k (.done (.response (.error (.timeout ns)))) c (c.step k m) :=
              expired ▸ puts.expires _
            by_cases here : task = k
            · subst here
              exact .expires rfl found up limited limit ended
            · exact .same (others here) (ended.other here)
  | server x e =>
      have other : ∀ m, Act.server x e ≠ .step task m := by rintro m ⟨⟩
      exact .same other (congrArg (·[task]?) (c.onChannel_tasks x e))
  | logged x bytes =>
      have other : ∀ m, Act.logged x bytes ≠ .step task m := by rintro m ⟨⟩
      refine .same other ?_
      rw [happen]
      split <;> rfl
  | logEnded x =>
      have other : ∀ m, Act.logEnded x ≠ .step task m := by rintro m ⟨⟩
      refine .same other ?_
      rw [happen]
      split <;> rfl
  | configure settings =>
      have other : ∀ m, Act.configure settings ≠ .step task m := by rintro m ⟨⟩
      exact .same other rfl

/-! ### Runs -/

theorem Suited.happen (h : c.Suited) (act : Act) : (c.happen act).Suited := by
  intro k t found
  cases h.happen_cases act k with
  | same _ same => exact h k t (same ▸ found)
  | idle absent same =>
      rw [same] at found
      exact h k t found
  | spawned _ absent new =>
      cases new.symm.trans found
      trivial
  | cancelled before ended =>
      cases ended.symm.trans found
      trivial
  | steps step before goes =>
      obtain ⟨p, puts, suits⟩ := goes.puts before (h k _ before)
      cases (puts.own before).symm.trans found
      exact suits
  | expires step before up limited limit puts =>
      cases (puts.own before).symm.trans found
      trivial

theorem Suited.run (h : c.Suited) (acts : List Act) : (c.run acts).Suited := by
  induction acts generalizing c with
  | nil => exact h
  | cons act acts ih => exact ih (h.happen act)

theorem suited_fresh (config : Config) (settings : Settings) : (fresh config settings).Suited := by
  intro k t found
  simp [fresh] at found

/-- No step of a task registered a call but a greeting. -/
def Unasked (c : Client) (task : Nat) (acts : List Act) : Prop :=
  ∀ before m after, acts = before ++ .step task m :: after →
    (c.run before).OnlyGreets ((c.run before).step task m)

theorem Unasked.concat (h : Unasked c task acts)
    (last : ∀ m, act = .step task m → (c.run acts).OnlyGreets ((c.run acts).step task m)) :
    Unasked c task (acts ++ [act]) := by
  intro before m after split
  rcases List.eq_nil_or_concat after with rfl | ⟨after, b, rfl⟩
  · obtain ⟨rfl, same⟩ := List.append_inj' split rfl
    exact last m (List.cons.inj same).1
  · rw [List.concat_eq_append, ← List.cons_append, ← List.append_assoc] at split
    exact h before m after (List.append_inj' split rfl).1

/-- As long as a task is not there, or has no channel, it asked no server for anything but to greet
it. -/
theorem Suited.unasked (h : c.Suited) (acts : List Act)
    (opening : ∀ t, (c.run acts).tasks[task]? = some t → t.phase.stage = .opening) :
    Unasked c task acts := by
  induction acts using List.reverseRecOn with
  | nil =>
      intro before m after split
      simp at split
  | append_singleton acts act ih =>
      have suited := h.run acts
      rw [run_append] at opening
      replace opening : ∀ t, ((c.run acts).happen act).tasks[task]? = some t →
          t.phase.stage = .opening := opening
      cases suited.happen_cases act task with
      | same other same =>
          rw [same] at opening
          exact (ih opening).concat fun m step => absurd step (other m)
      | idle absent same =>
          have still : Unasked c task acts := ih fun t found => by simp [absent] at found
          refine still.concat ?_
          rintro m rfl
          exact .inl (congrArg (fun a => a.board.routes) same)
      | spawned other absent new =>
          have still : Unasked c task acts := ih fun t found => by simp [absent] at found
          exact still.concat fun m step => absurd step (other m)
      | cancelled found ended =>
          have late := opening _ ended
          cases late
      | steps step found goes =>
          subst step
          obtain ⟨p, puts, -⟩ := goes.puts found (suited task _ found)
          obtain ⟨early, greets⟩ := goes.opening found puts (opening _ (puts.own found))
          have still : Unasked c task acts := ih fun t' found' => by
            rw [found] at found'
            exact Option.some.inj found' ▸ early
          refine still.concat ?_
          rintro m ⟨⟩
          exact greets
      | expires step found up limited limit puts =>
          have late := opening _ (puts.own found)
          cases late

/-! ### After an attempt that failed -/

/-- There is no channel, and no task is about a server that it started. -/
structure Shut (c : Client) : Prop where
  standing : c.standing = (none, false, true)
  greets : ∀ (k : Nat) (t : Task), c.tasks[k]? = some t → t.phase.greets = false

namespace Shut

theorem current (shut : c.Shut) : c.current = none := congrArg Prod.fst shut.standing

theorem dead (shut : c.Shut) : c.live? = none := by
  rw [live?, shut.current]
  rfl

/-- Where there is no channel and none is being opened, the client counts as closed. -/
theorem state_eq (shut : c.Shut) : c.state = .closed := by
  have connecting : c.connecting = false := congrArg (·.2.1) shut.standing
  have opened : c.opened = true := congrArg (·.2.2) shut.standing
  simp [state, connecting, opened, shut.dead]

theorem greets_of_passes (passes : Passes task t.job c c') (found : c.tasks[task]? = some t)
    (after : c'.tasks[task]? = some t') : t'.phase.greets = false := by
  obtain ⟨p, puts, -, past⟩ := passes
  cases (puts.own found).symm.trans after
  exact Bool.eq_false_iff.mpr fun greets => past (stage_of_greets greets)

/-- A step that begins no attempt leaves the client without a channel. -/
theorem goes (shut : c.Shut) (found : c.tasks[task]? = some t) (goes : Goes c task t c')
    (idle : ¬ c.Starts task t) : c'.standing = c.standing ∧
      ∀ t', c'.tasks[task]? = some t' → t'.phase.greets = false := by
  have known := phase?_of_found found
  have none := shut.greets task t found
  cases goes with
  | stays rests =>
      refine ⟨rests.standing, fun t' after => ?_⟩
      rw [rests.tasks, found] at after
      exact Option.some.inj after ▸ none
  | queues _ _ puts _ standing =>
      refine ⟨standing, fun t' after => ?_⟩
      cases (puts.own found).symm.trans after
      rfl
  | tries may _ _ =>
      rcases may with starts | greets
      · exact absurd starts idle
      · rw [none] at greets
        cases greets
  | connects connected before passes _ =>
      refine ⟨?_, fun t' => greets_of_passes passes found⟩
      cases connected with
      | calls phase calling =>
          rw [known] at phase
          rw [Option.some.inj phase, calling] at before
          cases before
      | finds _ live =>
          rw [shut.dead] at live
          cases live
      | welcomed greets _ _ =>
          rw [known] at greets
          rw [Option.some.inj greets] at none
          cases none
  | leaves _ passes standing =>
      exact ⟨standing shut.current, fun t' => greets_of_passes passes found⟩

/-- A task that comes to its end before its time leaves the client without a channel. -/
theorem ended (standing : c.standing = (none, false, true)) (task : Nat) (p : Phase) :
    (((c.letGo task).setPhase task p).sweep).standing = (none, false, true) := by
  rw [(rests_sweep _).standing]
  rcases c.letGo_standing task with same | flag
  · exact same.trans standing
  · have current : c.current = none := congrArg Prod.fst standing
    have opened : c.opened = true := congrArg (·.2.2) standing
    rw [current, opened] at flag
    exact flag

theorem happen_standing (shut : c.Shut) (suited : c.Suited) (idle : ¬ c.Attempts act) :
    (c.happen act).standing = (none, false, true) := by
  cases act with
  | spawn job => exact shut.standing
  | step task m =>
      show (c.step task m).standing = _
      cases found : c.tasks[task]? with
      | none =>
          have same : c.step task m = c := by simp only [step, found]
          rw [same]
          exact shut.standing
      | some t =>
          have rests : ¬ c.Starts task t := fun starts => idle (.intro found starts)
          have suits := suited task t found
          rcases step_goes found suits m with goes | ⟨ns, -, -, -, expired⟩
          · exact (shut.goes found goes rests).1.trans shut.standing
          · rw [expired]
            have before := (shut.goes found (proceed_goes found suits m) rests).1
            exact ended (before.trans shut.standing) task _
  | cancel task =>
      show (c.cancel task).standing = _
      unfold cancel
      split
      · exact shut.standing
      · exact ended shut.standing task _
  | server x e => exact (c.onChannel_standing x e).trans shut.standing
  | logged x bytes =>
      rw [happen]
      split
      · exact shut.standing
      · exact shut.standing
  | logEnded x =>
      rw [happen]
      split
      · exact shut.standing
      · exact shut.standing
  | configure settings => exact shut.standing

/-- Whatever happens that begins no attempt, the client stays without a channel. -/
theorem happen (shut : c.Shut) (suited : c.Suited) (idle : ¬ c.Attempts act) :
    (c.happen act).Shut where
  standing := shut.happen_standing suited idle
  greets k t after := by
    cases suited.happen_cases act k with
    | same _ same => exact shut.greets k t (same ▸ after)
    | idle _ same =>
        rw [same] at after
        exact shut.greets k t after
    | spawned _ _ new =>
        cases new.symm.trans after
        rfl
    | cancelled _ ended =>
        cases ended.symm.trans after
        rfl
    | steps step found goes =>
        subst step
        exact (shut.goes found goes fun starts => idle (.intro found starts)).2 t after
    | expires _ found _ _ _ puts =>
        cases (puts.own found).symm.trans after
        rfl

/-- The client stays without a channel until an attempt begins. -/
theorem run (shut : c.Shut) (suited : c.Suited) (acts : List Act) :
    (c.run acts).Shut ∨ ∃ before act after,
      acts = before ++ act :: after ∧ (c.run before).Attempts act := by
  induction acts generalizing c with
  | nil => exact .inl shut
  | cons act acts ih =>
      by_cases attempts : c.Attempts act
      · exact .inr ⟨[], act, acts, rfl, attempts⟩
      · rcases ih (shut.happen suited attempts) (suited.happen act) with
          still | ⟨before, a, after, rfl, begins⟩
        · exact .inl still
        · exact .inr ⟨act :: before, a, after, rfl, begins⟩

end Shut

/-- A task that needs a channel and is past its opening, but not at its end, makes its call. -/
theorem calling_of_late (suits : t.phase.Suits t.job) (needs : t.job.NeedsChannel)
    (begun : t.phase.isOver = false) (late : t.phase.stage ≠ .opening) :
    t.phase.stage = .calling ∧ t.job.ask?.isSome := by
  have noStop : t.job ≠ .stop := fun stops => Job.not_needsChannel_stop (stops ▸ needs)
  cases phase : t.phase with
  | writing purpose =>
      rw [phase] at suits late
      cases purpose with
      | greeting => exact absurd rfl late
      | call => exact ⟨rfl, suits⟩
      | shutdown => exact absurd suits noStop
  | awaiting =>
      rw [phase] at suits
      exact ⟨rfl, suits⟩
  | stopping =>
      rw [phase] at suits
      exact absurd suits noStop
  | reaping =>
      rw [phase] at suits
      exact absurd suits noStop
  | done =>
      rw [phase] at begun
      cases begun
  | cancelled =>
      rw [phase] at begun
      cases begun
  | _ =>
      rw [phase] at late
      exact absurd rfl late

/-- When an attempt has failed, no other task is about a server that it started: whoever is holds
the lock, and the task whose attempt it was held it. -/
theorem shut_of_fails {first : Client} {welcomed lost : Set Nat} {p : Phase}
    (h : Orderly first welcomed lost c) (found : c.tasks[task]? = some t)
    (may : c.Starts task t ∨ t.phase.greets = true) (puts : Puts task p c c')
    (past : p.greets = false) (standing : c'.standing = (none, false, true)) : c'.Shut where
  standing := standing
  greets k t' after := by
    by_cases here : k = task
    · subst here
      cases (puts.own found).symm.trans after
      exact past
    · rw [puts.other here] at after
      refine Bool.eq_false_iff.mpr fun greets => ?_
      have holder := h.holder k _ (phase?_of_found after) (Phase.holdsLock_of_greets greets)
      rcases may with starts | greets
      · rcases starts.turn with ⟨-, free⟩ | ⟨-, held⟩
        · rw [free] at holder
          cases holder
        · exact here (Option.some.inj (holder.symm.trans held))
      · have held := h.holder task _ (phase?_of_found found) (Phase.holdsLock_of_greets greets)
        exact here (Option.some.inj (holder.symm.trans held))

/-- Nothing is left of an attempt to open a channel: there is none, no call waits on one, and that
stays so until another attempt begins. -/
structure LeftShut (c : Client) : Prop where
  current : c.current = none
  pending : c.pendingCount = 0
  state : c.state = .closed
  stays : ∀ more, (c.run more).current = none ∧ (c.run more).state = .closed ∨
    ∃ before act after, more = before ++ act :: after ∧ (c.run before).Attempts act

theorem Shut.leftShut (shut : c.Shut) (suited : c.Suited) : c.LeftShut where
  current := shut.current
  pending := by rw [pendingCount, shut.current]
  state := shut.state_eq
  stays more := (shut.run suited more).imp_left fun still => ⟨still.current, still.state_eq⟩

end

end Client

open Client (Connected)

/-- A task that needs a channel comes to its end in one of three ways. It has a channel, or gets one
in this step, and if that is all it wants it is told so. Or its own time is up. Or it is told that
no server could be reached: that its program is not there or does not start, or that the greeting
failed. Then it has asked no server for anything but to greet it, the client has no channel and
counts as closed, and that stays so until another attempt begins. Of all answers to the greeting
just those are accepted that are no error and describe a server, and every other one is told as a
failure of the greeting. -/
theorem unopened_channel_is_told (config : Config) (settings : Settings) (acts : List Act) :
    let start := Client.fresh config settings
    let c := start.run acts
    (∀ (task : Nat) (t : Task) (m : Moment) (o : Outcome), c.tasks[task]? = some t →
      t.phase.isOver = false → t.job.NeedsChannel → (c.step task m).phase? task = some (.done o) →
      (c.Connected task ∧ (t.job = .start → o = .started (.ok ()))) ∨
      (m.timeUp = true ∧ t.job.isLimited = true ∧
        ∃ ns, config.timeout = some ns ∧ o = .response (.error (.timeout ns))) ∨
      ∃ e, o = t.job.conclude (.error e) ∧ e.Unreached ∧ e.isTransportUnavailable = true ∧
        e.isRetryable = false ∧ e.isChannelClosed = false ∧ (c.step task m).LeftShut ∧
        start.Unasked task (acts ++ [.step task m])) ∧
    ∀ r : Response,
      ((∃ info, ServerInfo.ofResponse r = .ok info) ↔
        r.error = none ∧ ∃ fields, r.result = some (.object fields) ∧
          ServerInfo.Described fields) ∧
      ∀ e, ServerInfo.ofResponse r = .error e → ∃ message, e = .handshake message := by
  intro start c
  refine ⟨fun task t m o found begun needs ended => ?_, fun r =>
    ⟨ServerInfo.exists_ofResponse_iff, fun e => ServerInfo.handshake_of_ofResponse⟩⟩
  have suited : c.Suited := (Client.suited_fresh config settings).run acts
  obtain ⟨welcomed, lost, -, order⟩ := (Orderly.fresh config settings).run acts
  have suits := suited task t found
  have known := Client.phase?_of_found found
  have outcome : ∀ {p}, Client.Puts task p c (c.step task m) → p = .done o := fun puts =>
    Option.some.inj ((Client.phase?_of_found (puts.own found)).symm.trans ended)
  rcases Client.step_goes found suits m with goes | ⟨ns, limit, up, limited, expired⟩
  · cases goes with
    | stays rests =>
        rw [outcome (.same found rests.tasks)] at begun
        cases begun
    | queues _ _ puts _ _ => cases outcome puts
    | tries may attempt greets =>
        cases attempt with
        | goesOn puts opening _ =>
            rw [outcome puts] at opening
            cases opening
        | fails unreached puts standing =>
            refine .inr (.inr ⟨_, (Phase.done.inj (outcome puts)).symm, unreached, ?_⟩)
            have shut := Client.shut_of_fails order found may puts rfl standing
            obtain ⟨unavailable, final, apart⟩ := unreached.flags
            refine ⟨unavailable, final, apart, shut.leftShut (suited.happen (.step task m)), ?_⟩
            have early : ∀ t', c.tasks[task]? = some t' → t'.phase.stage = .opening := by
              intro t' found'
              rw [found] at found'
              exact Option.some.inj found' ▸ Client.stage_of_may may
            refine ((Client.suited_fresh config settings).unasked acts early).concat ?_
            rintro m' ⟨⟩
            exact greets
    | connects connected _ passes start =>
        refine .inl ⟨connected, fun isStart => ?_⟩
        exact (Phase.done.inj (outcome (start isStart))).symm
    | leaves before _ _ =>
        have late : t.phase.stage ≠ .opening := before.resolve_right fun idle => idle needs
        obtain ⟨calling, asks⟩ := Client.calling_of_late suits needs begun late
        refine .inl ⟨.calls known calling, fun isStart => ?_⟩
        rw [isStart] at asks
        cases asks
  · have ends : Client.Puts task (.done (.response (.error (.timeout ns)))) c (c.step task m) := by
      obtain ⟨p, puts, -⟩ := (Client.proceed_goes found suits m).puts found suits
      exact expired ▸ puts.expires _
    obtain ⟨_, _, -, after⟩ := order.proceed found m
    have same : (c.proceed task t m).config = config := after.since.config
    exact .inr (.inl ⟨up, limited, ns, same ▸ limit, (Phase.done.inj (outcome ends)).symm⟩)

/-- The failure that ended a task that made a call. -/
def Phase.failure? : Phase → Option Failure
  | .done (.response (.error e)) => some e
  | _ => none

theorem Phase.failure?_eq_some_iff {p : Phase} {e : Failure} :
    p.failure? = some e ↔ p = .done (.response (.error e)) := by
  constructor
  · intro failed
    unfold failure? at failed
    split at failed
    · cases failed
      rfl
    · cases failed
  · rintro rfl
    rfl

/-- A server answers the greeting with a name that is no text. Its end is waited for, and then the
call is told what was wrong with the answer. -/
theorem unreadable_answer_is_told :
    let start := Client.fresh { program := some "p" } (.stored {})
    let ready : Moment :=
      { starter := fun _ => none, writing := some (.ok ()), waitOver := false, timeUp := false }
    let answer := Text.Utf8.ofString "\x7b\"id\":1,\"result\":\x7b\"name\":7\x7d\x7d\n"
    let acts : List Act := [.spawn (.call "ping" .null false), .step 0 ready,
      .server 0 (.output answer), .step 0 ready, .server 0 (.exited (.exited 0))]
    let e : Failure := .handshake
      "unreadable initialize result: invalid type: integer \x607\x60, expected a string"
    let c := (start.run acts).step 0 ready
    c.phase? 0 = some (.done (.response (.error e))) ∧ e.Unreached ∧ c.LeftShut ∧
      start.Unasked 0 (acts ++ [.step 0 ready]) ∧
      (c.writtenTo 0).map Request.method = ["initialize"] := by
  intro start ready answer acts e c
  have before : ((start.run acts).tasks[0]?.map fun t =>
      (t.job, t.phase.greets, t.phase.asksNothing)) =
        some (.call "ping" .null false, true, true) := by decide +kernel
  have told : (c.phase? 0).bind Phase.failure? = some e := by decide +kernel
  have written : (c.writtenTo 0).map Request.method = ["initialize"] := by decide +kernel
  obtain ⟨t, found, shape⟩ := Option.map_eq_some_iff.mp before
  obtain ⟨job, greets, silent⟩ : t.job = .call "ping" .null false ∧ t.phase.greets = true ∧
      t.phase.asksNothing = true := by simpa using shape
  have ended : c.phase? 0 = some (.done (t.job.conclude (.error e))) := by
    obtain ⟨p, phase, failure⟩ := Option.bind_eq_some_iff.mp told
    rw [job, phase, Phase.failure?_eq_some_iff.mp failure]
    rfl
  have known := Client.phase?_of_found found
  have begun : t.phase.isOver = false := by
    cases phase : t.phase <;> simp_all [Phase.greets, Phase.isOver]
  have needs : t.job.NeedsChannel := .inr (job ▸ rfl)
  have unconnected : ¬ (start.run acts).Connected 0 := by
    rintro (⟨phase, calling⟩ | ⟨turn, live⟩ | ⟨phase, answered, accepted⟩)
    · rw [known] at phase
      have opening := Client.stage_of_greets greets
      rw [Option.some.inj phase, calling] at opening
      cases opening
    · rw [known] at turn
      rcases turn with fresh | ⟨queued, -⟩
      · rw [Option.some.inj fresh] at greets
        cases greets
      · rw [Option.some.inj queued] at greets
        cases greets
    · rw [known] at phase
      rw [Option.some.inj phase] at silent
      cases silent
  obtain ⟨each, -⟩ := unopened_channel_is_told { program := some "p" } (.stored {}) acts
  rcases each 0 t ready _ found begun needs ended with
    ⟨connected, -⟩ | ⟨up, -⟩ | ⟨e', same, unreached, -, -, -, shut, unasked⟩
  · exact absurd connected unconnected
  · cases up
  · rw [job] at same ended
    cases same
    exact ⟨ended, unreached, shut, unasked, written⟩

end RpcLink.Pipe
