import RpcLink.Proofs.Pipe.Turns

/-!
The greeting of a server comes before anything else that a client asks of it. A server is started
only when there is no channel that calls could use and no other server is being started or stopped;
it is greeted once, and asked for nothing else before it has answered with what it says of itself;
and one whose greeting failed is never used. That holds of every run, wherever tasks are dropped.
-/

namespace RpcLink.Pipe

open Text

/-- A server welcomes the client: the task that greeted it finds the answer, which says what the
server is. -/
inductive Accepts (c : Client) (x : Nat) : Act → Prop where
  | intro {task call : Nat} {m : Moment} {r : Response} {info : ServerInfo}
      (greets : c.phase? task = some (.greeting x call))
      (answered : (c.board.poll call).1 = .done (.ok r))
      (accepted : ServerInfo.ofResponse r = .ok info) : Accepts c x (.step task m)

/-- The greeting of a server fails. -/
inductive Fails (c : Client) (x : Nat) : Act → Prop where
  /-- It cannot be written. -/
  | unwritten {task call : Nat} {m : Moment} {r : Request} {e : SystemError}
      (writes : c.phase? task = some (.writing .greeting x r call))
      (broken : m.writing = some (.error e)) : Fails c x (.step task m)
  /-- It cannot be written to a server that was just started. -/
  | unwrittenAtOnce {task : Nat} {m : Moment} {e : SystemError}
      (started : c.channels.length < (c.step task m).channels.length)
      (newest : x = c.channels.length) (broken : m.writing = some (.error e)) :
      Fails c x (.step task m)
  /-- The channel was closed, or the answer does not say what the server is. -/
  | refused {task call : Nat} {m : Moment} {result : Except Failure Response}
      (greets : c.phase? task = some (.greeting x call))
      (answered : (c.board.poll call).1 = .done result)
      (unread : ∀ r info, result = .ok r → ServerInfo.ofResponse r ≠ .ok info) :
      Fails c x (.step task m)
  /-- There is no answer in time. -/
  | expired {task call ns : Nat} {m : Moment}
      (greets : c.phase? task = some (.greeting x call))
      (unanswered : ∀ result, (c.board.poll call).1 ≠ .done result)
      (tooLong : m.waitOver = true) (limit : c.config.timeout = some ns) : Fails c x (.step task m)

/-- Whom an event makes welcome and whom it makes lost. -/
structure Judges (c : Client) (act : Act) (welcomed lost welcomed' lost' : Set Nat) : Prop where
  heard : welcomed ⊆ welcomed'
  accepted : ∀ x ∈ welcomed', x ∈ welcomed ∨ Accepts c x act
  missed : lost ⊆ lost'
  failed : ∀ x, Fails c x act → x ∈ lost'

section

variable {first c : Client} {task x : Nat} {t : Task} {m : Moment} {welcomed lost : Set Nat}

/-- How a step of a task can be that in which a greeting fails. -/
theorem Fails.step_cases (fails : Fails c x (.step task m)) (found : c.tasks[task]? = some t) :
    (∃ r call e, t.phase = .writing .greeting x r call ∧ m.writing = some (.error e)) ∨
      ((t.phase = .fresh ∨ t.phase = .queued) ∧
        c.channels.length < (c.step task m).channels.length ∧ x = c.channels.length ∧
        ∃ e, m.writing = some (.error e)) ∨
      ∃ call, t.phase = .greeting x call ∧
        ((∃ result, (c.board.poll call).1 = .done result ∧
          ∀ r info, result = .ok r → ServerInfo.ofResponse r ≠ .ok info) ∨
        (∀ result, (c.board.poll call).1 ≠ .done result) ∧ m.waitOver = true ∧
          ∃ ns, c.config.timeout = some ns) := by
  have known := Client.phase?_of_found found
  cases fails with
  | unwritten writes broken =>
      rw [known] at writes
      exact .inl ⟨_, _, _, Option.some.inj writes, broken⟩
  | unwrittenAtOnce started newest broken =>
      obtain ⟨t', found', -, phase⟩ := Client.step_grows started
      obtain rfl := Option.some.inj (found.symm.trans found')
      exact .inr (.inl ⟨phase.imp And.left And.left, started, newest, _, broken⟩)
  | refused greets answered unread =>
      rw [known] at greets
      exact .inr (.inr ⟨_, Option.some.inj greets, .inl ⟨_, answered, unread⟩⟩)
  | expired greets unanswered tooLong limit =>
      rw [known] at greets
      exact .inr (.inr ⟨_, Option.some.inj greets, .inr ⟨unanswered, tooLong, _, limit⟩⟩)

/-- While a task waits for the answer to a greeting, that greeting is the one that its step can make
fail: by what it finds, or because it finds nothing in time. -/
theorem Fails.of_greeting {y call : Nat} (fails : Fails c y (.step task m))
    (found : c.tasks[task]? = some t) (greets : t.phase = .greeting x call) :
    y = x ∧ ((∃ result, (c.board.poll call).1 = .done result ∧
        ∀ r info, result = .ok r → ServerInfo.ofResponse r ≠ .ok info) ∨
      (∀ result, (c.board.poll call).1 ≠ .done result) ∧ m.waitOver = true ∧
        ∃ ns, c.config.timeout = some ns) := by
  rcases fails.step_cases found with ⟨_, _, _, phase, -⟩ | ⟨phase | phase, -⟩ | ⟨_, phase, why⟩
  all_goals
    rw [greets] at phase
    cases phase
  exact ⟨rfl, why⟩

namespace Judges

variable {act : Act} {welcomed' lost' : Set Nat}

/-- Nobody is made welcome, and those whose greeting fails are lost. -/
theorem of_fails (wider : lost ⊆ lost') (failed : ∀ x, Fails c x act → x ∈ lost') :
    Judges c act welcomed lost welcomed lost' :=
  ⟨.refl _, fun _ => .inl, wider, failed⟩

theorem same (none : ∀ x, ¬ Fails c x act) : Judges c act welcomed lost welcomed lost :=
  .of_fails (.refl _) fun x fails => absurd fails (none x)

end Judges

/-! ### Steps -/

namespace Orderly

/-- A task goes on that waits for the answer to its greeting. -/
theorem proceed_greeting {call : Nat} (h : Orderly first welcomed lost c)
    (found : c.tasks[task]? = some t) (greets : t.phase = .greeting x call) :
    ∃ welcomed' lost', Judges c (.step task m) welcomed lost welcomed' lost' ∧
      Orderly first welcomed' lost' (c.proceed task t m) := by
  have known : c.phase? task = some (.greeting x call) := greets ▸ Client.phase?_of_found found
  have given : t.job ∈ c.tasks.map Task.job := List.mem_map_of_mem (List.mem_of_getElem? found)
  have held : c.lock.holder = some task := h.holder task _ known rfl
  obtain ⟨r, hails, written⟩ := h.speaks task _ known
  have polled := (h.besides task).setBoard (c.board.keeps_poll call)
  have silent := c.silent_setBoard (c.board.keeps_poll call)
  have only : ∀ y, Fails c y (.step task m) → y ∈ insert x lost :=
    fun y fails => Set.mem_insert_iff.mpr (.inl (fails.of_greeting found greets).1)
  unfold Client.proceed
  rw [greets]
  dsimp only
  split
  · rename_i result board told
    rw [told] at polled silent
    have answered : (c.board.poll call).1 = .done result := congrArg Prod.fst told
    by_cases welcoming : ∃ response info,
        result = .ok response ∧ ServerInfo.ofResponse response = .ok info
    · obtain ⟨response, info, rfl, accepted⟩ := welcoming
      refine ⟨insert x welcomed, lost, ⟨Set.subset_insert .., ?accepted, .refl _, ?failed⟩,
        polled.greeted_ok held (hails.silent silent) written given accepted⟩
      case accepted =>
        intro y member
        rcases Set.mem_insert_iff.mp member with rfl | before
        · exact .inr (.intro known answered accepted)
        · exact .inl before
      case failed =>
        intro y fails
        rcases (fails.of_greeting found greets).2 with ⟨result, answered', unread⟩ | ⟨unanswered, -⟩
        · rw [answered] at answered'
          cases answered'
          exact absurd accepted (unread response info rfl)
        · exact absurd answered (unanswered _)
    · refine ⟨welcomed, insert x lost, .of_fails (Set.subset_insert ..) only, ?_⟩
      exact polled.greeted_error held hails.inside hails.unheard fun response info same accepted =>
        welcoming ⟨response, info, same, accepted⟩
  · rename_i standing board unanswered told
    rw [told] at polled silent
    split
    · refine ⟨welcomed, insert x lost, .of_fails (Set.subset_insert ..) only, ?_⟩
      refine (polled.setBoard (board.keeps_settle call)).greeted_error held hails.inside
        hails.unheard ?_
      rintro response info ⟨⟩
    · rename_i inTime
      refine ⟨welcomed, lost, .same fun y fails => ?_, h⟩
      rcases (fails.of_greeting found greets).2 with ⟨result, answered, -⟩ | ⟨-, tooLong, ns, limit⟩
      · exact unanswered result ((congrArg Prod.fst told).symm.trans answered)
      · exact inTime ns tooLong limit

/-- A task goes on that begins, or was given the lock. A server that it starts is lost if it cannot
be greeted. -/
theorem proceed_early (h : Orderly first welcomed lost c) (found : c.tasks[task]? = some t)
    (early : t.phase = .fresh ∨ t.phase = .queued) :
    ∃ lost', Judges c (.step task m) welcomed lost welcomed lost' ∧
      Orderly first welcomed lost' (c.proceed task t m) := by
  have given : t.job ∈ c.tasks.map Task.job := List.mem_map_of_mem (List.mem_of_getElem? found)
  have tries : Tries first welcomed lost m c (c.proceed task t m) := by
    rcases early with fresh | queued
    · unfold Client.proceed
      rw [fresh]
      exact (h.besides task).begin given
    · unfold Client.proceed
      rw [queued]
      dsimp only
      split
      · rename_i held
        exact (h.besides task).withLock (beq_iff_eq.mp held) given
      · exact h.tries rfl
  obtain ⟨lost', wider, failed, order⟩ := tries
  refine ⟨lost', .of_fails wider fun x fails => ?_, order⟩
  rcases fails.step_cases found with
    ⟨_, _, _, phase, -⟩ | ⟨-, grows, rfl, e, broken⟩ | ⟨_, phase, -⟩
  · simp [phase] at early
  · rw [Client.step_channels_length found] at grows
    exact failed grows e broken
  · simp [phase] at early

/-- A task goes on that writes the greeting. -/
theorem proceed_hailing {r : Request} {call : Nat} (h : Orderly first welcomed lost c)
    (found : c.tasks[task]? = some t) (writes : t.phase = .writing .greeting x r call) :
    ∃ lost', Judges c (.step task m) welcomed lost welcomed lost' ∧
      Orderly first welcomed lost' (c.proceed task t m) := by
  have known : c.phase? task = some (.writing .greeting x r call) :=
    writes ▸ Client.phase?_of_found found
  obtain ⟨hails, blank⟩ := h.speaks task _ known
  obtain ⟨lost', wider, failed, order⟩ :=
    (h.besides task).write_greeting (h.holder task _ known rfl) hails blank t.job m.writing
  refine ⟨lost', .of_fails wider fun y fails => ?_, ?_⟩
  · rcases fails.step_cases found with ⟨_, _, e, phase, broken⟩ | ⟨phase | phase, -⟩ | ⟨_, phase, -⟩
    all_goals
      rw [writes] at phase
      cases phase
    exact failed e broken
  · unfold Client.proceed
    rw [writes]
    exact order

/-- A task goes on that neither begins nor greets a server. -/
theorem proceed_late (h : Orderly first welcomed lost c) (found : c.tasks[task]? = some t)
    (late : t.phase ≠ .fresh ∧ t.phase ≠ .queued ∧
      (∀ x r call, t.phase ≠ .writing .greeting x r call) ∧ ∀ x call, t.phase ≠ .greeting x call) :
    Orderly first welcomed lost (c.proceed task t m) := by
  have known := Client.phase?_of_found found
  have beside := h.besides task
  unfold Client.proceed
  split
  · rename_i fresh
    exact absurd fresh late.1
  · rename_i queued
    exact absurd queued late.2.1
  · rename_i purpose x r call writes
    rw [writes] at known
    have later : purpose ≠ .greeting := fun same => late.2.2.1 x r call (same ▸ writes)
    have speaks : x ∈ welcomed ∧ c.MayFollow x r call := by
      cases purpose with
      | greeting => exact absurd rfl later
      | call => exact h.speaks task _ known
      | shutdown => exact h.speaks task _ known
    have held : purpose ≠ .call → c.lock.holder = some task := fun other =>
      h.holder task _ known (bne_iff_ne.mpr other)
    exact beside.write later held speaks.1 speaks.2
  · rename_i x call greets
    exact absurd greets (late.2.2.2 x call)
  · rename_i x e discards
    rw [discards] at known
    exact beside.retreats (Client.awaitDiscarded_retreats _ x (h.holder task _ known rfl) e)
  · rename_i x call awaits
    have polled := beside.setBoard (c.board.keeps_poll call)
    split
    · rename_i result board told
      rw [told] at polled
      exact polled.retreats (Client.finish_retreats _ task _ result)
    · exact h
  · rename_i x call stops
    rw [stops] at known
    have held : c.lock.holder = some task := h.holder task _ known rfl
    have polled := beside.setBoard (c.board.keeps_poll call)
    split
    · rename_i result board told
      rw [told] at polled
      exact polled.retreats (Client.closeDown_retreats x held)
    · rename_i standing board _ told
      rw [told] at polled
      split
      · have settled := polled.setBoard (board.keeps_settle call)
        exact settled.retreats (Client.closeDown_retreats x held)
      · exact h
  · rename_i x reaps
    rw [reaps] at known
    exact beside.retreats (Client.reap_retreats x (h.holder task _ known rfl))
  · exact h
  · exact h

/-- Wherever a task goes on, it keeps its client in order. -/
theorem proceed (h : Orderly first welcomed lost c) (found : c.tasks[task]? = some t) (m : Moment) :
    ∃ welcomed' lost', Judges c (.step task m) welcomed lost welcomed' lost' ∧
      Orderly first welcomed' lost' (c.proceed task t m) := by
  by_cases early : t.phase = .fresh ∨ t.phase = .queued
  · exact ⟨welcomed, h.proceed_early found early⟩
  by_cases hailing : ∃ x r call, t.phase = .writing .greeting x r call
  · obtain ⟨x, r, call, writes⟩ := hailing
    exact ⟨welcomed, h.proceed_hailing found writes⟩
  by_cases greeting : ∃ x call, t.phase = .greeting x call
  · obtain ⟨x, call, greets⟩ := greeting
    exact h.proceed_greeting found greets
  have late : t.phase ≠ .fresh ∧ t.phase ≠ .queued ∧
      (∀ x r call, t.phase ≠ .writing .greeting x r call) ∧ ∀ x call, t.phase ≠ .greeting x call :=
    ⟨fun phase => early (.inl phase), fun phase => early (.inr phase),
      fun x r call phase => hailing ⟨x, r, call, phase⟩,
      fun x call phase => greeting ⟨x, call, phase⟩⟩
  refine ⟨welcomed, lost, .same fun y fails => ?_, h.proceed_late found late⟩
  rcases fails.step_cases found with ⟨r, call, _, phase, -⟩ | ⟨phase | phase, -⟩ | ⟨call, phase, -⟩
  · exact late.2.2.1 y r call phase
  · exact late.1 phase
  · exact late.2.1 phase
  · exact late.2.2.2 y call phase

/-- Whether or not a step has to be broken off, it keeps its client in order. -/
theorem step (h : Orderly first welcomed lost c) (task : Nat) (m : Moment) :
    ∃ welcomed' lost', Judges c (.step task m) welcomed lost welcomed' lost' ∧
      Orderly first welcomed' lost' (c.step task m) := by
  cases found : c.tasks[task]? with
  | none =>
      have idle : c.step task m = c := by simp only [Client.step, found]
      have absent : c.phase? task = none := by simp [Client.phase?, found]
      rw [idle]
      refine ⟨welcomed, lost, .same fun x fails => ?_, h⟩
      cases fails with
      | unwritten writes broken => simp [absent] at writes
      | unwrittenAtOnce started newest broken => simp [idle] at started
      | refused greets answered unread => simp [absent] at greets
      | expired greets unanswered tooLong limit => simp [absent] at greets
  | some t =>
      obtain ⟨welcomed', lost', judges, order⟩ := h.proceed found m
      refine ⟨welcomed', lost', judges, ?_⟩
      rcases Client.step_cases (m := m) found with whole | ⟨e, expired⟩
      · rw [whole]
        exact order.sweep
      · rw [expired]
        exact ((order.besides task).retreats (Client.letGo_retreats _ task rfl rfl)).sweep

/-- What is no step of a task asks nothing of any server. -/
theorem happen_of_not_step (h : Orderly first welcomed lost c) {act : Act}
    (noStep : ∀ task m, act ≠ .step task m) : Orderly first welcomed lost (c.happen act) := by
  have silent := c.happen_silent noStep
  have same : ∀ {c' : Client}, Silent c c' → c'.tasks = c.tasks → c'.lock = c.lock →
      Orderly first welcomed lost c' := fun silent tasks lock =>
    h.silent silent
      (fun t _ found => .inr ((Client.phase?_of_tasks_eq tasks t).symm.trans found)) lock
  cases act with
  | step task m => exact absurd rfl (noStep task m)
  | spawn job =>
      refine h.silent silent (fun t p found => ?_) rfl
      rcases Client.spawn_phase? found with rfl | before
      · exact .inl ⟨rfl, rfl⟩
      · exact .inr before
  | cancel task =>
      show Orderly first welcomed lost (c.cancel task)
      unfold Client.cancel
      split
      · exact h
      · exact ((h.besides task).retreats (c.letGo_retreats task rfl rfl)).sweep
  | server x e => exact same silent (c.onChannel_tasks x e) (c.onChannel_lock x e)
  | logged x bytes =>
      refine same silent ?_ ?_
      all_goals
        rw [Client.happen]
        split <;> rfl
  | logEnded x =>
      refine same silent ?_ ?_
      all_goals
        rw [Client.happen]
        split <;> rfl
  | configure settings => exact same silent rfl rfl

/-- Whatever happens to a client keeps it in order. -/
theorem happen (h : Orderly first welcomed lost c) (act : Act) :
    ∃ welcomed' lost', Judges c act welcomed lost welcomed' lost' ∧
      Orderly first welcomed' lost' (c.happen act) := by
  by_cases isStep : ∃ task m, act = .step task m
  · obtain ⟨task, m, rfl⟩ := isStep
    exact h.step task m
  · have noStep : ∀ task m, act ≠ .step task m := fun task m same => isStep ⟨task, m, same⟩
    refine ⟨welcomed, lost, .same fun x fails => ?_, h.happen_of_not_step noStep⟩
    cases fails with
    | unwritten => exact noStep _ _ rfl
    | unwrittenAtOnce => exact noStep _ _ rfl
    | refused => exact noStep _ _ rfl
    | expired => exact noStep _ _ rfl

end Orderly

end

/-! ### Runs -/

/-- Whom a run makes welcome and whom it makes lost. -/
structure Reviews (c : Client) (acts : List Act) (welcomed lost welcomed' lost' : Set Nat) :
    Prop where
  heard : welcomed ⊆ welcomed'
  missed : lost ⊆ lost'
  accepted : ∀ x ∈ welcomed', x ∈ welcomed ∨
    ∃ before act after, acts = before ++ act :: after ∧ Accepts (c.run before) x act
  failed : ∀ before act after x, acts = before ++ act :: after →
    Fails (c.run before) x act → x ∈ lost'
  used : ∀ earlier rest x, acts = earlier ++ rest →
    (c.run earlier).current = some x → x ∈ welcomed'

namespace Orderly

variable {first c : Client} {welcomed lost : Set Nat}

theorem fresh (config : Config) (settings : Settings) :
    Orderly (.fresh config settings) ∅ ∅ (.fresh config settings) where
  since := .refl _
  aligned := rfl
  routed := by simp [Client.fresh, Switchboard.routes]
  welcomed_lt := by simp
  lost_lt := by simp
  apart := by simp
  closed := by simp
  current := by simp [Client.fresh]
  unheard := by simp [Client.fresh]
  heard := by simp
  holder := by simp [Client.fresh, Client.phase?]
  speaks := by simp [Client.fresh, Client.phase?]

/-- What is there now counts as there at first. -/
theorem rebase (h : Orderly first welcomed lost c) : Orderly c welcomed lost c :=
  { h with since := .refl c }

/-- A run keeps a client in order. -/
theorem run (h : Orderly first welcomed lost c) (acts : List Act) :
    ∃ welcomed' lost', Reviews c acts welcomed lost welcomed' lost' ∧
      Orderly first welcomed' lost' (c.run acts) := by
  induction acts generalizing c welcomed lost with
  | nil =>
      refine ⟨welcomed, lost, ⟨.refl _, .refl _, fun _ => .inl, ?_, ?_⟩, h⟩
      · intro before act after x split
        simp at split
      · intro earlier rest x split uses
        obtain ⟨rfl, -⟩ := List.append_eq_nil_iff.mp split.symm
        exact h.current x uses
  | cons act acts ih =>
      obtain ⟨welcomed₁, lost₁, judges, order⟩ := h.happen act
      obtain ⟨welcomed', lost', reviews, order'⟩ := ih order
      refine ⟨welcomed', lost', ⟨judges.heard.trans reviews.heard,
        judges.missed.trans reviews.missed, ?accepted, ?failed, ?used⟩, order'⟩
      case accepted =>
        intro x member
        rcases reviews.accepted x member with before | ⟨before, a, after, rfl, accepts⟩
        · rcases judges.accepted x before with already | accepts
          · exact .inl already
          · exact .inr ⟨[], act, acts, rfl, accepts⟩
        · exact .inr ⟨act :: before, a, after, rfl, accepts⟩
      case failed =>
        intro before a after x split fails
        cases before with
        | nil =>
            obtain ⟨rfl, rfl⟩ := List.cons.inj split
            exact reviews.missed (judges.failed x fails)
        | cons b before =>
            obtain ⟨rfl, rest⟩ := List.cons.inj split
            exact reviews.failed before a after x rest fails
      case used =>
        intro earlier rest x split uses
        cases earlier with
        | nil => exact reviews.heard (judges.heard (h.current x uses))
        | cons b earlier =>
            obtain ⟨rfl, same⟩ := List.cons.inj split
            exact reviews.used earlier rest x same uses

end Orderly

/-- What was registered on a channel and written to it: the greeting first and once, and what may
follow it. -/
structure Conversation (c : Client) (x call : Nat) (hello : Request) (others : List Nat)
    (later : List Request) : Prop where
  registered : c.board.callsOn x = call :: others
  number : c.board.number? call = some hello.id
  greeting : hello = c.hello hello.id
  once : call ∉ others
  written : c.writtenTo x = hello :: later ∨ c.writtenTo x = [] ∧ later = []
  follow : ∀ r ∈ later, ∃ k ∈ others, c.board.number? k = some r.id ∧ c.Wanted r.method r.params

namespace Orderly

variable {first c : Client} {x : Nat} {welcomed lost : Set Nat}

/-- Every server that was started was greeted first, and only once it has welcomed the client was it
asked for more. -/
theorem conversation (h : Orderly first welcomed lost c) (inside : x < c.channels.length) :
    ∃ call hello others later, Conversation c x call hello others later ∧
      (x ∉ welcomed → others = [] ∧ later = []) ∧
        (x ∈ welcomed → c.writtenTo x = hello :: later) := by
  have once : ∀ {call others}, c.board.callsOn x = call :: others → call ∉ others := fun calls =>
    (List.nodup_cons.mp (calls ▸ c.board.callsOn_nodup x)).1
  by_cases member : x ∈ welcomed
  · obtain ⟨call, others, hello, later, calls, number, greeting, written, follow⟩ :=
      h.heard x member
    refine ⟨call, hello, others, later, ⟨calls, number, greeting, once calls, .inl written, ?_⟩,
      fun outside => absurd member outside, fun _ => written⟩
    intro r among
    obtain ⟨k, follows⟩ := follow r among
    have member : k ∈ (c.board.callsOn x).tail := follows.later
    rw [calls] at member
    exact ⟨k, member, follows.number, follows.wanted⟩
  · obtain ⟨hello, call, only, written⟩ := h.unheard x inside member
    refine ⟨call, hello, [], [], ⟨only.calls, only.number, only.request, by simp, ?_, by simp⟩,
      fun _ => ⟨rfl, rfl⟩, fun welcome => absurd welcome member⟩
    rcases written with none | one
    · exact .inr ⟨none, rfl⟩
    · exact .inl one

/-- When a server welcomes the client, it was asked for nothing but the greeting. -/
theorem alone_of_accepts (h : Orderly first welcomed lost c) {act : Act}
    (accepts : Accepts c x act) :
    ∃ r call, c.board.callsOn x = [call] ∧ c.writtenTo x = [r] := by
  cases accepts with
  | intro greets answered accepted =>
      obtain ⟨r, hails, written⟩ := h.speaks _ _ greets
      exact ⟨r, _, hails.calls, written⟩

/-- A server is started only when there is no channel that calls could use and no task starts or
stops another. -/
theorem free_of_grows (h : Orderly first welcomed lost c) {act : Act}
    (grows : c.channels.length < (c.happen act).channels.length) :
    c.live? = none ∧ ∀ t ∈ c.tasks, t.phase.holdsLock = false := by
  by_cases isStep : ∃ task m, act = .step task m
  · obtain ⟨task, m, rfl⟩ := isStep
    obtain ⟨t, found, dead, grants⟩ := Client.step_grows grows
    refine ⟨dead, fun s member => ?_⟩
    obtain ⟨i, known⟩ := List.mem_iff_getElem?.mp member
    cases holds : s.phase.holdsLock with
    | false => rfl
    | true =>
        have holder := h.holder i s.phase (Client.phase?_of_found known) holds
        rcases grants with ⟨-, free⟩ | ⟨queued, held⟩
        · rw [free] at holder
          cases holder
        · obtain rfl := Option.some.inj (held.symm.trans holder)
          obtain rfl := Option.some.inj (known.symm.trans found)
          rw [queued] at holds
          cases holds
  · have silent := c.happen_silent fun task m same => isStep ⟨task, m, same⟩
    exact absurd grows (silent.channels_length ▸ Nat.lt_irrefl _)

end Orderly

/-- The greeting comes before anything else. On every server that was started the first call is the
greeting. Its request is the first that is written, if any is, and each later one belongs to another
call: one that a task is to make, or the one that asks the server to end. If there is any call or
request beside the greeting, or if calls use the channel, then a task had found the answer and it
said what the server is, at a moment when nothing but the greeting had been registered and written.
A server whose greeting failed has its channel closed, and that is at no moment the channel that
calls use. And a server is started only while there is no open channel that calls could use and no
task starts, greets, discards or stops a server. -/
theorem greeting_comes_first (config : Config) (settings : Settings) (acts : List Act) :
    let start := Client.fresh config settings
    let c := start.run acts
    (∀ x, x < c.channels.length → ∃ call hello others later,
      Conversation c x call hello others later ∧
        (others ≠ [] ∨ later ≠ [] ∨ c.current = some x →
          ∃ before act after, acts = before ++ act :: after ∧ Accepts (start.run before) x act ∧
            (start.run before).board.callsOn x = [call] ∧
            (start.run before).writtenTo x = [hello])) ∧
    (∀ before act after x, acts = before ++ act :: after → Fails (start.run before) x act →
      (c.board.exchange x).closed.isSome ∧
        ∀ earlier rest, acts = earlier ++ rest → (start.run earlier).current ≠ some x) ∧
    ∀ act, c.channels.length < (c.happen act).channels.length →
      c.live? = none ∧ ∀ t ∈ c.tasks, t.phase.holdsLock = false := by
  intro start c
  obtain ⟨welcomed, lost, reviews, order⟩ := (Orderly.fresh config settings).run acts
  refine ⟨fun x inside => ?_, fun before act after x split fails => ?_,
    fun act => order.free_of_grows⟩
  · obtain ⟨call, hello, others, later, conversation, unheard, heard⟩ := order.conversation inside
    refine ⟨call, hello, others, later, conversation, fun more => ?_⟩
    have welcome : x ∈ welcomed := by
      by_contra outside
      obtain ⟨noOthers, noLater⟩ := unheard outside
      rcases more with others | later | uses
      · exact others noOthers
      · exact later noLater
      · exact outside (order.current x uses)
    rcases reviews.accepted x welcome with early | ⟨before, act, after, split, accepts⟩
    · exact absurd early (Set.notMem_empty x)
    -- What was there when the server welcomed the client is the beginning of what is there now.
    obtain ⟨_, _, -, orderThen⟩ := (Orderly.fresh config settings).run before
    obtain ⟨_, _, -, orderSince⟩ := orderThen.rebase.run (act :: after)
    rw [← Client.run_append, ← split] at orderSince
    obtain ⟨r, k, calls, written⟩ := orderThen.alone_of_accepts accepts
    have firstCall := orderSince.since.calls x
    have firstRequest := orderSince.since.written x
    rw [calls, conversation.registered, List.cons_prefix_cons] at firstCall
    rw [written, heard welcome, List.cons_prefix_cons] at firstRequest
    exact ⟨before, act, after, split, accepts, firstCall.1 ▸ calls, firstRequest.1 ▸ written⟩
  · have unused := reviews.failed before act after x split fails
    refine ⟨order.closed x unused, fun earlier rest split' uses => ?_⟩
    exact order.apart x (reviews.used earlier rest x split' uses) unused

/-- The greeting of a first server cannot be written. Two tasks then want a second one: the server
is greeted, and only when it has answered is either call written. -/
theorem second_server_is_greeted_before_two_calls :
    let start := Client.fresh { program := some "p" } (.stored {})
    let ready : Moment :=
      { starter := fun _ => none, writing := some (.ok ()), waitOver := false, timeUp := false }
    let broken : Moment := { ready with writing := some (.error (.kind .brokenPipe)) }
    let answer := Utf8.ofString "\x7b\"id\":2,\"result\":\x7b\"name\":\"s\"\x7d\x7d\n"
    let acts : List Act := [.spawn .start, .step 0 broken, .server 0 (.exited (.exited 0)),
      .step 0 ready, .spawn (.call "ping" .null false), .spawn (.call "pong" .null false),
      .step 1 ready, .step 2 ready, .server 1 (.output answer), .step 1 ready, .step 2 ready]
    let c := start.run acts
    c.channels.length = 2 ∧ c.board.callsOn 1 = [1, 2, 3] ∧ c.current = some 1 ∧
      (c.writtenTo 1).map Request.method = ["initialize", "ping", "pong"] ∧ c.writtenTo 0 = [] ∧
      Fails (start.run [.spawn .start]) 0 (.step 0 broken) ∧ (c.board.exchange 0).closed.isSome ∧
      ∃ before act after, acts = before ++ act :: after ∧ Accepts (start.run before) 1 act ∧
        (start.run before).board.callsOn 1 = [1] := by
  intro start ready broken answer acts c
  have channels : c.channels.length = 2 := by decide +kernel
  have calls : c.board.callsOn 1 = [1, 2, 3] := by decide +kernel
  have uses : c.current = some 1 := by decide +kernel
  have written : (c.writtenTo 1).map Request.method = ["initialize", "ping", "pong"] := by
    decide +kernel
  have none : c.writtenTo 0 = [] := by decide +kernel
  have started : (start.run [.spawn .start]).channels.length <
      ((start.run [.spawn .start]).step 0 broken).channels.length := by decide +kernel
  have fails : Fails (start.run [.spawn .start]) 0 (.step 0 broken) :=
    .unwrittenAtOnce started rfl rfl
  obtain ⟨each, failed, -⟩ := greeting_comes_first { program := some "p" } (.stored {}) acts
  obtain ⟨call, hello, others, later, conversation, before⟩ := each 1 (by rw [channels]; decide)
  obtain ⟨before, act, after, split, accepts, alone, -⟩ := before (.inr (.inr uses))
  have first : call = 1 := (List.cons.inj (conversation.registered.symm.trans calls)).1
  refine ⟨channels, calls, uses, written, none, fails, ?_, before, act, after, split, accepts,
    first ▸ alone⟩
  exact (failed [.spawn .start] _ _ 0 rfl fails).1

end RpcLink.Pipe
