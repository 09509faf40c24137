import RpcLink.Proofs.Exchange.Leaving

/-!
Those who await calls. Whether a call is still awaited is known to nobody else: a run from which the
actions of the one who awaits it are taken out tells everybody else the same, step by step, and
leaves the same behind. A call that nobody awaits stays where it waits, and whoever awaits one with
a time limit is told what became of it in time, or that the time is up.
-/

namespace RpcLink.Switchboard

/-- Whether an action only asks how a call stands, or stops awaiting it. -/
def Action.attends (call : Nat) : Action → Bool
  | .poll k | .expire k _ | .forsake k => k == call
  | _ => false

/-- What the one who does an action is told. -/
inductive Answer where
  | opened
  | drawn (id : UInt64)
  | registered (result : Except Failure (Request × Nat))
  | delivered (matched : Bool)
  | aborted (rejected : Nat)
  | forgotten (found : Bool)
  | dropped
  | stands (standing : Standing)
  | forsaken (awaited : Bool)
  /-- The channel is gone, and nothing was done. -/
  | gone

def answer (b : Switchboard) (a : Action) : Answer :=
  if a.channel?.any fun x => (b.exchange x).dropped then .gone
  else
    match a with
    | .openExchange => .opened
    | .draw => .drawn b.draw.1
    | .register x method params => .registered (b.register x method params).1
    | .deliver x response => .delivered (b.deliver x response).1
    | .abort x reason => .aborted (b.abort x reason).1
    | .forget x id => .forgotten (b.forget x id).1
    | .drop _ => .dropped
    | .poll call => .stands (b.poll call).1
    | .expire call ns => .stands (b.expire call ns).1
    | .forsake call => .forsaken (b.forsake call).1

/-- What is told in a run, in order. -/
def answers (b : Switchboard) : List Action → List (Action × Answer)
  | [] => []
  | a :: as => (a, b.answer a) :: (b.act a).answers as

/-- Calls of which one is awaited, whether or not it still is. -/
def awaiting (call : Nat) (calls : List Call) : List Call :=
  calls.modify call fun c => { c with settled := false }

/-- The switchboard as if a call were awaited. -/
def asAwaited (b : Switchboard) (call : Nat) : Switchboard :=
  { b with calls := awaiting call b.calls }

/-- What the one who awaits a call for a limited time is told. They ask whenever they like (`none`)
while other things are done, and once more when the time is up. -/
def await (b : Switchboard) (call ns : Nat) : List (Option Action) → Standing
  | [] => (b.expire call ns).1
  | none :: rest =>
    match b.poll call with
    | (.waiting _, b) => b.await call ns rest
    | (standing, _) => standing
  | some a :: rest => (b.act a).await call ns rest

/-! ### Nobody else knows whether a call is awaited -/

section AsAwaited

theorem awaiting_getElem? (call : Nat) (calls : List Call) (k : Nat) :
    (awaiting call calls)[k]? =
      calls[k]?.map fun c => if k = call then { c with settled := false } else c := by
  unfold awaiting
  rw [List.getElem?_modify]
  by_cases same : call = k
  · subst same
    cases calls[call]? <;> simp
  · simp [same, Ne.symm same]

/-- What is done to another call, or to this one whether or not it is awaited. -/
theorem awaiting_modify (call : Nat) (calls : List Call) {f : Call → Call} {k : Nat}
    (blind : k = call → ∀ c : Call, f { c with settled := false } = { f c with settled := false }) :
    (awaiting call calls).modify k f = awaiting call (calls.modify k f) := by
  apply List.ext_getElem?
  intro i
  rw [List.getElem?_modify, awaiting_getElem?, awaiting_getElem?, List.getElem?_modify]
  cases calls[i]? with
  | none => rfl
  | some c =>
      by_cases here : k = i
      · by_cases there : i = call
        · simp [here, there, blind (here.trans there)]
        · simp [here, there]
      · simp [here]

theorem awaiting_append (call : Nat) (calls : List Call) {c : Call} (awaited : c.settled = false) :
    awaiting call calls ++ [c] = awaiting call (calls ++ [c]) := by
  have same : { c with settled := false } = c := by rw [← awaited]
  apply List.ext_getElem?
  intro i
  have count : (awaiting call calls).length = calls.length := List.length_modify ..
  rw [awaiting_getElem?, List.getElem?_append, List.getElem?_append, count]
  split
  · exact awaiting_getElem? call calls i
  · cases found : [c][i - calls.length]? with
    | none => rfl
    | some d =>
        obtain rfl := List.mem_singleton.mp (List.mem_of_getElem? found)
        simp [same]

variable (b : Switchboard) (call : Nat)

theorem resolve_asAwaited (k : Nat) (status : CallStatus Response) :
    (b.asAwaited call).resolve k status = (b.resolve k status).asAwaited call := by
  unfold resolve asAwaited
  rw [awaiting_modify call b.calls fun _ _ => rfl]

theorem resolveAll_asAwaited (ks : List Nat) (status : CallStatus Response) :
    (b.asAwaited call).resolveAll ks status = (b.resolveAll ks status).asAwaited call := by
  induction ks generalizing b with
  | nil => rfl
  | cons k ks ih =>
      unfold resolveAll at ih ⊢
      rw [List.foldl_cons, List.foldl_cons, resolve_asAwaited, ih]

theorem drawFor_asAwaited (x : Nat) :
    (b.asAwaited call).drawFor x = ((b.drawFor x).1, (b.drawFor x).2.asAwaited call) := by
  have same : (b.asAwaited call).exchange x = b.exchange x := rfl
  unfold drawFor
  rw [same]
  split <;> rfl

/-- A call that was just registered is awaited. -/
theorem register_asAwaited (x : Nat) (method : String) (params : Json) :
    (b.asAwaited call).register x method params =
      ((b.register x method params).1, (b.register x method params).2.asAwaited call) := by
  have same : (b.asAwaited call).exchange x = b.exchange x := rfl
  have count : (awaiting call (b.drawFor x).2.calls).length = (b.drawFor x).2.calls.length :=
    List.length_modify ..
  unfold register
  rw [same, drawFor_asAwaited]
  split
  · rfl
  · simp only [asAwaited, count, awaiting_append]
    rfl

theorem deliver_asAwaited (x : Nat) (r : Response) :
    (b.asAwaited call).deliver x r = ((b.deliver x r).1, (b.deliver x r).2.asAwaited call) := by
  have same : (b.asAwaited call).exchange x = b.exchange x := rfl
  unfold deliver
  rw [same]
  split
  · exact congrArg (Prod.mk true) (resolve_asAwaited (b.setExchange x _) call _ _)
  · rfl

theorem abort_asAwaited (x : Nat) (reason : String) :
    (b.asAwaited call).abort x reason =
      ((b.abort x reason).1, (b.abort x reason).2.asAwaited call) := by
  have same : (b.asAwaited call).exchange x = b.exchange x := rfl
  cases closed : (b.exchange x).closed with
  | some first => rw [abort_of_closed closed, abort_of_closed (b := b.asAwaited call) closed]
  | none =>
      rw [abort_of_open closed, abort_of_open (b := b.asAwaited call) closed, same]
      have resolved := resolveAll_asAwaited
        (b.setExchange x { b.exchange x with closed := some reason, waiting := [] }) call
        ((b.exchange x).waiting.map Prod.snd) (.rejected reason)
      exact congrArg (fun board => (_, Switchboard.observe board _)) resolved

theorem forget_asAwaited (x : Nat) (id : UInt64) :
    (b.asAwaited call).forget x id = ((b.forget x id).1, (b.forget x id).2.asAwaited call) := by
  have same : (b.asAwaited call).exchange x = b.exchange x := rfl
  unfold forget
  rw [same]
  split
  · exact congrArg (Prod.mk true) (resolve_asAwaited (b.setExchange x _) call _ _)
  · rfl

theorem drop_asAwaited (x : Nat) :
    (b.asAwaited call).drop x = (b.drop x).asAwaited call :=
  resolveAll_asAwaited (b.setExchange x _) call _ _

theorem settle_asAwaited {k : Nat} (other : k ≠ call) :
    (b.asAwaited call).settle k = (b.settle k).asAwaited call := by
  unfold settle asAwaited
  rw [awaiting_modify call b.calls fun same => absurd same other]

theorem awaited?_asAwaited {k : Nat} (other : k ≠ call) :
    (b.asAwaited call).awaited? k = b.awaited? k := by
  unfold awaited? asAwaited
  rw [awaiting_getElem?]
  simp [other]

theorem poll_asAwaited {k : Nat} (other : k ≠ call) :
    (b.asAwaited call).poll k = ((b.poll k).1, (b.poll k).2.asAwaited call) := by
  unfold poll
  rw [awaited?_asAwaited b call other]
  split
  · rfl
  · split
    · rfl
    · rw [settle_asAwaited b call other]

theorem expire_asAwaited {k : Nat} (other : k ≠ call) (ns : Nat) :
    (b.asAwaited call).expire k ns = ((b.expire k ns).1, (b.expire k ns).2.asAwaited call) := by
  unfold expire
  rw [poll_asAwaited b call other]
  generalize b.poll k = told
  obtain ⟨standing, board⟩ := told
  cases standing with
  | waiting id => simp only [settle_asAwaited board call other]
  | done result => rfl
  | gone => rfl

/-- An action of anybody else does the same and tells the same. -/
theorem perform_asAwaited {a : Action} (other : a.attends call = false) :
    (b.asAwaited call).perform a = (b.perform a).asAwaited call := by
  cases a with
  | openExchange => rfl
  | draw => rfl
  | register x method params => exact congrArg Prod.snd (b.register_asAwaited call x method params)
  | deliver x r => exact congrArg Prod.snd (b.deliver_asAwaited call x r)
  | abort x reason => exact congrArg Prod.snd (b.abort_asAwaited call x reason)
  | forget x id => exact congrArg Prod.snd (b.forget_asAwaited call x id)
  | drop x => exact b.drop_asAwaited call x
  | poll k => exact congrArg Prod.snd (b.poll_asAwaited call (ne_of_beq_false other))
  | expire k ns => exact congrArg Prod.snd (b.expire_asAwaited call (ne_of_beq_false other) ns)
  | forsake k => exact b.settle_asAwaited call (ne_of_beq_false other)

theorem answer_asAwaited {a : Action} (other : a.attends call = false) :
    (b.asAwaited call).answer a = b.answer a := by
  have same : ∀ x, (b.asAwaited call).exchange x = b.exchange x := fun _ => rfl
  unfold answer
  simp only [same]
  split
  · rfl
  · cases a with
    | openExchange => rfl
    | draw => rfl
    | register x method params => simp only [register_asAwaited]
    | deliver x r => simp only [deliver_asAwaited]
    | abort x reason => simp only [abort_asAwaited]
    | forget x id => simp only [forget_asAwaited]
    | drop x => rfl
    | poll k => simp only [poll_asAwaited b call (ne_of_beq_false other)]
    | expire k ns => simp only [expire_asAwaited b call (ne_of_beq_false other)]
    | forsake k => simp only [forsake, awaited?_asAwaited b call (ne_of_beq_false other)]

theorem act_asAwaited {a : Action} (other : a.attends call = false) :
    (b.asAwaited call).act a = (b.act a).asAwaited call := by
  have same : ∀ x, (b.asAwaited call).exchange x = b.exchange x := fun _ => rfl
  unfold act
  simp only [same]
  split
  · rfl
  · exact b.perform_asAwaited call other

theorem asAwaited_settle : (b.settle call).asAwaited call = b.asAwaited call := by
  unfold settle asAwaited awaiting
  congr 1
  apply List.ext_getElem?
  intro i
  rw [List.getElem?_modify, List.getElem?_modify, List.getElem?_modify]
  cases b.calls[i]? with
  | none => rfl
  | some c => by_cases here : call = i <;> simp [here]

/-- What the one who awaits a call does is seen by nobody else. -/
theorem asAwaited_act {a : Action} (own : a.attends call = true) :
    (b.act a).asAwaited call = b.asAwaited call := by
  have settled : ∀ {b'}, b' = b ∨ b' = b.settle call → b'.asAwaited call = b.asAwaited call := by
    rintro b' (rfl | rfl)
    · rfl
    · exact b.asAwaited_settle call
  cases a with
  | poll k =>
      obtain rfl := eq_of_beq own
      exact settled (b.poll_board k)
  | expire k ns =>
      obtain rfl := eq_of_beq own
      exact settled (b.expire_board k ns)
  | forsake k =>
      obtain rfl := eq_of_beq own
      exact b.asAwaited_settle k
  | _ => cases own

end AsAwaited

/-! ### Two runs -/

section Runs

variable {b b' : Switchboard} {call : Nat}

/-- Two switchboards that differ at most in whether a call is awaited go on alike. -/
theorem act_congr (same : b.asAwaited call = b'.asAwaited call) {a : Action}
    (other : a.attends call = false) :
    (b.act a).asAwaited call = (b'.act a).asAwaited call ∧ b.answer a = b'.answer a := by
  constructor
  · rw [← b.act_asAwaited call other, same, b'.act_asAwaited call other]
  · rw [← b.answer_asAwaited call other, same, b'.answer_asAwaited call other]

/-- A run, and the same run without what the one who awaits a call does in it. -/
theorem run_without (same : b.asAwaited call = b'.asAwaited call) (as : List Action) :
    (b.run as).asAwaited call =
        (b'.run (as.filter fun a => !a.attends call)).asAwaited call ∧
      (b.answers as).filter (fun told => !told.1.attends call) =
        b'.answers (as.filter fun a => !a.attends call) := by
  induction as generalizing b b' with
  | nil => exact ⟨same, rfl⟩
  | cons a as ih =>
      cases own : a.attends call with
      | true =>
          obtain ⟨board, told⟩ := ih ((b.asAwaited_act call own).trans same)
          constructor
          · rw [List.filter_cons_of_neg (by simp [own])]
            exact board
          · rw [answers, List.filter_cons_of_neg (by simp [own]),
              List.filter_cons_of_neg (by simp [own])]
            exact told
      | false =>
          obtain ⟨next, answer⟩ := act_congr same own
          obtain ⟨board, told⟩ := ih next
          constructor
          · rw [List.filter_cons_of_pos (by simp [own])]
            exact board
          · rw [answers, List.filter_cons_of_pos (by simp [own]),
              List.filter_cons_of_pos (by simp [own]), answers, answer, told]

theorem exchanges_eq_of_asAwaited (same : b.asAwaited call = b'.asAwaited call) :
    b.exchanges = b'.exchanges ∧ b.log = b'.log := by
  have exchanges := congrArg Switchboard.exchanges same
  have log := congrArg Switchboard.log same
  exact ⟨exchanges, log⟩

/-- Of the calls that there are at most one differs, and that only in whether it is awaited. -/
theorem calls_eq_of_asAwaited (same : b.asAwaited call = b'.asAwaited call) (k : Nat) :
    b.status? k = b'.status? k ∧ (k ≠ call → b.calls[k]? = b'.calls[k]?) := by
  have masked : (awaiting call b.calls)[k]? = (awaiting call b'.calls)[k]? :=
    congrArg (fun board : Switchboard => board.calls[k]?) same
  rw [awaiting_getElem?, awaiting_getElem?] at masked
  constructor
  · have statuses := congrArg (Option.map Call.status) masked
    rw [Option.map_map, Option.map_map] at statuses
    have blind : (Call.status ∘ fun c : Call =>
        if k = call then { c with settled := false } else c) = Call.status := by
      funext c
      by_cases here : k = call <;> simp [here]
    rwa [blind] at statuses
  · intro other
    simpa [other] using masked

end Runs

/-! ### Awaiting with a time limit -/

section Await

variable {b : Switchboard} {call : Nat} {c : Call}

theorem poll_of_found (found : b.calls[call]? = some c) (awaited : c.settled = false) :
    b.poll call =
      match c.outcome with
      | none => (.waiting c.id, b)
      | some result => (.done result, b.settle call) := by
  have still : b.awaited? call = some c := by simp [awaited?, found, awaited]
  cases outcome : c.outcome with
  | none => simp [poll, still, outcome]
  | some result => simp [poll, still, outcome]

/-- A call that is awaited stays so while others act. -/
theorem act_awaited (found : b.calls[call]? = some c) (awaited : c.settled = false) {a : Action}
    (other : a.attends call = false) :
    ∃ d, (b.act a).calls[call]? = some d ∧ d.settled = false := by
  have same : b.asAwaited call = b := by
    have fixed : awaiting call b.calls = b.calls := by
      apply List.ext_getElem?
      intro k
      rw [awaiting_getElem?]
      by_cases here : k = call
      · subst here
        rw [found, Option.map_some, if_pos rfl, ← awaited]
      · simp [here]
    simp only [asAwaited, fixed]
  obtain ⟨inside, -⟩ := List.getElem?_eq_some_iff.mp found
  have longer := b.act_calls_length_le a
  obtain ⟨d, there⟩ : ∃ d, (b.act a).calls[call]? = some d :=
    ⟨_, List.getElem?_eq_getElem (Nat.lt_of_lt_of_le inside longer)⟩
  refine ⟨d, there, ?_⟩
  have masked := b.act_asAwaited call other
  rw [same] at masked
  rw [masked, asAwaited, awaiting_getElem?, Option.map_eq_some_iff] at there
  obtain ⟨e, -, rfl⟩ := there
  rw [if_pos rfl]

/-- Whoever awaits a call for a limited time is told what became of it by then. -/
theorem await_eq (h : b.Placed) (found : b.calls[call]? = some c) (awaited : c.settled = false)
    {schedule : List (Option Action)}
    (others : ∀ a, some a ∈ schedule → a.attends call = false) (ns : Nat) :
    ∃ d, (b.run (schedule.filterMap id)).calls[call]? = some d ∧
      b.await call ns schedule = .done (d.outcome.getD (.error (.timeout ns))) := by
  induction schedule generalizing b c with
  | nil =>
      refine ⟨c, found, ?_⟩
      unfold await expire
      rw [poll_of_found found awaited]
      cases c.outcome <;> rfl
  | cons turn rest ih =>
      have others' : ∀ a, some a ∈ rest → a.attends call = false :=
        fun a member => others a (List.mem_cons_of_mem _ member)
      cases turn with
      | some a =>
          obtain ⟨d, there, still⟩ := act_awaited found awaited (others a List.mem_cons_self)
          exact ih (h.act a).placed there still others'
      | none =>
          unfold await
          rw [poll_of_found found awaited]
          cases told : c.outcome with
          | none => exact ih h found awaited others'
          | some result =>
              -- What was told is what the call comes to in the end.
              have resolved : c.status ≠ .waiting := by
                intro waits
                simp [Call.outcome, waits] at told
              obtain ⟨settled, last⟩ := (h.run (rest.filterMap id)).resolved found resolved
              refine ⟨_, last, ?_⟩
              have outcome : Call.outcome { c with settled } = some result := told
              rw [outcome]
              rfl

end Await

/-- Channels that were just opened, with or without a sequence of their own. -/
def opened (own : List Bool) : Switchboard := own.foldl (fun b o => b.openExchange o) {}

theorem openExchange_waiting {b : Switchboard} (idle : ∀ x, (b.exchange x).waiting = [])
    (own : Bool) (x : Nat) : ((b.openExchange own).exchange x).waiting = [] := by
  have before := idle x
  unfold exchange at before ⊢
  rw [List.getD_eq_getElem?_getD] at before ⊢
  unfold openExchange
  rw [List.getElem?_append]
  split
  · exact before
  · cases found : (_ : List Exchange)[x - b.exchanges.length]? with
    | none => rfl
    | some e =>
        obtain rfl := List.mem_singleton.mp (List.mem_of_getElem? found)
        rfl

theorem placed_opened (own : List Bool) : (opened own).Placed := by
  have idle : ∀ {b : Switchboard}, (∀ x, (b.exchange x).waiting = []) →
      ∀ x, ((own.foldl (fun b o => b.openExchange o) b).exchange x).waiting = [] := by
    induction own with
    | nil => exact fun idle => idle
    | cons first rest ih => exact fun idle => ih (openExchange_waiting idle first)
  have nobody : ∀ x, ((opened own).exchange x).waiting = [] :=
    idle (b := {}) fun _ => by simp [exchange]
  refine ⟨fun {x id k} waits => ?_, fun x => ?_, fun {x} _ => nobody x⟩
  · rw [nobody] at waits
    cases waits
  · rw [nobody]
    exact List.nodup_nil

/-- Giving up a call is seen by nobody else. Take out of any run all that the one who awaits a call
does there: everybody else is told the same at each of their actions, the channels and what was
observed are the same, and so are all other calls and what became of this one. A call that waits
goes on waiting whether or not it is awaited, until an action takes it off its channel for good: its
response finds and answers it, closing the channel counts and rejects it, and forgetting its number
leaves it without an answer. Whoever awaits it for a limited time is told what became of it in time,
or that the time is up. -/
theorem abandoned_call_is_invisible (own : List Bool) (as : List Action) (call : Nat) :
    let kept := as.filter fun a => !a.attends call
    let b := (opened own).run as
    let b' := (opened own).run kept
    ((opened own).answers as).filter (fun told => !told.1.attends call) =
      (opened own).answers kept ∧
    b.exchanges = b'.exchanges ∧ b.log = b'.log ∧
    (∀ k, b.status? k = b'.status? k ∧ (k ≠ call → b.calls[k]? = b'.calls[k]?)) ∧
    (∀ x id, (id, call) ∈ (b.exchange x).waiting →
      (∀ r, r.id = some id → (b.deliver x r).1 = true ∧
        TakenOff b call (.answered r) (b.deliver x r).2) ∧
      (∀ reason, (b.abort x reason).1 = (b.exchange x).waiting.length ∧
        Emptied b x reason (b.abort x reason).2) ∧
      ((b.forget x id).1 = true ∧ TakenOff b call .orphaned (b.forget x id).2) ∧
      ∀ more, (id, call) ∈ ((b.run more).exchange x).waiting ∨
        ∃ before a after, more = before ++ a :: after ∧
          (id, call) ∈ ((b.run before).exchange x).waiting ∧ Removes (b.run before) x id a ∧
          ∀ rest y i, (i, call) ∉ ((b.run (before ++ a :: rest)).exchange y).waiting) ∧
    ∀ c ns schedule, b.calls[call]? = some c → c.settled = false →
      (∀ a, some a ∈ schedule → a.attends call = false) →
      ∃ d, (b.run (schedule.filterMap id)).calls[call]? = some d ∧
        b.await call ns schedule = .done (d.outcome.getD (.error (.timeout ns))) := by
  intro kept b b'
  have placed : b.Placed := ((placed_opened own).run as).placed
  have start : (opened own).asAwaited call = (opened own).asAwaited call := rfl
  obtain ⟨same, told⟩ := run_without start as
  obtain ⟨exchanges, log⟩ := exchanges_eq_of_asAwaited same
  refine ⟨told, exchanges, log, calls_eq_of_asAwaited same, fun x id waits => ?_,
    fun c ns schedule found awaited others => await_eq placed found awaited others ns⟩
  exact ⟨fun r number => deliver_of_waits placed waits number, abort_of_waits placed waits,
    forget_of_waits placed waits, run_waits placed waits⟩

/-- A call that was given up, and one that is awaited on a channel with a sequence of its own, so
that both have the same number: the first is still counted, answered and forgotten, and after its
response it waits nowhere. Closing its channel does nothing to the second, whose time runs out. -/
theorem forsaken_call_is_answered :
    let as : List Action := [.register 0 "status" .null, .register 1 "status" .null, .forsake 0]
    let b := (opened [false, true]).run as
    let response : Response := .success 1 .null
    b.log = ((opened [false, true]).run [.register 0 "status" .null,
      .register 1 "status" .null]).log ∧
    (1, 0) ∈ (b.exchange 0).waiting ∧ (b.deliver 0 response).1 = true ∧
    (b.deliver 0 response).2.status? 0 = some (.answered response) ∧
    ((b.deliver 0 response).2.exchange 0).waiting = [] ∧
    ((b.deliver 0 response).2.exchange 1).waiting = [(1, 1)] ∧
    (b.abort 0 "exited").1 = 1 ∧ (b.abort 0 "exited").2.status? 0 = some (.rejected "exited") ∧
    (b.forget 0 1).2.status? 0 = some .orphaned ∧
    (1, 0) ∉ ((b.run [.deliver 0 response, .register 0 "status" .null]).exchange 0).waiting ∧
    b.await 1 5000 [none, some (.abort 0 "exited")] = .done (.error (.timeout 5000)) := by
  intro as b response
  obtain ⟨-, -, log, -, stays, -⟩ := abandoned_call_is_invisible [false, true] as 0
  obtain ⟨-, -, -, -, -, limited⟩ := abandoned_call_is_invisible [false, true] as 1
  have waits : (1, 0) ∈ (b.exchange 0).waiting := by decide
  obtain ⟨delivered, closed, ⟨-, forgotten⟩, later⟩ := stays 0 1 waits
  obtain ⟨matched, answered⟩ := delivered response rfl
  obtain ⟨counted, emptied⟩ := closed "exited"
  obtain ⟨d, last, told⟩ := limited { exchange := 1, id := 1 } 5000
    [none, some (.abort 0 "exited")] rfl rfl (by simp [Action.attends])
  cases last
  refine ⟨log, waits, matched, answered.status, ?_, ?_, counted, emptied.statuses 1 0 waits,
    forgotten.status, ?_, told⟩
  · rw [answered.exchange]
    rfl
  · rw [answered.exchange]
    rfl
  · rcases later [.deliver 0 response, .register 0 "status" .null] with still | left
    · revert still
      decide
    · obtain ⟨before, a, after, split, -, -, gone⟩ := left
      rw [split]
      exact gone after 0 1

end RpcLink.Switchboard
