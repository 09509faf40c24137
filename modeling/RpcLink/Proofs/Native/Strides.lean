import RpcLink.Proofs.Native.Line
import RpcLink.Proofs.Native.Traffic

/-!
What a task does about connections in one step. It asks the connector at most once, and only when no
task asks it yet and there is no connection, it makes at most one further connection the current
one, and what it posts goes over the connection that is the current one then. What happens other
than a step may end the current connection, and nothing more.
-/

namespace RpcLink.Native

/-- A task has come to a phase or beyond it. -/
def Client.Reached (c : Client) (task rank : Nat) : Prop :=
  ∃ p, c.phase? task = some p ∧ rank ≤ p.rank

/-- Nobody asks for a connection, and there is none. -/
structure Client.Idle (c : Client) : Prop where
  quiet : ¬ c.IsOpening
  dead : c.live? = none

/-- A task goes on and posts something. It asks the connector at most once, when nothing speaks
against it, there is at most one further connection, and it posts over the one that is the current
one then. -/
structure Stride (task : Nat) (c : Client) (σ : List Crossing) (c' : Client) : Prop where
  onward : ∀ {rank}, c.Reached task rank → c'.Reached task rank
  dials : c'.dialled = c.dialled ∧ (c'.Reached task 2 ∨ (c'.Idle → c.Idle)) ∨
    (∃ host, c'.dialled = c.dialled ++ [host]) ∧ c.Idle ∧ ¬ c.Reached task 2 ∧ c'.Reached task 2
  links : c'.links.length = c.links.length ∧ (c'.current = c.current ∨ c'.current = none) ∨
    c'.links.length = c.links.length + 1 ∧ c'.current = some c.links.length ∧ c'.Reached task 3
  posts : ∀ {t link message}, .posted t link message ∈ σ →
    c'.current = some link ∧ c'.Reached task 3
  /-- A task that has a connection gets no other one. -/
  late : c.Reached task 3 → c'.links.length = c.links.length ∧ c'.current = c.current

namespace Stride

variable {task : Nat} {c a b : Client} {σ τ : List Crossing}

theorem refl (task : Nat) (c : Client) : Stride task c [] c where
  onward := id
  dials := .inl ⟨rfl, .inr id⟩
  links := .inl ⟨rfl, .inl rfl⟩
  posts := by simp
  late _ := ⟨rfl, rfl⟩

theorem trans (first : Stride task c σ a) (second : Stride task a τ b) :
    Stride task c (σ ++ τ) b where
  onward reached := second.onward (first.onward reached)
  dials := by
    rcases first.dials with ⟨same, before⟩ | ⟨⟨host, one⟩, idle, early, far⟩
    · rcases second.dials with ⟨same', after⟩ | ⟨⟨host, one⟩, idle, early, far⟩
      · refine .inl ⟨same'.trans same, ?_⟩
        rcases before with far | back
        · exact .inl (second.onward far)
        · exact after.imp id fun back' idle => back (back' idle)
      · have back := before.resolve_left early
        exact .inr ⟨⟨host, same ▸ one⟩, back idle, fun far => early (first.onward far), far⟩
    · rcases second.dials with ⟨same', -⟩ | ⟨-, -, early', -⟩
      · exact .inr ⟨⟨host, same'.trans one⟩, idle, early, second.onward far⟩
      · exact absurd far early'
  links := by
    rcases first.links with ⟨length, before⟩ | ⟨length, current, far⟩
    · rcases second.links with ⟨length', after⟩ | ⟨length', current', far⟩
      · refine .inl ⟨length'.trans length, ?_⟩
        rcases after with same | lost
        · exact before.imp same.trans same.trans
        · exact .inr lost
      · exact .inr ⟨by rw [length', length], by rw [current', length], far⟩
    · obtain ⟨length', same⟩ := second.late far
      exact .inr ⟨length'.trans length, same.trans current, second.onward far⟩
  posts member := by
    rcases List.mem_append.mp member with before | now
    · obtain ⟨current, far⟩ := first.posts before
      exact ⟨(second.late far).2.trans current, second.onward far⟩
    · exact second.posts now
  late far := by
    obtain ⟨length, same⟩ := first.late far
    obtain ⟨length', same'⟩ := second.late (first.onward far)
    exact ⟨length'.trans length, same'.trans same⟩

end Stride

section

variable {c a c' : Client} {task link rank : Nat} {job : Job} {ask : Relay.Ask}
  {old new : Phase} {out : List (Nat × Json)}

namespace Goes

variable (goes : Goes c task old new c')

include goes

theorem reached_iff : c.Reached task rank ↔ rank ≤ old.rank := by
  unfold Client.Reached
  rw [goes.before]
  simp

theorem reached'_iff : c'.Reached task rank ↔ rank ≤ new.rank := by
  unfold Client.Reached
  rw [goes.there]
  simp

theorem onward_reached (reached : c.Reached task rank) : c'.Reached task rank :=
  goes.reached'_iff.mpr (Nat.le_trans (goes.reached_iff.mp reached) (Nat.le_of_lt goes.later))

/-- A task comes to where it is done with connecting, and there is no further connection. -/
theorem stride (far : 3 ≤ new.rank) (dialled : c'.dialled = c.dialled)
    (length : c'.links.length = c.links.length)
    (current : c'.current = c.current ∨ c'.current = none)
    (posts : ∀ o ∈ out, c'.current = some o.1) (late : 3 ≤ old.rank → c'.current = c.current) :
    Stride task c (out.map fun o => .posted task o.1 o.2) c' where
  onward := goes.onward_reached
  dials := .inl ⟨dialled, .inl (goes.reached'_iff.mpr (Nat.le_of_succ_le far))⟩
  links := .inl ⟨length, current⟩
  posts member := by
    obtain ⟨o, there, same⟩ := List.mem_map.mp member
    cases same
    exact ⟨posts o there, goes.reached'_iff.mpr far⟩
  late reached := ⟨length, late (goes.reached_iff.mp reached)⟩

end Goes

theorem Sent.dialled (sent : Sent task link job ask c out c') : c'.dialled = c.dialled := by
  cases sent with
  | refused closed => rfl
  | withdrawn registered reason => rfl
  | posted registered fits taken => rfl

theorem Client.giveUp_dialled (c : Client) : c.giveUp.dialled = c.dialled := by
  unfold giveUp
  cases c.current <;> rfl

theorem Client.giveUp_current (c : Client) : c.giveUp.current = none := by
  unfold giveUp
  cases current : c.current with
  | none => exact current
  | some link => rfl

theorem Client.letGo_current (c : Client) (task : Nat) : (c.letGo task).current = c.current := by
  unfold letGo
  split <;> rfl

theorem Client.letGo_dialled (c : Client) (task : Nat) : (c.letGo task).dialled = c.dialled := by
  unfold letGo
  split <;> rfl

theorem Sent.posts_current (sent : Sent task link job ask c out c')
    (current : c.current = some link) (o : Nat × Json) (member : o ∈ out) :
    c'.current = some o.1 := by
  rw [sent.lock.2, current, sent.one_out.2 o member]

theorem Move.stride (h : Linked c) (move : Move task c out c') :
    Stride task c (out.map fun o => .posted task o.1 o.2) c' := by
  cases move with
  | refuse found unread =>
      exact Goes.stride (goes_setPhase rfl (Client.phase?_of_found found) (by simp)) (by simp)
        rfl rfl (.inl rfl) (by simp) fun _ => rfl
  | queue found held =>
      have goes := goes_queued found { c.lock with queue := c.lock.queue ++ [task] }
      constructor
      case onward => exact goes.onward_reached
      case dials =>
        refine .inl ⟨rfl, .inr fun idle => ⟨fun opening => idle.quiet ?_, idle.dead⟩⟩
        exact (goes.isOpening_iff trivial trivial).mpr opening
      case links => exact .inl ⟨rfl, .inl rfl⟩
      case posts => simp
      case late => exact fun _ => ⟨rfl, rfl⟩
  | send found asks live sent =>
      obtain ⟨new, far, goes⟩ := sent.goes (Client.phase?_of_found found) (by simp) rfl
      exact goes.stride far sent.dialled sent.links_length (.inl sent.lock.2)
        (sent.posts_current (Client.live?_eq_some_iff.mp live).1) fun _ => sent.lock.2
  | sendLocked found asks grants live sent =>
      have early := Nat.lt_succ_of_lt grants.rank_lt
      obtain ⟨new, far, goes⟩ := sent.goes (Client.phase?_of_found found) early rfl
      exact goes.stride far sent.dialled sent.links_length (.inl sent.lock.2)
        (sent.posts_current (Client.live?_eq_some_iff.mp live).1) fun _ => sent.lock.2
  | dial found asks grants dead =>
      have goes := grants.goes found
      have early := Nat.not_le_of_lt grants.rank_lt
      constructor
      case onward => exact goes.onward_reached
      case dials =>
        refine .inr ⟨⟨_, rfl⟩, ⟨?_, dead⟩, fun reached => early (goes.reached_iff.mp reached),
          goes.reached'_iff.mpr (by simp)⟩
        rintro ⟨t, host, opening⟩
        exact h.not_opening_of_grants found grants opening
      case links => exact .inl ⟨rfl, .inl rfl⟩
      case posts => simp
      case late => exact fun _ => ⟨rfl, rfl⟩
  | fail found asks =>
      exact Goes.stride (goes_setPhase rfl (Client.phase?_of_found found) (by simp)) (by simp)
        rfl rfl (.inr rfl) (by simp) (by simp)
  | connect found asks sent =>
      obtain ⟨new, far, goes⟩ := sent.goes (Client.phase?_of_found found) (by simp) rfl
      constructor
      case onward => exact goes.onward_reached
      case dials =>
        exact .inl ⟨sent.dialled, .inl (goes.reached'_iff.mpr (Nat.le_of_succ_le far))⟩
      case links =>
        exact .inr ⟨sent.links_length.trans (by simp), sent.lock.2, goes.reached'_iff.mpr far⟩
      case posts =>
        intro t link message member
        obtain ⟨o, there, same⟩ := List.mem_map.mp member
        cases same
        exact ⟨sent.posts_current rfl o there, goes.reached'_iff.mpr far⟩
      case late =>
        intro reached
        have := goes.reached_iff.mp reached
        simp at this
  | @disconnect job phase lock found asks grants =>
      have goes : Goes c task phase (.done .disconnected)
          (Client.setPhase { c.giveUp with lock := lock.release } task (.done .disconnected)) :=
        goes_setPhase c.giveUp_tasks (Client.phase?_of_found found)
          (Nat.lt_of_lt_of_le grants.rank_lt (by simp))
      refine goes.stride (by simp) c.giveUp_dialled (congrArg List.length c.giveUp_links)
        (.inr c.giveUp_current) (by simp) fun far => ?_
      have := grants.rank_lt
      omega
  | answer found told =>
      exact Goes.stride (goes_setPhase rfl (Client.phase?_of_found found) (by simp)) (by simp)
        rfl rfl (.inl rfl) (by simp) fun _ => rfl
  | expire found waits limited limit =>
      exact (Client.letGo_goes found waits rfl).stride (by simp) (c.letGo_dialled task)
        (congrArg List.length (c.letGo_links task)) (.inl (c.letGo_current task)) (by simp)
        fun _ => c.letGo_current task

theorem Client.step_stride (h : Linked c) (task : Nat) (dial : Dial) (timeUp : Bool) :
    Stride task c (c.posts task (c.step task dial timeUp)) (c.step task dial timeUp) := by
  refine step_keeps_posts (P := fun a σ => Stride task c σ a) (τ := []) ?_ h (.refl task c)
    dial timeUp
  exact fun linked stride move => stride.trans (move.stride linked)

/-! ### Events -/

/-- What happens to the connections at once, while something is posted. -/
structure Turn (c : Client) (σ : List Crossing) (c' : Client) : Prop where
  dials : c'.dialled = c.dialled ∨ (∃ host, c'.dialled = c.dialled ++ [host]) ∧ c.Idle
  links : c'.links.length = c.links.length ∧ (c'.current = c.current ∨ c'.current = none) ∨
    c'.links.length = c.links.length + 1 ∧ c'.current = some c.links.length
  posts : ∀ {t link message}, .posted t link message ∈ σ → c'.current = some link

theorem Stride.turn {σ : List Crossing} (stride : Stride task c σ c') : Turn c σ c' where
  dials := stride.dials.imp And.left fun ⟨one, idle, _⟩ => ⟨one, idle⟩
  links := stride.links.imp_right fun ⟨length, current, _⟩ => ⟨length, current⟩
  posts member := (stride.posts member).1

theorem Quietly.turn {σ : List Crossing} (quietly : Quietly c c')
    (nothing : ∀ {t link message}, .posted t link message ∉ σ) : Turn c σ c' := by
  cases quietly with
  | spawned job => exact ⟨.inl rfl, .inl ⟨rfl, .inl rfl⟩, fun member => absurd member nothing⟩
  | @cancelled task t found waits =>
      exact ⟨.inl (c.letGo_dialled task),
        .inl ⟨congrArg List.length (c.letGo_links task), .inl (c.letGo_current task)⟩,
        fun member => absurd member nothing⟩
  | quiet quiet =>
      exact ⟨.inl quiet.dialled, .inl ⟨quiet.links_length, quiet.current⟩,
        fun member => absurd member nothing⟩

theorem Client.posted_not_mem_receipts {most : Option Nat} {t l : Nat} {message : Json} :
    .posted t l message ∉ c.receipts link most := by
  unfold receipts
  intro member
  split at member
  · split at member
    · simp at member
    · cases member
  · cases member

theorem Client.happen_turn (h : Linked c) (e : Event) : Turn c (c.crossings e) (c.happen e) := by
  cases e with
  | step task dial timeUp => exact (step_stride h task dial timeUp).turn
  | spawn job => exact Quietly.turn (.spawned job) (by simp [crossings])
  | cancel task => exact (c.cancel_quietly task).turn (by simp [crossings])
  | attend link most =>
      exact Quietly.turn (.quiet (quiet_attend c link most)) posted_not_mem_receipts
  | peer link act => exact Quietly.turn (.quiet (quiet_onPort c link _ ())) (by simp [crossings])
  | configure settings =>
      exact Quietly.turn (.quiet ⟨rfl, rfl, rfl, rfl, rfl, .inl rfl⟩) (by simp [crossings])

namespace Linked

theorem current_of_isOpen (h : Linked c) (inside : link < c.links.length)
    (opened : (c.board.exchange link).isOpen = true) : c.current = some link := by
  by_contra other
  have closed := (h.connections.retired inside other).1
  simp only [Exchange.isOpen, Option.isNone_iff_eq_none] at opened
  simp [opened] at closed

/-- The current connection is open, and calls use it. -/
theorem not_idle_of_current (h : Linked c) (current : c.current = some link) : ¬ c.Idle := by
  intro idle
  have live := Client.live?_eq_some_iff.mpr ⟨current, (h.connections.current_open current).2⟩
  rw [idle.dead] at live
  cases live

theorem closed_of_idle (h : Linked c) (idle : c.Idle) (inside : link < c.links.length) :
    (c.board.exchange link).isOpen = false := by
  by_contra opened
  rw [Bool.not_eq_false] at opened
  exact h.not_idle_of_current (h.current_of_isOpen inside opened) idle

end Linked

/-- A connection that is not the current one does not become it. -/
theorem Turn.current_of {σ : List Crossing} (turn : Turn c σ c') (inside : link < c.links.length)
    (current : c'.current = some link) : c.current = some link := by
  rcases turn.links with ⟨-, same | lost⟩ | ⟨-, further⟩
  · exact same.symm.trans current
  · rw [lost] at current
    cases current
  · rw [further] at current
    obtain rfl := Option.some.inj current
    exact absurd inside (Nat.lt_irrefl _)

theorem Turn.dialled_of_not_idle {σ : List Crossing} (turn : Turn c σ c') (busy : ¬ c.Idle) :
    c'.dialled = c.dialled :=
  turn.dials.resolve_right fun ⟨_, idle⟩ => busy idle

theorem Turn.links_le {σ : List Crossing} (turn : Turn c σ c') :
    c.links.length ≤ c'.links.length := by
  rcases turn.links with ⟨same, -⟩ | ⟨more, -⟩ <;> omega

end

end RpcLink.Native
