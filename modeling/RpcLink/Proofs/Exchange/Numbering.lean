import RpcLink.Proofs.Exchange.Arrival

/-!
The numbers under which calls wait on channels, of which some share one sequence and others have one
of their own. As long as no sequence begins anew, the next number of a channel is above all under
which calls wait there.
-/

namespace RpcLink.Switchboard

/-- The channel whose own sequence a channel draws from; `none` is the shared one. -/
def source (b : Switchboard) (x : Nat) : Option Nat :=
  if (b.exchange x).ownNext.isSome then some x else none

/-- The next number of a channel. -/
def nextOf (b : Switchboard) (x : Nat) : UInt64 := (b.exchange x).ownNext.getD b.next

/-- How many numbers an action draws from a sequence. -/
def drawsFrom (s : Option Nat) (b : Switchboard) : Action → Nat
  | .draw => if s = none then 1 else 0
  | .register x _ _ =>
    if (b.exchange x).dropped = false ∧ (b.exchange x).closed = none ∧ s = b.source x then 1 else 0
  | _ => 0

/-- How many numbers are drawn from a sequence in a run. -/
def drawnFrom (s : Option Nat) (b : Switchboard) : List Action → Nat
  | [] => 0
  | a :: as => b.drawsFrom s a + (b.act a).drawnFrom s as

/-- From each sequence `n` numbers were drawn, and calls wait under no others. -/
def Numbered (n : Option Nat → Nat) (b : Switchboard) : Prop :=
  ∀ x, b.nextOf x = UInt64.ofNat (n (b.source x) + 1) ∧
    ∀ w ∈ (b.exchange x).waiting, w.1.toNat ≤ n (b.source x)

theorem drawsFrom_le_one (s : Option Nat) (b : Switchboard) (a : Action) :
    b.drawsFrom s a ≤ 1 := by
  cases a <;> simp only [drawsFrom] <;> try split
  all_goals omega

/-- No action draws more than one number. -/
theorem drawnFrom_le_length (s : Option Nat) (b : Switchboard) (as : List Action) :
    b.drawnFrom s as ≤ as.length := by
  induction as generalizing b with
  | nil => exact Nat.le_refl _
  | cons a as ih =>
      have first := b.drawsFrom_le_one s a
      have rest := ih (b.act a)
      simp only [drawnFrom, List.length_cons]
      omega

theorem forget_next (b : Switchboard) (x : Nat) (id : UInt64) :
    (b.forget x id).2.next = b.next := by
  unfold forget
  split <;> rfl

/-- Asking how a call stands draws no number. -/
theorem settled_next {b b' : Switchboard} {call : Nat} (same : b' = b ∨ b' = b.settle call) :
    b'.next = b.next := by
  rcases same with rfl | rfl <;> rfl

theorem source_eq_some_iff {b : Switchboard} {x y : Nat} :
    b.source x = some y ↔ x = y ∧ (b.exchange x).ownNext.isSome := by
  unfold source
  split <;> simp_all

theorem source_eq_none_iff {b : Switchboard} {x : Nat} :
    b.source x = none ↔ (b.exchange x).ownNext = none := by
  cases own : (b.exchange x).ownNext <;> simp [source, own]

/-! ### A number is drawn for a channel -/

section Register

variable (b : Switchboard) (x y : Nat) (method : String) (params : Json)

theorem drawFor_fst : (b.drawFor x).1 = b.nextOf x := by
  unfold drawFor nextOf
  split <;> simp_all [draw]

theorem register_number {request : Request} {call : Nat} {board : Switchboard}
    (registered : b.register x method params = (.ok (request, call), board)) :
    request.id = b.nextOf x := by
  unfold register at registered
  split at registered
  · cases registered
  · cases registered
    exact b.drawFor_fst x

theorem drawFor_source : (b.drawFor x).2.source y = b.source y := by
  unfold drawFor
  split
  · rename_i id own
    unfold source
    rw [exchange_setExchange]
    split
    · rename_i here
      simp [here.1, own]
    · rfl
  · rfl

/-- Those who share the sequence of a channel draw the number after its next one. -/
theorem drawFor_nextOf :
    (b.drawFor x).2.nextOf y = if b.source y = b.source x then b.nextOf y + 1 else b.nextOf y := by
  unfold drawFor
  split
  · rename_i id own
    have inside : x < b.exchanges.length := by
      by_contra beyond
      simp [exchange, List.getElem?_eq_none (Nat.le_of_not_lt beyond)] at own
    have named : b.source x = some x := source_eq_some_iff.mpr ⟨rfl, by simp [own]⟩
    rw [named]
    unfold nextOf
    rw [exchange_setExchange]
    by_cases here : y = x
    · subst here
      simp [inside, own, named]
    · have other : b.source y ≠ some x := fun same => here (source_eq_some_iff.mp same).1
      simp [here, other]
  · rename_i shared
    rw [source_eq_none_iff.mpr shared]
    unfold nextOf draw
    show (Option.getD (b.exchange y).ownNext _) = _
    cases own : (b.exchange y).ownNext with
    | none => rw [if_pos (source_eq_none_iff.mpr own)]; rfl
    | some id =>
        have other : b.source y ≠ none := fun same => by
          rw [source_eq_none_iff.mp same] at own
          cases own
        rw [if_neg other]
        rfl

end Register

/-! ### Actions -/

theorem openExchange_exchange (b : Switchboard) (own : Bool) (y : Nat) :
    (b.openExchange own).exchange y =
      if y = b.exchanges.length then { ownNext := if own then some 1 else none }
      else b.exchange y := by
  unfold exchange openExchange
  rw [List.getD_eq_getElem?_getD, List.getD_eq_getElem?_getD, List.getElem?_append]
  rcases Nat.lt_trichotomy y b.exchanges.length with less | rfl | more
  · simp [less, Nat.ne_of_lt less]
  · simp
  · have beyond : ¬ y < b.exchanges.length := by omega
    have positive : y - b.exchanges.length ≠ 0 := by omega
    simp [beyond, positive, Nat.ne_of_gt more]

namespace Numbered

variable {n : Option Nat → Nat} {b b' : Switchboard}

/-- No number is drawn, and nobody else waits. -/
theorem of_fewer (h : b.Numbered n) (next : b'.next = b.next)
    (own : ∀ x, (b'.exchange x).ownNext = (b.exchange x).ownNext)
    (fewer : ∀ x, ∀ w ∈ (b'.exchange x).waiting, w ∈ (b.exchange x).waiting) : b'.Numbered n := by
  intro x
  obtain ⟨number, below⟩ := h x
  have source : b'.source x = b.source x := by simp only [Switchboard.source, own]
  have sameNext : b'.nextOf x = b.nextOf x := by simp only [nextOf, own, next]
  rw [source, sameNext]
  exact ⟨number, fun w waits => below w (fewer x w waits)⟩

theorem of_shrinks (h : b.Numbered n) (next : b'.next = b.next) (shrinks : Shrinks b b') :
    b'.Numbered n := by
  refine h.of_fewer next (fun x => ?_) fun x w waits => ?_
  · obtain ⟨waiting, -, shape⟩ := shrinks.exchange_eq x
    rw [shape]
  · obtain ⟨waiting, fewer, shape⟩ := shrinks.exchange_eq x
    rw [shape] at waits
    exact fewer.subset waits

/-- Everybody leaves a channel, which goes on drawing from its sequence. -/
theorem emptied (h : b.Numbered n) {x : Nat} {e : Exchange}
    (own : e.ownNext = (b.exchange x).ownNext) (empty : e.waiting = []) (calls : List Nat)
    (status : CallStatus Response) : ((b.setExchange x e).resolveAll calls status).Numbered n := by
  refine h.of_fewer (resolveAll_next ..) (fun y => ?_) fun y w waits => ?_
  · rw [resolveAll_exchange, exchange_setExchange]
    split
    · rename_i here
      rw [own, here.1]
    · rfl
  · rw [resolveAll_exchange, exchange_setExchange] at waits
    split at waits
    · simp [empty] at waits
    · exact waits

theorem abort (h : b.Numbered n) (x : Nat) (reason : String) :
    (b.abort x reason).2.Numbered n := by
  cases closed : (b.exchange x).closed with
  | some first => rw [abort_of_closed closed]; exact h
  | none =>
      rw [abort_of_open closed]
      exact h.emptied (e := { b.exchange x with closed := some reason, waiting := [] }) rfl rfl _ _

theorem drop (h : b.Numbered n) (x : Nat) : (b.drop x).Numbered n :=
  h.emptied (e := { b.exchange x with waiting := [], dropped := true }) rfl rfl _ _

theorem openExchange (h : b.Numbered n) {own : Bool}
    (unused : own = true → n (some b.exchanges.length) = 0) :
    (b.openExchange own).Numbered n := by
  intro y
  by_cases fresh : y = b.exchanges.length
  · subst fresh
    -- A place where there is no channel counts as drawing from the shared sequence.
    have beyond : b.exchange b.exchanges.length = { dropped := true } := by simp [exchange]
    have shared : b.next = UInt64.ofNat (n none + 1) := by
      simpa [nextOf, source, beyond] using (h b.exchanges.length).1
    simp only [nextOf, source, openExchange_exchange]
    cases own with
    | false => exact ⟨shared, by simp⟩
    | true => simp [unused rfl]
  · have other : (b.openExchange own).exchange y = b.exchange y := by
      rw [openExchange_exchange, if_neg fresh]
    simp only [nextOf, source, other]
    exact h y

/-- The next number of a channel is above those under which calls wait on it. -/
theorem id_lt_next (h : b.Numbered n) {x : Nat} (few : n (b.source x) + 1 < 2 ^ 64)
    {w : UInt64 × Nat} (waits : w ∈ (b.exchange x).waiting) : w.1 < b.nextOf x := by
  obtain ⟨number, below⟩ := h x
  rw [UInt64.lt_iff_toNat_lt, number, UInt64.toNat_ofNat', Nat.mod_eq_of_lt few]
  exact Nat.lt_succ_of_le (below w waits)

/-- Nobody waits under the next number of a channel. -/
theorem fresh (h : b.Numbered n) {x : Nat} (few : n (b.source x) + 1 < 2 ^ 64) :
    ∀ w ∈ (b.exchange x).waiting, (w.1 != b.nextOf x) = true :=
  fun _ waits => bne_iff_ne.mpr (UInt64.ne_of_lt (h.id_lt_next few waits))

theorem draw (h : b.Numbered n) :
    b.draw.2.Numbered fun s => n s + if s = none then 1 else 0 := by
  intro x
  obtain ⟨number, below⟩ := h x
  refine ⟨?_, fun w waits => Nat.le_add_right_of_le (below w waits)⟩
  show (b.exchange x).ownNext.getD (b.next + 1) =
    UInt64.ofNat (n (b.source x) + (if b.source x = none then 1 else 0) + 1)
  unfold nextOf at number
  cases own : (b.exchange x).ownNext with
  | none =>
      rw [own] at number
      rw [if_pos (source_eq_none_iff.mpr own), UInt64.ofNat_add _ 1, ← number]
      rfl
  | some id =>
      have other : b.source x ≠ none := fun same => by
        rw [source_eq_none_iff.mp same] at own
        cases own
      rw [own] at number
      rw [if_neg other]
      exact number

theorem register (h : b.Numbered n) {x : Nat} (opened : (b.exchange x).closed = none)
    (few : n (b.source x) + 1 < 2 ^ 64) (method : String) (params : Json) :
    (b.register x method params).2.Numbered fun s => n s + if s = b.source x then 1 else 0 := by
  intro y
  obtain ⟨number, below⟩ := h y
  have sources := b.drawFor_source x y
  have nexts := b.drawFor_nextOf x y
  obtain ⟨id, registered, -, waiting⟩ := b.register_waiting method params opened
  have drawn : id = b.nextOf x := by
    have := b.register_number x method params (Prod.ext registered rfl)
    exact this
  have own : ((b.register x method params).2.exchange y).ownNext =
      ((b.drawFor x).2.exchange y).ownNext := by
    simp only [Switchboard.register, opened, exchange_setExchange]
    split
    · rename_i here
      rw [here.1]
      rfl
    · rfl
  have next : (b.register x method params).2.next = (b.drawFor x).2.next := by
    simp only [Switchboard.register, opened]
    rfl
  have source : (b.register x method params).2.source y = b.source y := by
    rw [← sources]
    simp only [Switchboard.source, own]
  have nextOf : (b.register x method params).2.nextOf y = (b.drawFor x).2.nextOf y := by
    simp only [Switchboard.nextOf, own, next]
  rw [source, nextOf, nexts, number]
  dsimp only
  constructor
  · split
    · exact (UInt64.ofNat_add _ 1).symm
    · rfl
  · intro w waits
    rw [waiting] at waits
    split at waits
    · rename_i here
      obtain ⟨rfl, -⟩ := here
      rcases List.mem_append.mp waits with old | new
      · exact Nat.le_add_right_of_le (below w (List.mem_of_mem_filter old))
      · rw [List.mem_singleton.mp new, drawn, number, UInt64.toNat_ofNat', Nat.mod_eq_of_lt few,
          if_pos rfl]
    · exact Nat.le_add_right_of_le (below w waits)

theorem perform (h : b.Numbered n) {a : Action}
    (there : ∀ x, a.channel? = some x → (b.exchange x).dropped = false)
    (few : ∀ s, n s + b.drawsFrom s a < 2 ^ 64) :
    (b.perform a).Numbered fun s => n s + b.drawsFrom s a := by
  cases a with
  | openExchange => exact h.openExchange (by simp)
  | draw => exact h.draw
  | register x method params =>
      cases closed : (b.exchange x).closed with
      | some reason =>
          simpa [drawsFrom, Switchboard.perform, closed, register_of_closed closed] using h
      | none =>
          simp only [drawsFrom, there x rfl, closed, true_and] at few ⊢
          exact h.register closed (by simpa using few (b.source x)) method params
  | deliver x r => exact h.of_shrinks (b.deliver_next x r) (b.shrinks_deliver x r)
  | abort x reason => exact h.abort x reason
  | forget x id => exact h.of_shrinks (b.forget_next x id) (b.shrinks_forget x id)
  | drop x => exact h.drop x
  | poll call => exact h.of_shrinks (settled_next (b.poll_board call)) (b.shrinks_poll call)
  | expire call ns =>
      exact h.of_shrinks (settled_next (b.expire_board call ns)) (b.shrinks_expire call ns)
  | forsake call => exact h.of_shrinks rfl (b.shrinks_settle call)

theorem act (h : b.Numbered n) {a : Action} (few : ∀ s, n s + b.drawsFrom s a < 2 ^ 64) :
    (b.act a).Numbered fun s => n s + b.drawsFrom s a := by
  by_cases gone : a.channel?.any fun x => (b.exchange x).dropped
  · have same : b.act a = b := if_pos gone
    have nothing : ∀ s, b.drawsFrom s a = 0 := by
      intro s
      cases a <;> simp_all [drawsFrom, Action.channel?]
    simpa only [same, nothing, Nat.add_zero] using h
  · have same : b.act a = b.perform a := if_neg gone
    rw [same]
    refine h.perform (fun x here => ?_) few
    simpa [here] using gone

end Numbered

/-- Nobody waits on channels that were just opened, and no number was drawn. -/
theorem numbered_opened (own : List Bool) : Numbered (fun _ => 0) (opened own) := by
  have empty : Numbered (fun _ => 0) {} := fun x => by simp [nextOf, exchange]
  have all : ∀ b : Switchboard, b.Numbered (fun _ => 0) →
      (own.foldl (fun b o => b.openExchange o) b).Numbered fun _ => 0 := by
    induction own with
    | nil => exact fun _ h => h
    | cons o own ih => exact fun b h => ih _ (h.openExchange fun _ => rfl)
  exact all {} empty

end RpcLink.Switchboard
