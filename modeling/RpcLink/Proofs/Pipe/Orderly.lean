import Mathlib.Data.Set.Insert
import RpcLink.Proofs.Pipe.Launches
import RpcLink.Proofs.Pipe.Retreats

/-!
In which order a client speaks to its servers. Some of them have welcomed it: they answered the
greeting with what they say of themselves. Others are lost: their greeting failed. On a channel
whose server has not welcomed the client, the greeting is the only call, and only the task that
holds the lock knows of the channel. That is the invariant. Here it is kept by what can be done to a
client: what asks nothing, one more call, one more request, one more server.
-/

namespace RpcLink.Pipe

open FairLock (Spares)
open Switchboard (Registers)

namespace Client

/-- The greeting that a client sends under a number. -/
def hello (c : Client) (id : UInt64) : Request :=
  { id, method := helloMethod, params := c.config.client.hello }

/-- What may be asked of a server that welcomed the client: to end, or what a task is to call. -/
def Wanted (c : Client) (method : String) (params : Json) : Prop :=
  method = shutdownMethod ∧ params = .object [] ∨
    ∃ job ∈ c.tasks.map Task.job, job.ask? = some ⟨method, params⟩

/-- A request is that of a call which came after the greeting. -/
structure MayFollow (c : Client) (x : Nat) (r : Request) (call : Nat) : Prop where
  later : call ∈ (c.board.callsOn x).tail
  number : c.board.number? call = some r.id
  wanted : c.Wanted r.method r.params

/-- The greeting is the only call on a channel. -/
structure OnlyGreeted (c : Client) (x : Nat) (r : Request) (call : Nat) : Prop where
  calls : c.board.callsOn x = [call]
  number : c.board.number? call = some r.id
  request : r = c.hello r.id

end Client

/-- A task greets a server that neither welcomed the client nor is lost. -/
structure Hails (welcomed lost : Set Nat) (c : Client) (x : Nat) (r : Request) (call : Nat) :
    Prop extends c.OnlyGreeted x r call where
  inside : x < c.channels.length
  unheard : x ∉ welcomed
  kept : x ∉ lost

/-- A task in this phase asks what it may ask. -/
def Speaks (welcomed lost : Set Nat) (c : Client) : Phase → Prop
  | .writing .greeting x r call => Hails welcomed lost c x r call ∧ c.writtenTo x = []
  | .greeting x call => ∃ r, Hails welcomed lost c x r call ∧ c.writtenTo x = [r]
  | .writing _ x r call => x ∈ welcomed ∧ c.MayFollow x r call
  | _ => True

/-- More calls may have been registered, more requests written and more jobs given. -/
structure Extends (c c' : Client) : Prop where
  config : c'.config = c.config
  jobs : ∀ job ∈ c.tasks.map Task.job, job ∈ c'.tasks.map Task.job
  numbers : ∀ call id, c.board.number? call = some id → c'.board.number? call = some id
  calls : ∀ x, c.board.callsOn x <+: c'.board.callsOn x
  written : ∀ x, c.writtenTo x <+: c'.writtenTo x

/-- Nothing but the greeting was asked of a server before it welcomed the client, and only such a
server is used. All that is more than there was at first. -/
structure Ordered (first : Client) (welcomed lost : Set Nat) (c : Client) : Prop where
  since : Extends first c
  aligned : c.board.exchanges.length = c.channels.length
  routed : ∀ r ∈ c.board.routes, r.1 < c.channels.length
  welcomed_lt : ∀ x ∈ welcomed, x < c.channels.length
  lost_lt : ∀ x ∈ lost, x < c.channels.length
  apart : ∀ x ∈ welcomed, x ∉ lost
  closed : ∀ x ∈ lost, (c.board.exchange x).closed.isSome
  current : ∀ x, c.current = some x → x ∈ welcomed
  unheard : ∀ x, x < c.channels.length → x ∉ welcomed →
    ∃ r call, c.OnlyGreeted x r call ∧ (c.writtenTo x = [] ∨ c.writtenTo x = [r])
  heard : ∀ x ∈ welcomed, ∃ call others r later,
    c.board.callsOn x = call :: others ∧ c.board.number? call = some r.id ∧ r = c.hello r.id ∧
      c.writtenTo x = r :: later ∧ ∀ s ∈ later, ∃ k, c.MayFollow x s k

/-- A client is in order but for a task, which is about to take its step. -/
structure Besides (first : Client) (welcomed lost : Set Nat) (task : Nat) (c : Client) : Prop
    extends Ordered first welcomed lost c where
  holder : ∀ t p, t ≠ task → c.phase? t = some p → p.holdsLock → c.lock.holder = some t
  speaks : ∀ t p, t ≠ task → c.phase? t = some p → Speaks welcomed lost c p

/-- A client is in order: whoever starts or stops a server holds the lock. -/
structure Orderly (first : Client) (welcomed lost : Set Nat) (c : Client) : Prop
    extends Ordered first welcomed lost c where
  holder : ∀ t p, c.phase? t = some p → p.holdsLock → c.lock.holder = some t
  speaks : ∀ t p, c.phase? t = some p → Speaks welcomed lost c p

/-! ### What grows -/

section

variable {welcomed lost : Set Nat} {first c c' : Client} {task x call : Nat} {r : Request}
  {p : Phase} {board : Switchboard}

theorem Client.hello_of_config_eq (same : c'.config = c.config) (id : UInt64) :
    c'.hello id = c.hello id := by
  rw [Client.hello, Client.hello, same]

theorem Silent.extends (silent : Silent c c') : Extends c c' where
  config := silent.config
  jobs := silent.jobs
  numbers call _ numbered :=
    (Switchboard.number?_of_routes_eq silent.board.routes_eq call).trans numbered
  calls x := Switchboard.callsOn_of_routes_eq silent.board.routes_eq x ▸ List.prefix_rfl
  written x := silent.writtenTo_eq x ▸ List.prefix_rfl

theorem Extends.refl (c : Client) : Extends c c := (Silent.refl c).extends

theorem Extends.trans {a : Client} (before : Extends a c) (more : Extends c c') : Extends a c' where
  config := more.config.trans before.config
  jobs job given := more.jobs job (before.jobs job given)
  numbers call id numbered := more.numbers call id (before.numbers call id numbered)
  calls x := (before.calls x).trans (more.calls x)
  written x := (before.written x).trans (more.written x)

theorem Client.MayFollow.extends (follows : c.MayFollow x r call) (more : Extends c c') :
    c'.MayFollow x r call where
  later := by
    obtain ⟨rest, extended⟩ := more.calls x
    have notEmpty : c.board.callsOn x ≠ [] := fun empty => by
      have := follows.later
      simp [empty] at this
    rw [← extended, List.tail_append_of_ne_nil notEmpty]
    exact List.mem_append_left rest follows.later
  number := more.numbers call r.id follows.number
  wanted := by
    rcases follows.wanted with shutdown | ⟨job, given, asks⟩
    · exact .inl shutdown
    · exact .inr ⟨job, more.jobs job given, asks⟩

/-- A task that neither starts nor stops a server may go on whatever was registered. -/
theorem Speaks.extends {welcomed' lost' : Set Nat} (speaks : Speaks welcomed lost c p)
    (free : p.holdsLock = false) (more : Extends c c') (wider : welcomed ⊆ welcomed') :
    Speaks welcomed' lost' c' p := by
  cases p with
  | writing purpose x r call =>
      cases purpose with
      | greeting => cases free
      | call => exact ⟨wider speaks.1, speaks.2.extends more⟩
      | shutdown => cases free
  | greeting x call => cases free
  | _ => trivial

/-! ### What asks nothing -/

theorem Client.OnlyGreeted.silent (only : c.OnlyGreeted x r call) (silent : Silent c c') :
    c'.OnlyGreeted x r call where
  calls := (Switchboard.callsOn_of_routes_eq silent.board.routes_eq x).trans only.calls
  number := silent.extends.numbers call r.id only.number
  request := only.request.trans (Client.hello_of_config_eq silent.config r.id).symm

theorem Hails.silent (hails : Hails welcomed lost c x r call) (silent : Silent c c') :
    Hails welcomed lost c' x r call where
  toOnlyGreeted := hails.toOnlyGreeted.silent silent
  inside := silent.channels_length ▸ hails.inside
  unheard := hails.unheard
  kept := hails.kept

theorem Speaks.silent (speaks : Speaks welcomed lost c p) (silent : Silent c c') :
    Speaks welcomed lost c' p := by
  cases p with
  | writing purpose x r call =>
      cases purpose with
      | greeting => exact ⟨speaks.1.silent silent, (silent.writtenTo_eq x).trans speaks.2⟩
      | call => exact ⟨speaks.1, speaks.2.extends silent.extends⟩
      | shutdown => exact ⟨speaks.1, speaks.2.extends silent.extends⟩
  | greeting x call =>
      obtain ⟨r, hails, written⟩ := speaks
      exact ⟨r, hails.silent silent, (silent.writtenTo_eq x).trans written⟩
  | _ => trivial

theorem Ordered.silent (h : Ordered first welcomed lost c) (silent : Silent c c') :
    Ordered first welcomed lost c' where
  since := h.since.trans silent.extends
  aligned := by rw [silent.board.length_eq, silent.channels_length, h.aligned]
  routed := by
    rw [silent.board.routes_eq, silent.channels_length]
    exact h.routed
  welcomed_lt := silent.channels_length ▸ h.welcomed_lt
  lost_lt := silent.channels_length ▸ h.lost_lt
  apart := h.apart
  closed x member := silent.board.closed x (h.closed x member)
  current x uses := by
    rcases silent.current with same | none
    · exact h.current x (same ▸ uses)
    · rw [none] at uses
      cases uses
  unheard x inside outside := by
    rw [silent.channels_length] at inside
    obtain ⟨r, call, only, written⟩ := h.unheard x inside outside
    rw [← silent.writtenTo_eq x] at written
    exact ⟨r, call, only.silent silent, written⟩
  heard x member := by
    obtain ⟨call, others, r, later, calls, number, request, written, follow⟩ := h.heard x member
    refine ⟨call, others, r, later, ?_, silent.extends.numbers call r.id number, ?_, ?_, ?_⟩
    · exact (Switchboard.callsOn_of_routes_eq silent.board.routes_eq x).trans calls
    · exact request.trans (Client.hello_of_config_eq silent.config r.id).symm
    · exact (silent.writtenTo_eq x).trans written
    · intro s among
      obtain ⟨k, follows⟩ := follow s among
      exact ⟨k, follows.extends silent.extends⟩

/-! ### One more call -/

theorem extends_register (registers : Registers c.board x r call board) :
    Extends c { c with board } where
  config := rfl
  jobs _ given := given
  numbers k id numbered :=
    Switchboard.number?_of_prefix (registers.routes_eq ▸ List.prefix_append _ _) numbered
  calls y := by
    show _ <+: board.callsOn y
    rw [Switchboard.callsOn_concat registers.routes_eq]
    exact List.prefix_append _ _
  written _ := List.prefix_rfl

/-- Other channels have the calls that they had. -/
theorem Client.OnlyGreeted.register {y k : Nat} {s : Request} (only : c.OnlyGreeted y s k)
    (registers : Registers c.board x r call board) (other : y ≠ x) :
    ({ c with board } : Client).OnlyGreeted y s k where
  calls := by
    show board.callsOn y = [k]
    rw [Switchboard.callsOn_concat registers.routes_eq, if_neg (Ne.symm other), List.append_nil]
    exact only.calls
  number := (extends_register registers).numbers k s.id only.number
  request := only.request

/-- A call to a server that welcomed the client changes nothing for the greeting of another. -/
theorem Speaks.register (speaks : Speaks welcomed lost c p) (welcome : x ∈ welcomed)
    (registers : Registers c.board x r call board) : Speaks welcomed lost { c with board } p := by
  have hailed : ∀ {y k s}, Hails welcomed lost c y s k →
      Hails welcomed lost { c with board } y s k :=
    fun hails => { hails with
      toOnlyGreeted := hails.toOnlyGreeted.register registers
        fun same => hails.unheard (same ▸ welcome) }
  have more := extends_register registers
  cases p with
  | writing purpose y s k =>
      cases purpose with
      | greeting => exact ⟨hailed speaks.1, speaks.2⟩
      | call => exact ⟨speaks.1, speaks.2.extends more⟩
      | shutdown => exact ⟨speaks.1, speaks.2.extends more⟩
  | greeting y k =>
      obtain ⟨s, hails, written⟩ := speaks
      exact ⟨s, hailed hails, written⟩
  | _ => trivial

theorem Ordered.register (h : Ordered first welcomed lost c) (welcome : x ∈ welcomed)
    (registers : Registers c.board x r call board) :
    Ordered first welcomed lost { c with board } where
  since := h.since.trans (extends_register registers)
  aligned := registers.length_eq.trans h.aligned
  routed := by
    show ∀ route ∈ board.routes, _
    rw [registers.routes_eq]
    intro route member
    rcases List.mem_append.mp member with old | new
    · exact h.routed route old
    · rw [List.mem_singleton.mp new]
      exact h.welcomed_lt x welcome
  welcomed_lt := h.welcomed_lt
  lost_lt := h.lost_lt
  apart := h.apart
  closed y member := by
    show (board.exchange y).closed.isSome
    rw [registers.closed_eq]
    exact h.closed y member
  current := h.current
  unheard y inside outside := by
    obtain ⟨s, k, only, written⟩ := h.unheard y inside outside
    exact ⟨s, k, only.register registers fun same => outside (same ▸ welcome), written⟩
  heard y member := by
    have more := extends_register registers
    obtain ⟨k, others, s, later, calls, number, request, written, follow⟩ := h.heard y member
    refine ⟨k, others ++ if x = y then [c.board.routes.length] else [], s, later, ?_,
      more.numbers k s.id number, request, written, ?_⟩
    · show board.callsOn y = _
      rw [Switchboard.callsOn_concat registers.routes_eq, calls, List.cons_append]
    · intro s' among
      obtain ⟨k', follows⟩ := follow s' among
      exact ⟨k', follows.extends more⟩

/-- The call that was just registered comes after the greeting. -/
theorem Ordered.mayFollow (h : Ordered first welcomed lost c) (welcome : x ∈ welcomed)
    (registers : Registers c.board x r call board) (wanted : c.Wanted r.method r.params) :
    ({ c with board } : Client).MayFollow x r call where
  later := by
    obtain ⟨k, others, s, later, calls, -⟩ := h.heard x welcome
    show call ∈ (board.callsOn x).tail
    rw [Switchboard.callsOn_concat registers.routes_eq, calls, if_pos rfl, registers.place]
    exact List.mem_append_right others (List.mem_singleton_self _)
  number := by
    show board.number? call = some r.id
    rw [Switchboard.number?, registers.routes_eq, registers.place]
    simp
  wanted := wanted

/-! ### One more request -/

theorem Client.writtenTo_onWritten (c : Client) (x y : Nat) (r : Request) :
    (c.onWritten x r).writtenTo y =
      if y = x ∧ x < c.channels.length then c.writtenTo y ++ [r] else c.writtenTo y := by
  unfold Client.writtenTo Client.onWritten
  rw [List.getElem?_modify]
  by_cases same : x = y
  · subst same
    by_cases inside : x < c.channels.length <;> simp [inside]
  · simp [same, Ne.symm same]

theorem Client.extends_onWritten (c : Client) (x : Nat) (r : Request) :
    Extends c (c.onWritten x r) where
  config := rfl
  jobs _ given := given
  numbers _ _ numbered := numbered
  calls _ := List.prefix_rfl
  written y := by
    rw [writtenTo_onWritten]
    split
    · exact List.prefix_append _ _
    · exact List.prefix_rfl

theorem Client.onWritten_channels_length (c : Client) (x : Nat) (r : Request) :
    (c.onWritten x r).channels.length = c.channels.length := List.length_modify ..

/-- Writing to another channel makes no difference to a greeting. -/
theorem Hails.onWritten {y k : Nat} {s : Request} (hails : Hails welcomed lost c y s k)
    (x : Nat) (r : Request) : Hails welcomed lost (c.onWritten x r) y s k where
  calls := hails.calls
  number := hails.number
  request := hails.request
  inside := (c.onWritten_channels_length x r).symm ▸ hails.inside
  unheard := hails.unheard
  kept := hails.kept

theorem Speaks.onWritten (speaks : Speaks welcomed lost c p) (welcome : x ∈ welcomed)
    (r : Request) : Speaks welcomed lost (c.onWritten x r) p := by
  have unwritten : ∀ {y}, y ∉ welcomed → (c.onWritten x r).writtenTo y = c.writtenTo y := by
    intro y outside
    have other : ¬ (y = x ∧ x < c.channels.length) := fun here => outside (here.1 ▸ welcome)
    rw [Client.writtenTo_onWritten, if_neg other]
  have more := c.extends_onWritten x r
  cases p with
  | writing purpose y s k =>
      cases purpose with
      | greeting =>
          exact ⟨speaks.1.onWritten x r, (unwritten speaks.1.unheard).trans speaks.2⟩
      | call => exact ⟨speaks.1, speaks.2.extends more⟩
      | shutdown => exact ⟨speaks.1, speaks.2.extends more⟩
  | greeting y k =>
      obtain ⟨s, hails, written⟩ := speaks
      exact ⟨s, hails.onWritten x r, (unwritten hails.unheard).trans written⟩
  | _ => trivial

/-- A request is written: the greeting, or one that comes after it. -/
theorem Ordered.onWritten (h : Ordered first welcomed lost c)
    (may : x ∈ welcomed ∧ (∃ k, c.MayFollow x r k) ∨
      ∃ k, Hails welcomed lost c x r k ∧ c.writtenTo x = []) :
    Ordered first welcomed lost (c.onWritten x r) where
  since := h.since.trans (c.extends_onWritten x r)
  aligned := h.aligned.trans (c.onWritten_channels_length x r).symm
  routed := (c.onWritten_channels_length x r).symm ▸ h.routed
  welcomed_lt := (c.onWritten_channels_length x r).symm ▸ h.welcomed_lt
  lost_lt := (c.onWritten_channels_length x r).symm ▸ h.lost_lt
  apart := h.apart
  closed := h.closed
  current := h.current
  unheard y inside outside := by
    rw [Client.onWritten_channels_length] at inside
    obtain ⟨s, k, only, written⟩ := h.unheard y inside outside
    refine ⟨s, k, ⟨only.calls, only.number, only.request⟩, ?_⟩
    rw [Client.writtenTo_onWritten]
    split
    · rename_i here
      rcases may with ⟨welcome, -⟩ | ⟨k', hails, empty⟩
      · exact absurd (here.1 ▸ welcome) outside
      · obtain ⟨rfl, -⟩ := here
        obtain rfl : k = k' := List.singleton_inj.mp (only.calls.symm.trans hails.calls)
        have sameId : s.id = r.id := Option.some.inj (only.number.symm.trans hails.number)
        rw [empty, only.request, hails.request, sameId]
        exact .inr rfl
    · exact written
  heard y member := by
    obtain ⟨k, others, s, later, calls, number, request, written, follow⟩ := h.heard y member
    have more := c.extends_onWritten x r
    rw [Client.writtenTo_onWritten]
    split
    · rename_i here
      obtain ⟨rfl, -⟩ := here
      rcases may with ⟨-, k', follows⟩ | ⟨k', hails, -⟩
      · refine ⟨k, others, s, later ++ [r], calls, number, request, by rw [written]; rfl, ?_⟩
        intro s' among
        rcases List.mem_append.mp among with old | new
        · obtain ⟨j, follows'⟩ := follow s' old
          exact ⟨j, follows'.extends more⟩
        · rw [List.mem_singleton.mp new]
          exact ⟨k', follows.extends more⟩
      · exact absurd member hails.unheard
    · refine ⟨k, others, s, later, calls, number, request, written, fun s' among => ?_⟩
      obtain ⟨j, follows⟩ := follow s' among
      exact ⟨j, follows.extends more⟩

/-! ### One more server -/

/-- A server was started, and a call was registered for its greeting. -/
def Client.opening (c : Client) (ch : Channel) (board : Switchboard) : Client :=
  { c with channels := c.channels ++ [ch], board }

section Opening

variable {ch : Channel} (blank : ch.written = [])
  (registers : Registers c.board.openExchange c.channels.length r call board)

theorem Client.opening_channels_length (c : Client) (ch : Channel) (board : Switchboard) :
    (c.opening ch board).channels.length = c.channels.length + 1 := by
  simp [opening]

include blank in
theorem Client.writtenTo_opening (board : Switchboard) (y : Nat) :
    (c.opening ch board).writtenTo y = if y < c.channels.length then c.writtenTo y else [] := by
  rw [writtenTo, writtenTo, opening, List.getElem?_append]
  split
  · rfl
  · cases y - c.channels.length <;> simp [blank]

include registers in
theorem Client.callsOn_opening (y : Nat) : (c.opening ch board).board.callsOn y =
    c.board.callsOn y ++ if c.channels.length = y then [call] else [] := by
  show board.callsOn y = _
  rw [Switchboard.callsOn_concat registers.routes_eq, registers.place]
  rfl

include blank registers in
theorem extends_opening : Extends c (c.opening ch board) where
  config := rfl
  jobs _ given := given
  numbers := (extends_register (c := { c with board := c.board.openExchange }) registers).numbers
  calls y := by
    rw [Client.callsOn_opening registers]
    exact List.prefix_append _ _
  written y := by
    rw [Client.writtenTo_opening blank]
    split
    · exact List.prefix_rfl
    · rename_i beyond
      rw [Client.writtenTo, List.getElem?_eq_none (Nat.le_of_not_lt beyond)]
      exact List.prefix_rfl

include blank registers in
/-- The servers that were there have the calls that they had. -/
theorem Client.OnlyGreeted.opening {y k : Nat} {s : Request} (only : c.OnlyGreeted y s k)
    (old : y < c.channels.length) : (c.opening ch board).OnlyGreeted y s k where
  calls := by
    rw [Client.callsOn_opening registers, if_neg (Nat.ne_of_gt old), List.append_nil]
    exact only.calls
  number := (extends_opening blank registers).numbers k s.id only.number
  request := only.request

include registers in
/-- Nothing but the greeting was registered on the channel of the new server. -/
theorem Ordered.hails_opening (h : Ordered first welcomed lost c) (request : r = c.hello r.id) :
    Hails welcomed lost (c.opening ch board) c.channels.length r call where
  calls := by
    have alone : c.board.callsOn c.channels.length = [] := by
      refine List.eq_nil_iff_forall_not_mem.mpr fun k member => ?_
      obtain ⟨route, known, here⟩ := Switchboard.route_of_mem_callsOn member
      exact Nat.lt_irrefl _ (here ▸ h.routed route known)
    rw [Client.callsOn_opening registers, alone, if_pos rfl]
    rfl
  number := by
    show board.number? call = some r.id
    rw [Switchboard.number?, registers.routes_eq, registers.place]
    simp
  request := request
  inside := c.opening_channels_length ch board ▸ Nat.lt_succ_self _
  unheard member := Nat.lt_irrefl _ (h.welcomed_lt _ member)
  kept member := Nat.lt_irrefl _ (h.lost_lt _ member)

include blank registers in
theorem Ordered.opening (h : Ordered first welcomed lost c) (request : r = c.hello r.id) :
    Ordered first welcomed lost (c.opening ch board) := by
  have length := c.opening_channels_length ch board
  have more := extends_opening blank registers
  constructor
  case since => exact h.since.trans more
  case aligned =>
    show board.exchanges.length = _
    rw [registers.length_eq, length, ← h.aligned]
    exact List.length_append
  case routed =>
    show ∀ route ∈ board.routes, _
    rw [registers.routes_eq, length]
    intro route member
    rcases List.mem_append.mp member with old | new
    · exact Nat.lt_succ_of_lt (h.routed route old)
    · rw [List.mem_singleton.mp new]
      exact Nat.lt_succ_self _
  case welcomed_lt => exact fun y member => length ▸ Nat.lt_succ_of_lt (h.welcomed_lt y member)
  case lost_lt => exact fun y member => length ▸ Nat.lt_succ_of_lt (h.lost_lt y member)
  case apart => exact h.apart
  case closed =>
    intro y member
    show (board.exchange y).closed.isSome
    rw [registers.closed_eq, Switchboard.openExchange_closed]
    exact h.closed y member
  case current => exact h.current
  case unheard =>
    intro y inside outside
    rw [length] at inside
    rw [Client.writtenTo_opening blank]
    rcases Nat.lt_succ_iff_lt_or_eq.mp inside with old | rfl
    · obtain ⟨s, k, only, written⟩ := h.unheard y old outside
      rw [if_pos old]
      exact ⟨s, k, only.opening blank registers old, written⟩
    · exact ⟨r, call, (h.hails_opening registers request).toOnlyGreeted,
        .inl (if_neg (Nat.lt_irrefl _))⟩
  case heard =>
    intro y member
    have old := h.welcomed_lt y member
    obtain ⟨k, others, s, later, calls, number, greeting, written, follow⟩ := h.heard y member
    rw [Client.callsOn_opening registers, if_neg (Nat.ne_of_gt old), List.append_nil,
      Client.writtenTo_opening blank, if_pos old]
    refine ⟨k, others, s, later, calls, more.numbers k s.id number, greeting, written, ?_⟩
    intro s' among
    obtain ⟨j, follows⟩ := follow s' among
    exact ⟨j, follows.extends more⟩

end Opening

end

end RpcLink.Pipe
