import RpcLink.Proofs.Native.Connections
import RpcLink.Proofs.Wire.Request

/-!
What crosses the ports of a client in a run: the messages that its tasks post, as they appear behind
what was posted before, and the messages that are taken from its ports.
-/

namespace RpcLink.Native

inductive Crossing where
  /-- A task posted a message over a connection. -/
  | posted (task link : Nat) (message : Json)
  /-- A message was taken from the port of a connection. -/
  | received (link : Nat) (message : Json)

/-- The messages at the front of events, up to the first that is none. -/
def messages : List PortEvent → List Json
  | [] => []
  | .message v :: rest => v :: messages rest
  | .disconnected _ :: _ => []

namespace Client

/-- What was posted over a connection and is still there. -/
def outbox (c : Client) (link : Nat) : List Json := (c.port link).outgoing.items

/-- What a task posted that took a client from one state to another. -/
def posts (task : Nat) (before after : Client) : List Crossing :=
  (List.range after.links.length).flatMap fun link =>
    ((after.outbox link).drop (before.outbox link).length).map (.posted task link)

/-- The messages that are taken from a connection. -/
def receipts (c : Client) (link : Nat) (most : Option Nat) : List Crossing :=
  match c.links[link]? with
  | some l =>
    if l.attended then
      let items := l.port.events.items
      (messages (items.take (most.getD (items.length + 1)))).map (.received link)
    else []
  | none => []

def crossings (c : Client) : Event → List Crossing
  | .step task dial timeUp => posts task c (c.step task dial timeUp)
  | .attend link most => c.receipts link most
  | .spawn _ | .cancel _ | .peer .. | .configure _ => []

/-- All that crosses the ports of a client in a run, in order. -/
def traffic (c : Client) : List Event → List Crossing
  | [] => []
  | e :: es => c.crossings e ++ (c.happen e).traffic es

end Client

/-! ### Posting -/

/-- The part of what is posted that goes to one connection. -/
def outTo (link : Nat) (out : List (Nat × Json)) : List Json :=
  out.filterMap fun o => if o.1 = link then some o.2 else none

section

variable {c c' : Client} {task link : Nat} {job : Job} {ask : Relay.Ask}
  {out : List (Nat × Json)}

theorem Client.port_of_links_eq (same : c'.links = c.links) (i : Nat) : c'.port i = c.port i := by
  rw [port, port, same]

theorem Sent.outbox (sent : Sent task link job ask c out c') (inside : link < c.links.length)
    (i : Nat) : c'.outbox i = c.outbox i ++ outTo i out := by
  cases sent with
  | refused closed => exact (List.append_nil _).symm
  | withdrawn registered reason => exact (List.append_nil _).symm
  | @posted request call board registered fits taken =>
      have shape := Client.modify_port (p := ((c.port link).post request.toJson.sorted).2)
        (i := i) inside
      unfold Client.outbox
      rw [Client.port, Client.setPhase_links, shape]
      split
      · rename_i same
        subst same
        simp [Port.post, Conduit.send, taken, outTo]
      · rename_i other
        simp [outTo, Ne.symm other, Client.port]

theorem Sent.one_out (sent : Sent task link job ask c out c') :
    out.length ≤ 1 ∧ ∀ o ∈ out, o.1 = link := by
  cases sent with
  | refused closed => simp
  | withdrawn registered reason => simp
  | posted registered fits taken => simp

theorem Sent.links_length (sent : Sent task link job ask c out c') :
    c'.links.length = c.links.length := by
  cases sent with
  | refused closed => rfl
  | withdrawn registered reason => rfl
  | posted registered fits taken => exact List.length_modify ..

theorem Client.letGo_links (c : Client) (task : Nat) : (c.letGo task).links = c.links := by
  unfold letGo
  split <;> rfl

theorem Client.giveUp_links (c : Client) : c.giveUp.links = c.links := by
  unfold giveUp
  cases c.current <;> rfl

/-- Nothing was posted to the port of a further connection before. -/
theorem Client.outbox_of_further {host : String} (fresh : FreshPort)
    (links : c'.links = c.links ++ [{ host, port := fresh.toPort }]) (i : Nat) :
    c'.outbox i = c.outbox i := by
  unfold outbox port
  rw [links]
  rcases Nat.lt_trichotomy i c.links.length with less | rfl | more
  · rw [List.getElem?_append_left less]
  · simpa using fresh.unposted
  · rw [List.getElem?_eq_none (by simp; omega), List.getElem?_eq_none (by omega)]

/-- A move posts at most one message, which appears behind those of its connection. -/
structure Posts (c : Client) (out : List (Nat × Json)) (c' : Client) : Prop where
  length_le : out.length ≤ 1
  links_le : c.links.length ≤ c'.links.length
  inside : ∀ o ∈ out, o.1 < c'.links.length
  outbox_eq : ∀ i, c'.outbox i = c.outbox i ++ outTo i out

theorem Posts.of_links_eq (same : c'.links = c.links) : Posts c [] c' where
  length_le := Nat.zero_le 1
  links_le := Nat.le_of_eq (congrArg List.length same.symm)
  inside := by simp
  outbox_eq i := by
    rw [Client.outbox, Client.port_of_links_eq same]
    exact (List.append_nil _).symm

theorem Posts.congr {a : Client} (posts : Posts a out c') (same : a.links = c.links) :
    Posts c out c' where
  length_le := posts.length_le
  links_le := by
    rw [← same]
    exact posts.links_le
  inside := posts.inside
  outbox_eq i := by
    rw [posts.outbox_eq i, Client.outbox, Client.port_of_links_eq same]
    rfl

theorem Sent.posts (sent : Sent task link job ask c out c') (inside : link < c.links.length) :
    Posts c out c' where
  length_le := sent.one_out.1
  links_le := Nat.le_of_eq sent.links_length.symm
  inside o member := by
    rw [sent.links_length, sent.one_out.2 o member]
    exact inside
  outbox_eq := sent.outbox inside

theorem Move.posts (h : Linked c) (move : Move task c out c') : Posts c out c' := by
  cases move with
  | refuse found unread => exact .of_links_eq rfl
  | queue found held => exact .of_links_eq rfl
  | send found asks live sent => exact sent.posts (h.lt_of_live live)
  | sendLocked found asks grants live sent => exact (sent.posts (h.lt_of_live live)).congr rfl
  | dial found asks grants dead => exact .of_links_eq rfl
  | fail found asks => exact .of_links_eq rfl
  | @connect job ask host fresh _ _ found asks sent =>
      have posts := sent.posts (by simp)
      have longer := posts.links_le
      rw [List.length_append] at longer
      refine ⟨posts.length_le, Nat.le_of_add_right_le longer, posts.inside, fun i => ?_⟩
      rw [posts.outbox_eq i, Client.outbox_of_further fresh rfl]
  | disconnect found asks grants => exact .of_links_eq c.giveUp_links
  | answer found told => exact .of_links_eq rfl
  | expire found waits limited limit => exact .of_links_eq (c.letGo_links task)

/-- A list that is made from the numbers below a bound, of which one contributes. -/
theorem flatMap_range_of_alone {α : Type} {f : Nat → List α} {n k : Nat} (inside : k < n)
    (alone : ∀ i, i ≠ k → f i = []) : (List.range n).flatMap f = f k := by
  induction n with
  | zero => omega
  | succ n ih =>
      rw [List.range_succ, List.flatMap_append, List.flatMap_singleton]
      rcases Nat.lt_succ_iff_lt_or_eq.mp inside with less | rfl
      · rw [ih less, alone n (Nat.ne_of_gt less), List.append_nil]
      · have before : (List.range k).flatMap f = [] :=
          List.flatMap_eq_nil_iff.mpr fun i member =>
            alone i (Nat.ne_of_lt (List.mem_range.mp member))
        rw [before, List.nil_append]

/-- What a step posts can be told from the outboxes before and after it. -/
theorem Posts.posts_eq (posts : Posts c out c') :
    Client.posts task c c' = out.map fun o => .posted task o.1 o.2 := by
  have fresh : ∀ i, (c'.outbox i).drop (c.outbox i).length = outTo i out := by
    intro i
    rw [posts.outbox_eq i, List.drop_left]
  unfold Client.posts
  simp only [fresh]
  match out, posts.length_le, posts.inside with
  | [], _, _ => simp [outTo]
  | [o], _, inside =>
      rw [flatMap_range_of_alone (inside o (by simp))]
      · simp [outTo]
      · intro i other
        simp [outTo, Ne.symm other]

theorem Moved.posts (h : Linked c) (moved : Moved task c out c') : Posts c out c' := by
  rcases moved with ⟨rfl, rfl⟩ | move
  · exact .of_links_eq rfl
  · exact move.posts h

theorem Moved.linked (h : Linked c) (moved : Moved task c out c') : Linked c' := by
  rcases moved with ⟨-, rfl⟩ | move
  · exact h
  · exact h.move move

/-- What is kept by every move, when what is posted is noted behind a history, is kept by a step. -/
theorem Client.step_keeps_posts {P : Client → List Crossing → Prop} {τ : List Crossing}
    (keeps : ∀ {a out b σ}, Linked a → P a σ → Move task a out b →
      P b (σ ++ out.map fun o => .posted task o.1 o.2))
    (linked : Linked c) (h : P c τ) (dial : Dial) (timeUp : Bool) :
    P (c.step task dial timeUp) (τ ++ Client.posts task c (c.step task dial timeUp)) := by
  have moved : ∀ {a out b σ}, Linked a → P a σ → Moved task a out b →
      P b (σ ++ out.map fun o => .posted task o.1 o.2) := by
    rintro a out b σ linked holds (⟨rfl, rfl⟩ | move)
    · simpa using holds
    · exact keeps linked holds move
  obtain ⟨a, out, b, first, second, third⟩ := c.step_moved task dial timeUp
  have linkedA := first.linked linked
  have linkedB := second.linked linkedA
  have held := moved linkedB (moved linkedA (moved linked h first) second) third
  have posts : Posts c out (c.step task dial timeUp) := by
    have secondPosts := second.posts linkedA
    have longer := (third.posts linkedB).links_le
    refine ⟨secondPosts.length_le, ?_, fun o member => ?_, fun i => ?_⟩
    · exact Nat.le_trans (Nat.le_trans (first.posts linked).links_le secondPosts.links_le) longer
    · exact Nat.lt_of_lt_of_le (secondPosts.inside o member) longer
    · rw [(third.posts linkedB).outbox_eq, secondPosts.outbox_eq,
        (first.posts linked).outbox_eq]
      simp [outTo]
  rw [posts.posts_eq]
  simpa using held

end

end RpcLink.Native
