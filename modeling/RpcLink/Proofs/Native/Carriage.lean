import Mathlib.Data.Set.List
import RpcLink.Native.Carrier
import RpcLink.Proofs.Framing.Packets
import RpcLink.Proofs.Json.ReadBack
import RpcLink.Proofs.Json.Size
import RpcLink.Proofs.Native.Draining
import RpcLink.Proofs.Native.Unsent
import RpcLink.Proofs.Wire.Relay

/-!
What becomes of requests that are posted. A client measures a request as it composed it, and the
carrier measures the message that was posted, whose fields stand in another order. The two lengths
are the same, so a carrier with the limit of the client writes every message that waits at a port
and passes none over.
-/

namespace RpcLink

/-! ### Requests as payloads -/

namespace Request

variable {r : Request}

theorem unambiguous_toJson (ordered : r.params.Ordered) : r.toJson.Unambiguous := by
  refine .object (by simp) ?_
  simp only [List.forall_mem_cons]
  exact ⟨.string _, .number _, .string _, ordered.unambiguous, nofun⟩

/-- A request is as long when its fields are in order. -/
theorem byteLength_toJson_sorted (ordered : r.params.Ordered) :
    r.toJson.sorted.byteLength = r.toJson.byteLength :=
  Json.byteLength_sorted (unambiguous_toJson ordered)

theorem byteLength_toJson_pos (r : Request) : 0 < r.toJson.byteLength := by
  rw [toJson, Json.byteLength, Json.bytes_object]
  exact Nat.succ_pos _

theorem ordered_toJson_sorted (ordered : r.params.Ordered) : r.toJson.sorted.Ordered := by
  have keys : ["id", "jsonrpc", "method", "params"].Pairwise (· < ·) := by decide
  rw [toJson_sorted, Json.sorted_of_ordered ordered]
  refine .object (List.pairwise_map.mp keys) ?_
  simp only [List.forall_mem_cons]
  exact ⟨.number _, .string _, .string _, ordered, nofun⟩

theorem integral_toJson_sorted (ordered : r.params.Ordered) (integral : r.params.Integral) :
    r.toJson.sorted.Integral := by
  rw [toJson_sorted, Json.sorted_of_ordered ordered]
  refine .object ?_
  simp only [List.forall_mem_cons]
  exact ⟨.integer _ _, .string _, .string _, integral, nofun⟩

theorem depth_toJson_sorted (ordered : r.params.Ordered) :
    r.toJson.sorted.depth = r.params.depth + 1 := by
  rw [toJson_sorted, Json.sorted_of_ordered ordered]
  simp [Json.depth, Json.depth.depthFields, Json.ofUInt64]

/-- The payload of a request is read back. -/
theorem parseBytes_toJson_sorted (ordered : r.params.Ordered) (integral : r.params.Integral)
    (shallow : r.params.depth ≤ 126) :
    Json.parseBytes r.toJson.sorted.bytes = .ok r.toJson.sorted := by
  have again : r.toJson.sorted.sorted = r.toJson.sorted :=
    Json.sorted_of_ordered (ordered_toJson_sorted ordered)
  have shallow : r.toJson.sorted.depth ≤ Json.Read.maxNesting := by
    rw [depth_toJson_sorted ordered]
    exact Nat.succ_le_succ shallow
  rw [Json.parseBytes_bytes (integral_toJson_sorted ordered integral) shallow, again]

end Request

namespace Native

open Framing.Packet

/-! ### Packets of requests -/

/-- The packet that a request is carried in. -/
def packetOf (r : Request) : List UInt8 := header r.toJson.byteLength ++ r.toJson.sorted.bytes

/-- A request is within a limit, as it was composed. -/
structure Accepted (limit : Nat) (r : Request) : Prop where
  ordered : r.params.Ordered
  fits : r.toJson.byteLength ≤ limit

section

variable {limit : Nat} {r : Request}

/-- The payload of a request has a packet exactly if the request was accepted. -/
theorem encode_request (small : limit < headerRange) (ordered : r.params.Ordered) :
    encode r.toJson.sorted.bytes limit =
      if r.toJson.byteLength ≤ limit then .ok (packetOf r)
      else .error (.frameTooLarge r.toJson.byteLength limit) := by
  have length : r.toJson.sorted.bytes.length = r.toJson.byteLength :=
    Request.byteLength_toJson_sorted ordered
  have positive := r.byteLength_toJson_pos
  rw [encode_eq, length]
  split
  · rw [if_neg (by omega)]
  · rw [if_pos (by omega)]
    rfl

theorem Accepted.packet? (accepted : Accepted limit r) (small : limit < headerRange) :
    Carrier.packet? limit r.toJson.sorted = some (packetOf r) := by
  rw [Carrier.packet?, encode_request small accepted.ordered, if_pos accepted.fits]
  rfl

end

/-! ### What waits at the ports -/

/-- The values that a job has to send are ordered. -/
def Job.Ordered : Job → Prop
  | .call _ params _ => params.Ordered
  | .relay message => message.Ordered
  | .disconnect => True

/-- Tasks send ordered values, and the messages that wait at ports are requests that the client
accepted. -/
structure Composed (c : Client) : Prop where
  jobs : ∀ job ∈ c.tasks.map Task.job, job.Ordered
  outbox : ∀ link, ∀ m ∈ c.outbox link, ∃ r, Accepted c.config.limit r ∧ r.toJson.sorted = m

section

variable {c c' : Client} {task link : Nat} {job : Job} {ask : Relay.Ask} {out : List (Nat × Json)}

/-- What a job asks for has ordered parameters. -/
theorem Job.Ordered.params (ordered : job.Ordered) (asks : job.ask? = some ask) :
    ask.params.Ordered := by
  cases job with
  | call method params limited =>
      cases asks
      exact ordered
  | relay message =>
      have empty : (Json.object []).Ordered := .object .nil nofun
      have ordered : message.Ordered := ordered
      rcases (Relay.Ask.decode_eq_ok_iff ordered).mp (decode_of_asks asks) with named | listed
      · cases named with
        | @intro fields method named =>
            cases found : fields.get? "params" with
            | none => exact empty
            | some params => exact ordered.of_get? found
      · cases listed with
        | method method => exact empty
        | params method params =>
            have second : [Json.string method, params][1]? = some params := rfl
            exact ordered.of_getElem? second
  | disconnect => cases asks

theorem Sent.accepted (sent : Sent task link job ask c out c') (ordered : ask.params.Ordered) :
    ∀ o ∈ out, ∃ r, Accepted c.config.limit r ∧ r.toJson.sorted = o.2 := by
  intro o member
  cases sent with
  | refused closed => cases member
  | withdrawn registered reason => cases member
  | @posted request call board registered fits taken =>
      obtain rfl := List.mem_singleton.mp member
      refine ⟨request, ⟨?_, fits⟩, rfl⟩
      rw [Switchboard.request_of_registered registered]
      exact ordered

/-- A task posts requests only that the client accepted. -/
theorem Move.accepted (move : Move task c out c')
    (jobs : ∀ job ∈ c.tasks.map Task.job, job.Ordered) :
    ∀ o ∈ out, ∃ r, Accepted c.config.limit r ∧ r.toJson.sorted = o.2 := by
  have ordered : ∀ {job phase ask}, c.tasks[task]? = some { job, phase } → job.ask? = some ask →
      ask.params.Ordered := by
    intro job phase ask found asks
    exact (jobs job (List.mem_map.mpr ⟨_, List.mem_of_getElem? found, rfl⟩)).params asks
  cases move with
  | send found asks live sent => exact sent.accepted (ordered found asks)
  | sendLocked found asks grants live sent => exact sent.accepted (ordered found asks)
  | connect found asks sent => exact sent.accepted (ordered found asks)
  | _ => exact nofun

theorem Composed.move (h : Composed c) (linked : Linked c) (move : Move task c out c') :
    Composed c' where
  jobs := by
    rw [move.jobs]
    exact h.jobs
  outbox link m member := by
    rw [move.config]
    rw [(move.posts linked).outbox_eq, List.mem_append] at member
    rcases member with before | posted
    · exact h.outbox link m before
    · obtain ⟨o, isPosted, there⟩ := List.mem_filterMap.mp posted
      split at there
      · obtain rfl := Option.some.inj there
        exact move.accepted h.jobs o isPosted
      · cases there

/-! ### Events -/

theorem Client.outbox_of_modify {f : Link → Link} (links : c'.links = c.links.modify link f)
    (same : ∀ l, (f l).port.outgoing = l.port.outgoing) (i : Nat) : c'.outbox i = c.outbox i := by
  unfold outbox port
  rw [links, List.getElem?_modify]
  cases c.links[i]? with
  | none => rfl
  | some l => by_cases here : link = i <;> simp [here, same]

theorem Client.endIf_outbox (c : Client) (link : Nat) (reason? : Option String) (i : Nat) :
    (c.endIf link reason?).outbox i = c.outbox i := by
  cases reason? with
  | none => rfl
  | some reason =>
      refine outbox_of_modify rfl ?_ i
      exact fun _ => rfl

/-- Taking the events of a port does not touch what is posted. -/
theorem Client.attend_outbox (c : Client) (link : Nat) (most : Option Nat) (i : Nat) :
    (c.attend link most).outbox i = c.outbox i := by
  cases found : c.links[link]? with
  | none => simp only [attend, found]
  | some l =>
      cases attended : l.attended with
      | false => simp [attend, found, attended]
      | true =>
          rw [attend_eq found attended, endIf_outbox]
          refine outbox_of_modify rfl ?_ i
          exact fun _ => rfl

/-- The host's side posts nothing, and takes from the front or drops all. -/
theorem PeerAct.apply_outgoing (act : PeerAct) (p : Port) :
    (act.apply p).outgoing.items.Sublist p.outgoing.items := by
  cases act with
  | send message => exact .refl _
  | disconnect reason => exact .refl _
  | take count => exact List.drop_sublist ..
  | close => exact .refl _
  | discard => exact List.nil_sublist _
  | drop => exact List.nil_sublist _

theorem Client.peer_outbox (c : Client) (link : Nat) (act : PeerAct) (i : Nat) :
    ((c.happen (.peer link act)).outbox i).Sublist (c.outbox i) := by
  show ((c.onPort link _ ()).2.outbox i).Sublist _
  unfold onPort
  split
  · exact .refl _
  · rename_i l found
    split
    · exact .refl _
    · obtain ⟨inside, -⟩ := List.getElem?_eq_some_iff.mp found
      unfold outbox
      rw [port]
      dsimp only
      rw [modify_port inside]
      split
      · rename_i here
        rw [here, port_of_found found]
        exact act.apply_outgoing l.port
      · exact .refl _

end

namespace Composed

variable {c : Client} {config : Config} {es : List Event}

theorem fresh (config : Config) (settings : Settings) :
    Composed (Client.fresh config settings) where
  jobs := nofun
  outbox _ _ member := nomatch member

/-- What is posted may get less, as long as no task has a job that is not ordered. -/
theorem of_sublist {c' : Client} (h : Composed c)
    (jobs : ∀ job ∈ c'.tasks.map Task.job, job.Ordered) (config : c'.config = c.config)
    (less : ∀ link, (c'.outbox link).Sublist (c.outbox link)) : Composed c' where
  jobs := jobs
  outbox link m member := by
    rw [config]
    exact h.outbox link m ((less link).subset member)

theorem happen (h : Composed c) (linked : Linked c) {e : Event}
    (values : ∀ job, e = .spawn job → job.Ordered) : Composed (c.happen e) := by
  have config := c.happen_config e
  cases e with
  | spawn job =>
      refine h.of_sublist (fun job' member => ?_) config fun _ => .refl _
      rw [Client.happen, Client.spawn, List.map_append, List.mem_append] at member
      rcases member with before | further
      · exact h.jobs job' before
      · obtain rfl := List.mem_singleton.mp further
        exact values _ rfl
  | step task dial timeUp =>
      have kept : Linked (c.step task dial timeUp) ∧ Composed (c.step task dial timeUp) :=
        Client.step_keeps (P := fun a => Linked a ∧ Composed a)
          (fun before move => ⟨before.1.move move, before.2.move before.1 move⟩) ⟨linked, h⟩ dial
          timeUp
      exact kept.2
  | cancel task =>
      show Composed (c.cancel task)
      unfold Client.cancel
      split
      · exact h
      · refine h.of_sublist ?_ (c.letGo_config task) fun link => ?_
        · rw [Client.setPhase_jobs, Client.letGo_tasks]
          exact h.jobs
        · have links : ((c.letGo task).setPhase task .cancelled).links = c.links :=
            c.letGo_links task
          rw [Client.outbox, Client.port_of_links_eq links]
          exact .refl _
  | attend link most =>
      have quiet := quiet_attend c link most
      refine h.of_sublist (quiet.tasks ▸ h.jobs) config fun i => ?_
      rw [Client.happen, Client.attend_outbox]
  | peer link act =>
      have quiet := quiet_onPort c link (fun p => ((), act.apply p)) ()
      exact h.of_sublist (quiet.tasks ▸ h.jobs) config fun i => c.peer_outbox link act i
  | configure settings => exact h.of_sublist h.jobs config fun _ => .refl _

theorem run (h : Composed c) (linked : Linked c) (values : ∀ job, .spawn job ∈ es → job.Ordered) :
    Composed (c.run es) := by
  induction es generalizing c with
  | nil => exact h
  | cons e es ih =>
      have first : Composed (c.happen e) := h.happen linked fun job same =>
        values job (same ▸ List.mem_cons_self)
      exact ih first (linked.happen e) fun job member => values job (List.mem_cons_of_mem _ member)

/-- What waits at a port is a row of requests. -/
theorem exists_requests (h : Composed c) (link : Nat) :
    ∃ requests : List Request, (∀ r ∈ requests, Accepted c.config.limit r) ∧
      c.outbox link = requests.map fun r => r.toJson.sorted := by
  have each : ∀ m ∈ c.outbox link,
      m ∈ Set.range fun r : { r // Accepted c.config.limit r } => r.1.toJson.sorted := by
    intro m member
    obtain ⟨r, accepted, same⟩ := h.outbox link m member
    exact ⟨⟨r, accepted⟩, same⟩
  obtain ⟨requests, same⟩ := (Set.range_list_map _).ge each
  refine ⟨requests.map Subtype.val, ?_, ?_⟩
  · exact List.forall_mem_map.mpr fun r _ => r.2
  · rw [← same, List.map_map]
    rfl

end Composed

/-- A carrier writes all of a row of requests that are within its limit. -/
theorem Carrier.collect_of_accepted {k : Carrier} {p : Port} {requests : List Request}
    {reader : Reader} (small : k.limit < headerRange) (carrying : k.carriage = .carrying reader)
    (accepted : ∀ r ∈ requests, Accepted k.limit r)
    (items : p.outgoing.items = requests.map fun r => r.toJson.sorted) :
    (k.collect p).1 = requests.map packetOf := by
  unfold collect
  rw [carrying]
  dsimp only
  rw [items, List.filterMap_map]
  exact List.filterMap_eq_map_iff_forall_eq_some.mpr fun r member =>
    (accepted r member).packet? small

/-- The payload of a request that is posted has the length that the client measured before. So it is
within the limit exactly if the client accepted the request, and then it has a packet. It is the
text of a value that is read as the same request, and this value is read back from the text if all
numbers are integers. (From the text of another number a neighbour of it may be read.) In every run,
what waits at a port is requests that were accepted, and a carrier with the client's limit writes
one packet for each of them. -/
theorem accepted_requests_are_carried (config : Config) (small : config.limit ≤ Config.maxLimit)
    (settings : Settings) {es : List Event} (values : ∀ job, .spawn job ∈ es → job.Ordered) :
    (∀ request : Request, request.params.Ordered →
      let payload := request.toJson.sorted.bytes
      payload.length = request.toJson.byteLength ∧
      Request.decode request.toJson.sorted = .ok request ∧
      (request.params.Integral → request.params.depth ≤ 126 →
        Json.parseBytes payload = .ok request.toJson.sorted) ∧
      (request.toJson.byteLength ≤ config.limit →
        checkLength payload.length config.limit = .ok payload.length ∧
        encode payload config.limit = .ok (header payload.length ++ payload)) ∧
      (config.limit < request.toJson.byteLength →
        checkLength payload.length config.limit =
          .error (.frameTooLarge payload.length config.limit))) ∧
    ∀ link, ∃ requests : List Request,
      (∀ r ∈ requests, r.params.Ordered ∧ r.toJson.byteLength ≤ config.limit) ∧
      ((Client.fresh config settings).run es).outbox link =
        requests.map (fun r => r.toJson.sorted) ∧
      ∀ (k : Carrier) (reader : Reader), k.limit = config.limit → k.carriage = .carrying reader →
        (k.collect (((Client.fresh config settings).run es).port link)).1 =
          requests.map fun r => header r.toJson.byteLength ++ r.toJson.sorted.bytes := by
  have small : config.limit < headerRange := Nat.lt_of_le_pred (by decide) small
  refine ⟨fun request ordered => ?_, fun link => ?_⟩
  · intro payload
    have length : payload.length = request.toJson.byteLength :=
      Request.byteLength_toJson_sorted ordered
    have positive := request.byteLength_toJson_pos
    refine ⟨length, ?_, Request.parseBytes_toJson_sorted ordered, fun fits => ⟨?_, ?_⟩,
      fun long => ?_⟩
    · rw [Request.decode_toJson_sorted, Json.sorted_of_ordered ordered]
    · exact if_neg (by omega)
    · rw [encode_request small ordered, if_pos fits, packetOf, length]
    · exact if_pos (by omega)
  · have composed := (Composed.fresh config settings).run (linked_fresh config settings) values
    obtain ⟨requests, accepted, outbox⟩ := composed.exists_requests link
    rw [Client.run_config] at accepted
    refine ⟨requests, fun r member => ?_, outbox, fun k reader same carrying => ?_⟩
    · exact ⟨(accepted r member).ordered, (accepted r member).fits⟩
    · exact Carrier.collect_of_accepted (same ▸ small) carrying (same ▸ accepted) outbox

/-- A call is posted over a connection that it asks for. -/
def oneCall : List Event :=
  [.spawn (.call "m" .null false), .step 0 (fun _ => some (.ok .untouched)) false]

theorem call_at_the_limit_is_carried :
    let c := (Client.fresh { limit := 51 } (.stored {})).run oneCall
    (51 ≤ Config.maxLimit ∧ ∀ job, .spawn job ∈ oneCall → job.Ordered) ∧
      ((Carrier.opened "host" 51).collect (c.port 0)).1 = [51 :: 0 :: 0 :: 0 :: Text.Utf8.ofString
        "\x7b\"id\":1,\"jsonrpc\":\"2.0\",\"method\":\"m\",\"params\":null\x7d"] := by
  intro c
  have small : 51 ≤ Config.maxLimit := by decide
  have values : ∀ job, .spawn job ∈ oneCall → job.Ordered := by
    intro job member
    rcases List.mem_cons.mp member with spawned | later
    · cases spawned
      exact .null
    · cases List.mem_singleton.mp later
  let r : Request := { id := 1, method := "m", params := .null }
  obtain ⟨measured, carried⟩ :=
    accepted_requests_are_carried { limit := 51 } small (.stored {}) values
  obtain ⟨requests, accepted, outbox, carried⟩ := carried 0
  have waiting : c.outbox 0 = [r.toJson.sorted] := rfl
  obtain ⟨q, rfl, same⟩ := List.map_eq_singleton_iff.mp (outbox.symm.trans waiting)
  obtain ⟨length, -⟩ := measured q (accepted q List.mem_cons_self).1
  refine ⟨⟨small, values⟩, (carried (.opened "host" 51) _ rfl rfl).trans ?_⟩
  rw [List.map_singleton, ← length, same]
  decide +kernel

end Native

end RpcLink
