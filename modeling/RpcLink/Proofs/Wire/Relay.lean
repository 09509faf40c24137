import RpcLink.Proofs.Json.Decode
import RpcLink.Relay

/-!
Which messages a relay takes for calls, and what it does with every message: the one call that the
message asks for, or none at all.

A record can be written as a list of its fields as well, so a list is taken for a call too, where
the relay means to take objects only.
-/

namespace RpcLink.Relay

/-! ### Messages that ask for a call -/

/-- The message is an object that names a method. Its parameters are what it says, `null` too, and
an empty object if it says nothing; other keys do not matter. -/
inductive Named : Json → Ask → Prop
  | intro {fields : Fields} {method : String}
      (named : fields.get? "method" = some (.string method)) :
      Named (.object fields) ⟨method, (fields.get? "params").getD (.object [])⟩

/-- The message is a list of the method and, at most, the parameters. -/
inductive Listed : Json → Ask → Prop
  | method (method : String) : Listed (.array [.string method]) ⟨method, .object []⟩
  | params (method : String) (params : Json) :
      Listed (.array [.string method, params]) ⟨method, params⟩

namespace Ask

variable {a : Ask}

theorem optional_params (fields : Fields) :
    Json.optional "params" Json.asAny (.object []) fields =
      .ok ((fields.get? "params").getD (.object [])) := by
  unfold Json.optional
  cases fields.get? "params" <;> rfl

theorem ofFields_eq_ok_iff {fields : Fields} (distinct : (fields.map Prod.fst).Nodup) :
    ofFields fields = .ok a ↔ Named (.object fields) a := by
  constructor
  · intro read
    simp only [ofFields, Json.bind_eq_ok, optional_params, Json.required_eq_ok] at read
    obtain ⟨-, -, method, ⟨v, named, isString⟩, params, ⟨⟩, ⟨⟩⟩ := read
    exact .intro (Json.asString_eq_ok.mp isString ▸ named)
  · rintro ⟨named⟩
    have required : Json.required "method" Json.asString fields = .ok _ :=
      Json.required_eq_ok.mpr ⟨_, named, rfl⟩
    have checks : Json.checkFields [("method", Json.checked Json.asString)] fields = .ok () := by
      refine Json.checkFields_of_get? distinct fun d member v found => ?_
      cases List.mem_singleton.mp member
      exact Json.checked_of_required required found
    simp only [ofFields, checks, required, optional_params, bind, Except.bind, pure, Except.pure]

/-- Items are a call if the first is a text; there may be more than two as far as this goes. -/
theorem ofItems_eq_ok_iff {items : List Json} :
    ofItems items = .ok a ↔
      ∃ rest, items = .string a.method :: rest ∧ a.params = rest.head?.getD (.object []) := by
  cases items with
  | nil => simp [ofItems, Json.Shape.item, bind, Except.bind]
  | cons first rest =>
      have params : shape.itemOr 1 Json.asAny (.object []) (first :: rest) =
          .ok (rest.head?.getD (.object [])) := by
        cases rest <;> rfl
      have method : shape.item 0 Json.asString (first :: rest) = Json.asString first := rfl
      simp only [ofItems, params, method, Json.bind_eq_ok, Json.asString_eq_ok]
      constructor
      · rintro ⟨text, rfl, params, ⟨⟩, ⟨⟩⟩
        exact ⟨rest, rfl, rfl⟩
      · rintro ⟨rest, ⟨⟩, params⟩
        exact ⟨_, rfl, _, rfl, by rw [← params]; rfl⟩

/-- Exactly the objects that name a method and the short lists are read as calls. -/
theorem decode_eq_ok_iff {message : Json} (ordered : message.Ordered) :
    decode message = .ok a ↔ Named message a ∨ Listed message a := by
  cases message with
  | object fields =>
      have unlisted : ¬ Listed (.object fields) a := nofun
      rw [or_iff_left unlisted]
      exact ofFields_eq_ok_iff ordered.distinct
  | array items =>
      have unnamed : ¬ Named (.array items) a := nofun
      rw [or_iff_right unnamed]
      simp only [decode, Json.Shape.decode, Json.bind_eq_ok, ofItems_eq_ok_iff, Json.Shape.atMost]
      constructor
      · rintro ⟨b, ⟨rest, rfl, params⟩, short, few, ⟨⟩⟩
        obtain ⟨method, params⟩ := a
        match rest with
        | [] => cases params; exact .method method
        | [said] => cases params; exact .params method _
        | _ :: _ :: _ => simp [shape] at few
      · rintro (_ | _)
        · exact ⟨_, ⟨[], rfl, rfl⟩, (), rfl, rfl⟩
        · exact ⟨_, ⟨[_], rfl, rfl⟩, (), rfl, rfl⟩
  | _ => exact ⟨nofun, nofun⟩

end Ask

/-! ### The calls that are made -/

variable {m : Type → Type} [Monad m]

/-- The client, with a note made of every call. -/
def noting (client : Client m) : Client (StateT (List Ask) m) := fun method params asked => do
  let result ← client method params
  pure (result, asked ++ [⟨method, params⟩])

theorem run_noting (client : Client m) (method : String) (params : Json) (asked : List Ask) :
    (noting client method params).run asked =
      (do let result ← client method params
          pure (result, asked ++ [⟨method, params⟩])) := rfl

/-- What is replied where no call is made. -/
def refusal (text : String) : Json := .object [("error", .string text), ("ok", .bool false)]

theorem toJson_refused (e : Json.DecodeError) :
    (Reply.refused e).toJson.sorted = refusal s!"invalid request: {e.message}" := rfl

theorem handleMessage_of_ok [LawfulMonad m] (client : Client m) {message : Json} {a : Ask}
    (read : Ask.decode message = .ok a) (asked : List Ask) :
    (handleMessage (noting client) message).run asked =
      (do let result ← client a.method a.params
          pure ((Reply.ofResult result).toJson.sorted, asked ++ [a])) := by
  simp [handleMessage, read, handle, run_noting]

theorem handleMessage_of_error [LawfulMonad m] (client : Client m) {message : Json}
    {e : Json.DecodeError} (unread : Ask.decode message = .error e) :
    handleMessage client message = pure (refusal s!"invalid request: {e.message}") := by
  simp [handleMessage, unread, toJson_refused]

/-- Whatever the client does, a message that asks for a call makes it call once, with the method and
the parameters of the message, and every other message is refused with no call made. -/
theorem message_makes_its_one_call [LawfulMonad m] (client : Client m) {message : Json}
    (ordered : message.Ordered) (asked : List Ask) :
    (∀ a, Named message a ∨ Listed message a →
      (handleMessage (noting client) message).run asked =
        (do let result ← client a.method a.params
            pure ((Reply.ofResult result).toJson.sorted, asked ++ [a]))) ∧
    ((∀ a, ¬ Named message a ∧ ¬ Listed message a) →
      ∃ reason, (handleMessage (noting client) message).run asked =
        pure (refusal ("invalid request: " ++ reason), asked)) := by
  constructor
  · intro a asks
    exact handleMessage_of_ok client ((Ask.decode_eq_ok_iff ordered).mpr asks) asked
  · intro askless
    cases read : Ask.decode message with
    | ok a =>
        rcases (Ask.decode_eq_ok_iff ordered).mp read with named | listed
        · exact absurd named (askless a).1
        · exact absurd listed (askless a).2
    | error e =>
        refine ⟨e.message, ?_⟩
        rw [handleMessage_of_error (noting client) read]
        rfl

/-- A client that answers with the parameters. -/
def echo : Client Id := fun _ params => .ok (Response.success 1 params)

/-- A message with other keys and parameters that are `null` makes one call, and a message whose
method is no text makes none. -/
theorem null_is_called_with :
    let message := Json.object [("method", .string "m"), ("params", .null), ("to", .bool true)]
    let nameless := Json.object [("method", .null)]
    (handleMessage (noting echo) message).run [] =
        ((Reply.success (Response.success 1 .null)).toJson.sorted, [⟨"m", .null⟩]) ∧
      ∃ reason, (handleMessage (noting echo) nameless).run [] =
        (refusal ("invalid request: " ++ reason), []) := by
  intro message nameless
  have ordered : message.Ordered := .object (by decide) (by simp [Json.Ordered.null,
    Json.Ordered.string, Json.Ordered.bool])
  have nothing : nameless.Ordered := .object (by decide) (by simp [Json.Ordered.null])
  have askless : ∀ a, ¬ Named (.object [("method", .null)]) a := by
    rintro _ ⟨named⟩
    cases named
  have unlisted : ∀ a, ¬ Listed (.object [("method", .null)]) a := nofun
  exact ⟨(message_makes_its_one_call echo ordered []).1 ⟨"m", .null⟩ (.inl (.intro rfl)),
    (message_makes_its_one_call echo nothing []).2 fun a => ⟨askless a, unlisted a⟩⟩

/-- A list of one text is no object, and a call is made for it all the same. -/
theorem listed_method_is_called :
    (∀ a, ¬ Named (.array [.string "m"]) a) ∧
      (handleMessage (noting echo) (.array [.string "m"])).run [] =
        ((Reply.success (Response.success 1 (.object []))).toJson.sorted, [⟨"m", .object []⟩]) :=
  ⟨nofun, rfl⟩

end RpcLink.Relay
