import RpcLink.Proofs.Wire.Grammar
import RpcLink.Wire.Handshake

/-!
Which answers to the greeting say what a server is: a result that is an object, each of whose known
fields is missing or of its kind. Whatever else is answered is told as a failure of the greeting.
-/

namespace RpcLink

namespace ServerInfo

/-- Fields that describe a server. Each of them may be missing, and there may be others. -/
structure Described (fields : Fields) : Prop where
  name : fields.Each "name" fun v => ∃ text, v = .string text
  version : fields.Each "version" fun v => ∃ text, v = .string text
  capabilities : fields.Each "capabilities" fun v =>
    ∃ methods : List String, v = .array (methods.map .string)
  partialMessages : fields.Each "partial_messages_enabled" fun v => ∃ b, v = .bool b

variable {fields : Fields} {r : Response} {e : Failure}

theorem checks_iff : Json.checkFields [("capabilities", Json.checked (Json.asList Json.asString)),
    ("name", Json.checked Json.asString), ("partial_messages_enabled", Json.checked Json.asBool),
    ("version", Json.checked Json.asString)] fields = .ok () ↔ Described fields := by
  rw [Json.checkFields_eq_ok (by decide)]
  simp only [List.forall_mem_cons, List.not_mem_nil, false_imp_iff, implies_true, and_true,
    Json.checked_eq_ok, Json.asString_eq_ok, Json.asBool_eq_ok, Json.asList_asString_eq_ok]
  constructor
  · rintro ⟨capabilities, name, partialMessages, version⟩
    exact ⟨name, version, capabilities, partialMessages⟩
  · rintro ⟨name, version, capabilities, partialMessages⟩
    exact ⟨capabilities, name, partialMessages, version⟩

/-- Exactly the fields that describe a server are read as one. -/
theorem exists_ofFields_iff : (∃ info, ofFields fields = .ok info) ↔ Described fields := by
  constructor
  · rintro ⟨info, read⟩
    obtain ⟨_, checks, -⟩ := Json.bind_eq_ok.mp read
    exact checks_iff.mp checks
  · intro described
    have text : ∀ {key : String}, fields.Each key (fun v => ∃ text, v = .string text) →
        ∃ text, Json.optional key Json.asString "" fields = .ok text := fun each =>
      Json.exists_optional "" fun v member =>
        (each v member).imp fun _ same => Json.asString_eq_ok.mpr same
    have methods : ∃ methods, Json.optional "capabilities" (Json.asList Json.asString) [] fields =
        .ok methods :=
      Json.exists_optional [] fun v member =>
        (described.capabilities v member).imp fun _ same => Json.asList_asString_eq_ok.mpr same
    have parts : ∃ b, Json.optional "partial_messages_enabled" Json.asBool false fields = .ok b :=
      Json.exists_optional false fun v member =>
        (described.partialMessages v member).imp fun _ same => Json.asBool_eq_ok.mpr same
    obtain ⟨name, named⟩ := text described.name
    obtain ⟨version, numbered⟩ := text described.version
    obtain ⟨capabilities, able⟩ := methods
    obtain ⟨partialMessages, parted⟩ := parts
    refine ⟨⟨name, version, capabilities, partialMessages⟩, ?_⟩
    simp only [ofFields, checks_iff.mpr described, named, numbered, able, parted, bind,
      Except.bind, pure, Except.pure]

/-- The answer is accepted if it is no error and its result is an object that describes a server. -/
theorem exists_ofResponse_iff : (∃ info, ofResponse r = .ok info) ↔
    r.error = none ∧ ∃ fields, r.result = some (.object fields) ∧ Described fields := by
  unfold ofResponse
  cases r.error with
  | some error => simp
  | none =>
      cases r.result with
      | none => simp
      | some v =>
          cases v with
          | object fields =>
              simp only [Option.getD_some, Option.some.injEq, Json.object.injEq,
                exists_eq_left', true_and, ← exists_ofFields_iff, decode, Json.Shape.decode]
              cases ofFields fields <;> simp [Except.mapError]
          | _ => simp

/-- An answer that is not accepted counts as a failure of the greeting. -/
theorem handshake_of_ofResponse (unread : ofResponse r = .error e) : ∃ m, e = .handshake m := by
  unfold ofResponse at unread
  split at unread
  · exact ⟨_, (Except.error.inj unread).symm⟩
  · split at unread
    · rename_i fields _
      cases read : decode (.object fields) with
      | ok info => simp [read, Except.mapError] at unread
      | error fault =>
          rw [read] at unread
          exact ⟨_, (Except.error.inj unread).symm⟩
    · exact ⟨_, (Except.error.inj unread).symm⟩

end ServerInfo

end RpcLink
