import RpcLink.Json.Decode
import RpcLink.Proofs.Json.Fields

/-!
What decoders accept: words from the numbers that are written for them, options, and records
whose fields all decode.
-/

namespace RpcLink.Json

/-- A decoder of two steps succeeds where the second succeeds on what the first gives. -/
theorem bind_eq_ok {α β : Type} {x : Except DecodeError α} {f : α → Except DecodeError β}
    {b : β} : (x >>= f) = .ok b ↔ ∃ a, x = .ok a ∧ f a = .ok b := by
  cases x with
  | error e => simp [bind, Except.bind]
  | ok a => simp [bind, Except.bind]

/-- A word is read back from its number. -/
theorem asUInt64_ofUInt64 (n : UInt64) : asUInt64 (.ofUInt64 n) = .ok n := by
  simp [asUInt64, ofUInt64]

theorem asInt64_ofInt64 (n : Int64) : asInt64 (.ofInt64 n) = .ok n := by
  have below : n.toInt < 0x8000000000000000 := n.toInt_lt
  simp [asInt64, ofInt64, below]

/-- Only a text is read as a text. -/
theorem asString_eq_ok {v : Json} {text : String} : asString v = .ok text ↔ v = .string text := by
  cases v <;> simp [asString]

theorem asBool_eq_ok {v : Json} {b : Bool} : asBool v = .ok b ↔ v = .bool b := by
  cases v <;> simp [asBool]

/-- Only an array of texts is read as a list of texts. -/
theorem asList_asString_eq_ok {v : Json} {texts : List String} :
    asList asString v = .ok texts ↔ v = .array (texts.map .string) := by
  cases v with
  | array items =>
      show items.mapM asString = .ok texts ↔ _
      induction items generalizing texts with
      | nil => cases texts <;> simp [pure, Except.pure]
      | cons item items ih =>
          rw [List.mapM_cons]
          constructor
          · intro read
            obtain ⟨text, first, read⟩ := bind_eq_ok.mp read
            obtain ⟨rest, others, ⟨⟩⟩ := bind_eq_ok.mp read
            rw [asString_eq_ok.mp first, Json.array.inj (ih.mp others)]
            rfl
          · intro same
            cases texts with
            | nil => cases same
            | cons text texts =>
                obtain ⟨rfl, others⟩ := List.cons.inj (Json.array.inj same)
                have rest := ih.mpr (congrArg Json.array others)
                simp [asString, rest, bind, Except.bind, pure, Except.pure]
  | _ => simp [asList]

/-- Only the number of a word is read as that word. -/
theorem asUInt64_eq_ok {v : Json} {n : UInt64} : asUInt64 v = .ok n ↔ v = .ofUInt64 n := by
  refine ⟨fun read => ?_, fun same => same ▸ asUInt64_ofUInt64 n⟩
  cases v with
  | number x =>
      cases x with
      | integer i word =>
          rw [asUInt64] at read
          split at read
          · rename_i natural
            have below := word.2
            cases read
            have small : i.toNat < 2 ^ 64 := by omega
            have same : ((UInt64.ofNat i.toNat).toNat : Int) = i := by
              rw [UInt64.toNat_ofNat_of_lt' small, Int.toNat_of_nonneg natural]
            simp only [ofUInt64, same]
          · cases read
      | float x => cases read
  | _ => cases read

theorem asInt64_eq_ok {v : Json} {n : Int64} : asInt64 v = .ok n ↔ v = .ofInt64 n := by
  refine ⟨fun read => ?_, fun same => same ▸ asInt64_ofInt64 n⟩
  cases v with
  | number x =>
      cases x with
      | integer i word =>
          rw [asInt64] at read
          split at read
          · rename_i below
            have above := word.1
            cases read
            have same : (Int64.ofInt i).toInt = i := Int64.toInt_ofInt_of_le above below
            simp [ofInt64, same]
          · cases read
      | float x => cases read
  | _ => cases read

section

variable {α : Type} {decode : Decoder α} {v : Json}

theorem checked_eq_ok : checked decode v = .ok () ↔ ∃ x, decode v = .ok x := by
  unfold checked
  cases decode v <;> simp [Except.map]

theorem asOption_of_ne_null (present : v ≠ .null) : asOption decode v = (decode v).map some := by
  cases v with
  | null => exact absurd rfl present
  | _ => rfl

/-- Nothing comes of `null` only. -/
theorem asOption_eq_none : asOption decode v = .ok none ↔ v = .null := by
  by_cases absent : v = .null
  · simp [absent, asOption]
  · rw [asOption_of_ne_null absent]
    cases decode v <;> simp [Except.map, absent]

/-- Something comes of what decodes and is not `null`. -/
theorem asOption_eq_some {x : α} :
    asOption decode v = .ok (some x) ↔ v ≠ .null ∧ decode v = .ok x := by
  by_cases absent : v = .null
  · simp [absent, asOption]
  · rw [asOption_of_ne_null absent]
    cases decode v <;> simp [Except.map, absent]

end

section

variable {α : Type} {name : String} {decode : Decoder α} {absent x : α} {fields : Fields}

theorem required_eq_ok : required name decode fields = .ok x ↔
    ∃ v, fields.get? name = some v ∧ decode v = .ok x := by
  unfold required
  cases fields.get? name <;> simp

theorem optional_eq_ok : optional name decode absent fields = .ok x ↔
    (fields.get? name = none ∧ absent = x) ∨ ∃ v, fields.get? name = some v ∧ decode v = .ok x := by
  unfold optional
  cases fields.get? name <;> simp

theorem filter_ne_null {data : Option Json} (present : data ≠ some .null) :
    data.filter (· ≠ .null) = data := by
  cases data with
  | none => rfl
  | some v => rw [Option.filter_some, if_pos (by simpa using present)]

/-- A value of any kind counts as none if it is `null`. -/
theorem asOption_asAny (v : Json) : asOption asAny v = .ok ((some v).filter (· ≠ .null)) := by
  rw [Option.filter_some]
  by_cases absent : v = .null
  · simp [absent, asOption]
  · simp [asOption_of_ne_null absent, asAny, Except.map, absent]

theorem optional_asAny (name : String) (fields : Fields) :
    optional name (asOption asAny) none fields =
      .ok ((fields.get? name).filter (· ≠ .null)) := by
  unfold optional
  cases fields.get? name with
  | none => rfl
  | some v => exact asOption_asAny v

theorem itemOr_asAny (s : Shape) (place : Nat) (items : List Json) :
    s.itemOr place (asOption asAny) none items = .ok (items[place]?.filter (· ≠ .null)) := by
  unfold Shape.itemOr
  cases items[place]? with
  | none => rfl
  | some v => exact asOption_asAny v

theorem checked_of_required (read : required name decode fields = .ok x) {v : Json}
    (found : fields.get? name = some v) : checked decode v = .ok () := by
  obtain ⟨w, here, decodes⟩ := required_eq_ok.mp read
  cases here.symm.trans found
  rw [checked, decodes]
  rfl

theorem checked_of_optional (read : optional name decode absent fields = .ok x) {v : Json}
    (found : fields.get? name = some v) : checked decode v = .ok () := by
  rcases optional_eq_ok.mp read with ⟨missing, -⟩ | ⟨w, here, decodes⟩
  · cases missing.symm.trans found
  · cases here.symm.trans found
    rw [checked, decodes]
    rfl

end

/-- Under different keys, what is found under a key is what stands there. -/
theorem lookup_eq_some_iff_mem {α : Type} {entries : List (String × α)}
    (distinct : (entries.map Prod.fst).Nodup) {key : String} {x : α} :
    entries.lookup key = some x ↔ (key, x) ∈ entries := by
  constructor
  · intro found
    obtain ⟨before, behind, split, -⟩ := List.lookup_eq_some_iff.mp found
    exact split ▸ List.mem_append_right before List.mem_cons_self
  · intro member
    obtain ⟨before, behind, rfl⟩ := List.append_of_mem member
    rw [List.map_append, List.nodup_append] at distinct
    refine List.lookup_eq_some_iff.mpr ⟨before, behind, rfl, fun d earlier => ?_⟩
    exact bne_iff_ne.mpr (distinct.2.2 _ (List.mem_map_of_mem earlier) _ (by simp)).symm

/-- Fields all decode if whatever stands under a key that has a decoder does. -/
theorem checkFields_eq_ok {decoders : List (String × Decoder Unit)} {fields : Fields}
    (distinct : (decoders.map Prod.fst).Nodup) :
    checkFields decoders fields = .ok () ↔
      ∀ d ∈ decoders, ∀ v, (d.1, v) ∈ fields → d.2 v = .ok () := by
  induction fields with
  | nil => simp [checkFields]
  | cons f fields ih =>
      obtain ⟨key, v⟩ := f
      rw [checkFields]
      cases found : decoders.lookup key with
      | some decode =>
          have member := (lookup_eq_some_iff_mem distinct).mp found
          refine bind_eq_ok.trans ⟨fun ⟨_, first, rest⟩ d known w here => ?_, fun each => ?_⟩
          · rcases List.mem_cons.mp here with same | later
            · cases same
              cases found.symm.trans ((lookup_eq_some_iff_mem distinct).mpr known)
              exact first
            · exact ih.mp rest d known w later
          · exact ⟨(), each _ member v List.mem_cons_self,
              ih.mpr fun d known w later => each d known w (List.mem_cons_of_mem _ later)⟩
      | none =>
          refine ih.trans (forall₂_congr fun d known => forall_congr' fun w => ?_)
          have other : (d.1, w) ≠ (key, v) := by
            intro same
            cases same
            cases found.symm.trans ((lookup_eq_some_iff_mem distinct).mpr known)
          rw [List.mem_cons, or_iff_right other]

/-- Fields under different keys all decode if what is found under each key that has a decoder
does. -/
theorem checkFields_of_get? {decoders : List (String × Decoder Unit)} {fields : Fields}
    (distinct : (fields.map Prod.fst).Nodup)
    (each : ∀ d ∈ decoders, ∀ v, fields.get? d.1 = some v → d.2 v = .ok ()) :
    checkFields decoders fields = .ok () := by
  induction fields with
  | nil => rfl
  | cons f fields ih =>
      obtain ⟨key, v⟩ := f
      obtain ⟨apart, distinct⟩ := List.nodup_cons.mp distinct
      have rest : checkFields decoders fields = .ok () := by
        refine ih distinct fun d member w found => each d member w ?_
        have listed : d.1 ∈ fields.map Prod.fst :=
          List.mem_map.mpr ⟨_, Fields.mem_of_get? found, rfl⟩
        have other : d.1 ≠ key := fun same => apart (same ▸ listed)
        rw [Fields.get?_cons, if_neg other, found]
      rw [checkFields]
      split
      · next decode known =>
          have here : Fields.get? ((key, v) :: fields) key = some v := by
            rw [Fields.get?_cons, if_pos rfl]
          obtain ⟨before, behind, split, -⟩ := List.lookup_eq_some_iff.mp known
          have member : (key, decode) ∈ decoders :=
            split ▸ List.mem_append_right before List.mem_cons_self
          have decodes : decode v = .ok () := each (key, decode) member v here
          rw [decodes]
          exact rest
      · exact rest

end RpcLink.Json
