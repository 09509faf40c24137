import RpcLink.Json.Basic

/-!
Sorting the fields of all objects in a value. A value whose fields stand in order of their keys
already, no key twice, is not changed by it.
-/

namespace RpcLink.Json

/-- The keys of each object in a value go upwards. -/
inductive Ordered : Json → Prop where
  | null : Ordered .null
  | bool (b : Bool) : Ordered (.bool b)
  | number (n : Number) : Ordered (.number n)
  | string (s : String) : Ordered (.string s)
  | array {items : List Json} (each : ∀ v ∈ items, Ordered v) : Ordered (.array items)
  | object {fields : List (String × Json)} (keys : fields.Pairwise (·.1 < ·.1))
      (each : ∀ f ∈ fields, Ordered f.2) : Ordered (.object fields)

theorem sortedItems_eq_map (items : List Json) : sorted.sortedItems items = items.map sorted := by
  induction items with
  | nil => rfl
  | cons v items ih => rw [sorted.sortedItems, ih, List.map_cons]

theorem sortedFields_eq_map (fields : List (String × Json)) :
    sorted.sortedFields fields = fields.map fun f => (f.1, f.2.sorted) := by
  induction fields with
  | nil => rfl
  | cons f fields ih => rw [sorted.sortedFields, ih, List.map_cons]

/-- A field goes behind all others if its key is above theirs. -/
theorem insert_of_above {fields : Fields} {key : String} {v : Json}
    (above : ∀ f ∈ fields, f.1 < key) : Fields.insert key v fields = fields ++ [(key, v)] := by
  induction fields with
  | nil => rfl
  | cons f fields ih =>
      obtain ⟨k, w⟩ := f
      have less : k < key := above _ List.mem_cons_self
      have notLess : ¬ key < k := String.lt_asymm less
      have other : key ≠ k := by
        rintro rfl
        exact String.lt_irrefl _ less
      rw [Fields.insert, if_neg notLess, if_neg other,
        ih fun g member => above g (List.mem_cons_of_mem _ member), List.cons_append]

/-- Fields whose keys go upwards, those put in before them included, keep their places. -/
theorem foldl_insert_of_pairwise (later : Fields) {behind : Fields}
    (keys : (behind ++ later).Pairwise (·.1 < ·.1)) :
    later.foldl (fun sorted (key, v) => Fields.insert key v sorted) behind = behind ++ later := by
  induction later generalizing behind with
  | nil => rw [List.foldl_nil, List.append_nil]
  | cons f later ih =>
      have above : ∀ g ∈ behind, g.1 < f.1 := fun g member =>
        (List.pairwise_append.mp keys).2.2 g member f List.mem_cons_self
      rw [List.append_cons] at keys ⊢
      rw [List.foldl_cons]
      dsimp only
      rw [insert_of_above above, ih keys]

theorem ofList_of_pairwise {fields : Fields} (keys : fields.Pairwise (·.1 < ·.1)) :
    Fields.ofList fields = fields :=
  foldl_insert_of_pairwise fields (List.nil_append fields ▸ keys)

theorem sorted_of_ordered {v : Json} (ordered : Ordered v) : v.sorted = v := by
  induction ordered with
  | null => rfl
  | bool b => rfl
  | number n => rfl
  | string s => rfl
  | @array items each ih =>
      have same : items.map sorted = items.map id := List.map_congr_left ih
      rw [sorted, sortedItems_eq_map, same, List.map_id]
  | @object fields keys each ih =>
      have same : fields.map (fun f => (f.1, f.2.sorted)) = fields.map id :=
        List.map_congr_left fun f member => by rw [ih f member, id]
      rw [sorted, sortedFields_eq_map, same, List.map_id, ofList_of_pairwise keys]

end RpcLink.Json
