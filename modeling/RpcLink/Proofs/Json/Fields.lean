import Mathlib.Data.List.Basic
import RpcLink.Proofs.Json.Sorting

/-!
The fields of an object whose keys go upwards are determined by what is found under each key.
-/

namespace RpcLink

namespace Fields

theorem get?_cons (key k : String) (v : Json) (fields : Fields) :
    get? ((k, v) :: fields) key = if key = k then some v else get? fields key := by
  unfold get?
  rw [List.lookup_cons]
  by_cases same : key = k
  · rw [if_pos same, beq_iff_eq.mpr same]
  · rw [if_neg same, beq_eq_false_iff_ne.mpr same]

/-- Under a key that no field has nothing is found. -/
theorem get?_eq_none {key : String} {fields : Fields} (other : ∀ f ∈ fields, f.1 ≠ key) :
    get? fields key = none :=
  List.lookup_eq_none_iff.mpr fun f member => bne_iff_ne.mpr (other f member).symm

/-- What is found belongs to a field. -/
theorem mem_of_get? {key : String} {fields : Fields} {v : Json}
    (found : get? fields key = some v) : (key, v) ∈ fields := by
  obtain ⟨before, behind, rfl, -⟩ := List.lookup_eq_some_iff.mp found
  exact List.mem_append_right before List.mem_cons_self

/-- The fields under some keys, as far as there are such. -/
def listing (known : List String) (fields : Fields) : Fields :=
  known.filterMap fun key => (fields.get? key).map (key, ·)

theorem listing_nil (fields : Fields) : listing [] fields = [] := rfl

theorem listing_cons (key : String) (known : List String) (fields : Fields) :
    listing (key :: known) fields =
      ((fields.get? key).map (key, ·)).toList ++ listing known fields := by
  unfold listing
  cases found : fields.get? key <;> simp [found]

theorem listing_congr {known : List String} {fields others : Fields}
    (same : ∀ key ∈ known, fields.get? key = others.get? key) :
    listing known fields = listing known others :=
  List.filterMap_congr fun key member => by rw [same key member]

/-- Fields in order, all of them under keys that are known, are those listed in order. -/
theorem eq_listing {known : List String} {fields : Fields} (upwards : known.Pairwise (· < ·))
    (keys : fields.Pairwise (·.1 < ·.1)) (within : ∀ f ∈ fields, f.1 ∈ known) :
    fields = listing known fields := by
  induction known generalizing fields with
  | nil =>
      have empty : fields = [] := List.eq_nil_iff_forall_not_mem.mpr fun f member =>
        List.not_mem_nil (within f member)
      rw [empty]
      rfl
  | cons key known ih =>
      obtain ⟨least, upwards⟩ := List.pairwise_cons.mp upwards
      rw [listing_cons]
      by_cases first : ∃ v rest, fields = (key, v) :: rest
      · obtain ⟨v, rest, rfl⟩ := first
        obtain ⟨above, keys⟩ := List.pairwise_cons.mp keys
        have behind : ∀ f ∈ rest, f.1 ∈ known := fun f member =>
          (List.mem_cons.mp (within f (List.mem_cons_of_mem _ member))).resolve_left fun same =>
            String.lt_irrefl _ (same ▸ above f member)
        have others : listing known ((key, v) :: rest) = listing known rest :=
          listing_congr fun k member => by
            rw [get?_cons, if_neg fun same => String.lt_irrefl _ (same ▸ least k member)]
        rw [get?_cons, if_pos rfl, others, ← ih upwards keys behind]
        rfl
      · -- The first key is a later one, so all keys are.
        have absent : ∀ f ∈ fields, f.1 ≠ key := by
          rintro f member rfl
          cases fields with
          | nil => cases member
          | cons g rest =>
              obtain ⟨above, -⟩ := List.pairwise_cons.mp keys
              rcases List.mem_cons.mp member with rfl | member
              · exact first ⟨f.2, rest, rfl⟩
              · have low : g.1 < f.1 := above f member
                rcases List.mem_cons.mp (within g List.mem_cons_self) with same | known
                · exact String.lt_irrefl _ (same ▸ low)
                · exact String.lt_irrefl _ (String.lt_trans (least _ known) low)
        have behind : ∀ f ∈ fields, f.1 ∈ known := fun f member =>
          (List.mem_cons.mp (within f member)).resolve_left (absent f member)
        rw [get?_eq_none absent, ← ih upwards keys behind]
        rfl

end Fields

namespace Json.Ordered

/-- What is found in an ordered object is ordered. -/
theorem of_get? {fields : Fields} {key : String} {v : Json} (ordered : Ordered (.object fields))
    (found : fields.get? key = some v) : v.Ordered := by
  cases ordered with
  | object keys each => exact each _ (Fields.mem_of_get? found)

theorem of_getElem? {items : List Json} {place : Nat} {v : Json} (ordered : Ordered (.array items))
    (found : items[place]? = some v) : v.Ordered := by
  cases ordered with
  | array each => exact each v (List.mem_of_getElem? found)

/-- No two fields of an ordered object have the same key. -/
theorem distinct {fields : Fields} (ordered : Ordered (.object fields)) :
    (fields.map Prod.fst).Nodup := by
  cases ordered with
  | object keys each =>
      refine List.pairwise_map.mpr (keys.imp fun below same => ?_)
      exact String.lt_irrefl _ (same ▸ below)

end Json.Ordered

end RpcLink
