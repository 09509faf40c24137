import Mathlib.Algebra.BigOperators.Group.List.Basic
import RpcLink.Proofs.Json.Fields
import RpcLink.Proofs.Json.Written

/-!
How long the text of a value is. The text of an object is made of those of its fields and of the
commas between them, so its length does not depend on the order of the fields. Sorting the fields of
all objects in a value leaves the length of its text as it was, as long as no key is there twice.
-/

namespace RpcLink

open Json (byteLength itemBytes fieldBytes escaped)

/-! ### Sorting as a permutation -/

namespace Fields

variable {fields : Fields} {key : String}

/-- A key that is not there goes between two fields, or to an end. -/
theorem insert_perm (absent : key ∉ fields.map Prod.fst) (v : Json) :
    (insert key v fields).Perm ((key, v) :: fields) := by
  induction fields with
  | nil => exact .refl _
  | cons f fields ih =>
      rw [List.map_cons, List.mem_cons, not_or] at absent
      obtain ⟨other, absent⟩ := absent
      rw [insert, if_neg other]
      split
      · exact .refl _
      · exact ((ih absent).cons f).trans (.swap _ f fields)

theorem foldl_insert_perm (later : Fields) {behind : Fields}
    (distinct : ((behind ++ later).map Prod.fst).Nodup) :
    (later.foldl (fun sorted (key, v) => insert key v sorted) behind).Perm (behind ++ later) := by
  induction later generalizing behind with
  | nil =>
      rw [List.foldl_nil, List.append_nil]
  | cons f later ih =>
      have moved : (f :: (behind ++ later)).Perm (behind ++ f :: later) := List.perm_middle.symm
      have distinct : ((f :: (behind ++ later)).map Prod.fst).Nodup :=
        (moved.map Prod.fst).nodup_iff.mpr distinct
      obtain ⟨absent, -⟩ := List.nodup_cons.mp distinct
      rw [List.map_append, List.mem_append, not_or] at absent
      have first : (insert f.1 f.2 behind ++ later).Perm (f :: (behind ++ later)) :=
        (insert_perm absent.1 f.2).append_right later
      rw [List.foldl_cons]
      exact (ih ((first.map Prod.fst).nodup_iff.mpr distinct)).trans (first.trans moved)

/-- Fields without a key that is there twice are put in order by moving them. -/
theorem ofList_perm (distinct : (fields.map Prod.fst).Nodup) : (ofList fields).Perm fields :=
  foldl_insert_perm fields (List.nil_append fields ▸ distinct)

end Fields

namespace Json

/-! ### Lengths of parts -/

/-- The number of bytes of a field: the key between quotes, a colon and the value. -/
def fieldLength (f : String × Json) : Nat := (escaped f.1).length + 3 + f.2.byteLength

theorem length_itemBytes (items : List Json) :
    (itemBytes items).length = (items.map byteLength).sum + (items.length - 1) := by
  induction items with
  | nil => rfl
  | cons v items ih =>
      cases items with
      | nil =>
          rw [itemBytes_singleton, List.map_singleton, List.sum_singleton]
          rfl
      | cons w items =>
          rw [itemBytes_cons, List.map_cons, List.sum_cons, byteLength]
          simp only [List.length_append, List.length_cons, ih]
          omega

theorem length_fieldBytes (fields : Fields) :
    (fieldBytes fields).length = (fields.map fieldLength).sum + (fields.length - 1) := by
  induction fields with
  | nil => rfl
  | cons f fields ih =>
      obtain ⟨key, v⟩ := f
      cases fields with
      | nil =>
          rw [fieldBytes_singleton, List.map_singleton, List.sum_singleton, fieldLength, byteLength]
          simp only [List.length_append, List.length_cons, List.length_nil]
          omega
      | cons g fields =>
          rw [fieldBytes_cons, List.map_cons, List.sum_cons, fieldLength, byteLength]
          simp only [List.length_append, List.length_cons, ih]
          omega

theorem byteLength_array (items : List Json) :
    (array items).byteLength = (items.map byteLength).sum + (items.length - 1) + 2 := by
  rw [byteLength, bytes_array, ← length_itemBytes]
  simp

theorem byteLength_object (fields : Fields) :
    (object fields).byteLength = (fields.map fieldLength).sum + (fields.length - 1) + 2 := by
  rw [byteLength, bytes_object, ← length_fieldBytes]
  simp

/-- The order of the fields does not matter. -/
theorem byteLength_object_of_perm {fields others : Fields} (same : fields.Perm others) :
    (object fields).byteLength = (object others).byteLength := by
  rw [byteLength_object, byteLength_object, (same.map fieldLength).sum_eq, same.length_eq]

/-! ### Sorted values -/

/-- No object in a value has a key twice. -/
inductive Unambiguous : Json → Prop where
  | null : Unambiguous .null
  | bool (b : Bool) : Unambiguous (.bool b)
  | number (n : Number) : Unambiguous (.number n)
  | string (s : String) : Unambiguous (.string s)
  | array {items : List Json} (each : ∀ v ∈ items, Unambiguous v) : Unambiguous (.array items)
  | object {fields : Fields} (distinct : (fields.map Prod.fst).Nodup)
      (each : ∀ f ∈ fields, Unambiguous f.2) : Unambiguous (.object fields)

theorem Ordered.unambiguous {v : Json} (ordered : Ordered v) : Unambiguous v := by
  induction ordered with
  | null => exact .null
  | bool b => exact .bool b
  | number n => exact .number n
  | string s => exact .string s
  | array each ih => exact .array ih
  | object keys each ih => exact .object (Ordered.object keys each).distinct ih

/-- A value takes as many bytes with its fields in order as without. -/
theorem byteLength_sorted {v : Json} (unambiguous : Unambiguous v) :
    v.sorted.byteLength = v.byteLength := by
  induction unambiguous with
  | null => rfl
  | bool b => rfl
  | number n => rfl
  | string s => rfl
  | @array items each ih =>
      have lengths : (items.map sorted).map byteLength = items.map byteLength := by
        rw [List.map_map]
        exact List.map_congr_left ih
      rw [sorted, sortedItems_eq_map, byteLength_array, byteLength_array, lengths, List.length_map]
  | @object fields distinct each ih =>
      let inner := fields.map fun f => (f.1, f.2.sorted)
      have keys : inner.map Prod.fst = fields.map Prod.fst := by
        rw [List.map_map]
        rfl
      have lengths : inner.map fieldLength = fields.map fieldLength := by
        rw [List.map_map]
        exact List.map_congr_left fun f member => congrArg (_ + ·) (ih f member)
      have moved : (Fields.ofList inner).Perm inner := Fields.ofList_perm (keys ▸ distinct)
      rw [sorted, sortedFields_eq_map, byteLength_object_of_perm moved, byteLength_object,
        byteLength_object, lengths, List.length_map]

end Json

end RpcLink
