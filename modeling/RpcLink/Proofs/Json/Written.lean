import RpcLink.Proofs.Json.Numbers

/-!
What is written of a value whose numbers are integers: the text of an array or object is made of the
texts of its parts, and there is no control in it, a line feed among them.
-/

namespace RpcLink.Json

open Text

/-- All numbers in a value are integers. -/
inductive Integral : Json → Prop where
  | null : Integral .null
  | bool (b : Bool) : Integral (.bool b)
  | integer (i : Int) (word : InWord i) : Integral (.number (.integer i word))
  | string (s : String) : Integral (.string s)
  | array {items : List Json} (each : ∀ v ∈ items, Integral v) : Integral (.array items)
  | object {fields : List (String × Json)} (each : ∀ f ∈ fields, Integral f.2) :
      Integral (.object fields)

/-! ### Parts of a text -/

/-- The bytes of items with commas between them. -/
def itemBytes (items : List Json) : List UInt8 := Utf8.encode (chars.itemChars items)

/-- The bytes of fields with commas between them. -/
def fieldBytes (fields : List (String × Json)) : List UInt8 := Utf8.encode (chars.fieldChars fields)

theorem bytes_string (s : String) : (string s).bytes = 0x22 :: (escaped s ++ [0x22]) :=
  encode_stringChars s

theorem bytes_array (items : List Json) :
    (array items).bytes = 0x5B :: (itemBytes items ++ [0x5D]) := by
  unfold bytes chars
  rw [Utf8.encode_append]
  rfl

theorem bytes_object (fields : List (String × Json)) :
    (object fields).bytes = 0x7B :: (fieldBytes fields ++ [0x7D]) := by
  unfold bytes chars
  rw [Utf8.encode_append]
  rfl

theorem itemBytes_singleton (v : Json) : itemBytes [v] = v.bytes := rfl

theorem itemBytes_cons (v w : Json) (items : List Json) :
    itemBytes (v :: w :: items) = v.bytes ++ 0x2C :: itemBytes (w :: items) := by
  unfold itemBytes
  rw [chars.itemChars, Utf8.encode_append]
  · rfl
  · simp

theorem fieldBytes_singleton (key : String) (v : Json) :
    fieldBytes [(key, v)] = 0x22 :: (escaped key ++ 0x22 :: 0x3A :: v.bytes) := by
  unfold fieldBytes
  rw [chars.fieldChars, Utf8.encode_append, encode_stringChars, Utf8.encode_cons]
  simp [bytes, String.utf8EncodeChar]

theorem fieldBytes_cons (key : String) (v : Json) (f : String × Json)
    (fields : List (String × Json)) :
    fieldBytes ((key, v) :: f :: fields) =
      0x22 :: (escaped key ++ 0x22 :: 0x3A :: (v.bytes ++ 0x2C :: fieldBytes (f :: fields))) := by
  unfold fieldBytes
  rw [chars.fieldChars, Utf8.encode_append, Utf8.encode_append, encode_stringChars,
    Utf8.encode_cons, Utf8.encode_cons]
  · simp [bytes, String.utf8EncodeChar]
  · simp

theorem length_le_of_mem_items {vs : List Json} {v : Json} (member : v ∈ vs) :
    v.bytes.length ≤ (itemBytes vs).length := by
  induction vs with
  | nil => cases member
  | cons w vs ih =>
      cases vs with
      | nil =>
          obtain rfl := List.mem_singleton.mp member
          exact Nat.le_refl _
      | cons u vs =>
          rw [itemBytes_cons, List.length_append, List.length_cons]
          rcases List.mem_cons.mp member with rfl | later
          · exact Nat.le_add_right _ _
          · have := ih later
            omega

theorem length_le_of_mem_fields {fs : List (String × Json)} {f : String × Json}
    (member : f ∈ fs) : f.2.bytes.length ≤ (fieldBytes fs).length := by
  induction fs with
  | nil => cases member
  | cons g fs ih =>
      obtain ⟨key, v⟩ := g
      cases fs with
      | nil =>
          obtain rfl := List.mem_singleton.mp member
          rw [fieldBytes_singleton]
          simp only [List.length_cons, List.length_append]
          omega
      | cons g fs =>
          rw [fieldBytes_cons]
          simp only [List.length_cons, List.length_append] at ih ⊢
          rcases List.mem_cons.mp member with rfl | later
          · dsimp only
            omega
          · have := ih later
            omega

theorem length_le_itemBytes (vs : List Json) : vs.length ≤ (itemBytes vs).length + 1 := by
  induction vs with
  | nil => exact Nat.zero_le _
  | cons v vs ih =>
      cases vs with
      | nil => exact Nat.le_add_left _ _
      | cons w vs =>
          rw [itemBytes_cons]
          simp only [List.length_cons, List.length_append] at ih ⊢
          omega

theorem length_le_fieldBytes (fs : List (String × Json)) :
    fs.length ≤ (fieldBytes fs).length := by
  induction fs with
  | nil => exact Nat.zero_le _
  | cons f fs ih =>
      obtain ⟨key, v⟩ := f
      cases fs with
      | nil =>
          rw [fieldBytes_singleton]
          simp
      | cons g fs =>
          rw [fieldBytes_cons]
          simp only [List.length_cons, List.length_append] at ih ⊢
          omega

/-! ### No controls -/

/-- No byte is a control. -/
def Visible (bytes : List UInt8) : Prop := ∀ b ∈ bytes, 0x20 ≤ b.toNat

theorem visible_nil : Visible [] := fun _ member => absurd member List.not_mem_nil

theorem visible_cons {b : UInt8} {bytes : List UInt8} :
    Visible (b :: bytes) ↔ 0x20 ≤ b.toNat ∧ Visible bytes := List.forall_mem_cons

theorem visible_append {bytes more : List UInt8} :
    Visible (bytes ++ more) ↔ Visible bytes ∧ Visible more := List.forall_mem_append

theorem visible_escaped (s : String) : Visible (escaped s) :=
  fun _ member => Read.visible_of_mem_escaped member

theorem visible_digits (n : Nat) : Visible (digits n) := by
  intro b member
  obtain ⟨c, isChar, written⟩ := List.mem_flatMap.mp member
  obtain ⟨d, single, digit, -⟩ :=
    encodeChar_of_isDigit (Nat.isDigit_of_mem_toDigits (by decide) (by decide) isChar)
  rw [single, List.mem_singleton] at written
  rw [written]
  simp only [Read.isDigit, Bool.and_eq_true, decide_eq_true_eq] at digit
  exact Nat.le_trans (by decide) digit.1

theorem visible_itemBytes {vs : List Json} (each : ∀ v ∈ vs, Visible v.bytes) :
    Visible (itemBytes vs) := by
  induction vs with
  | nil => exact visible_nil
  | cons v vs ih =>
      have first := each v List.mem_cons_self
      have later := ih fun w member => each w (List.mem_cons_of_mem _ member)
      cases vs with
      | nil => exact first
      | cons w vs =>
          rw [itemBytes_cons]
          exact visible_append.mpr ⟨first, visible_cons.mpr ⟨by decide, later⟩⟩

theorem visible_fieldBytes {fs : List (String × Json)} (each : ∀ f ∈ fs, Visible f.2.bytes) :
    Visible (fieldBytes fs) := by
  induction fs with
  | nil => exact visible_nil
  | cons f fs ih =>
      have first := each f List.mem_cons_self
      have later := ih fun g member => each g (List.mem_cons_of_mem _ member)
      obtain ⟨key, v⟩ := f
      have quoted := visible_escaped key
      cases fs with
      | nil =>
          rw [fieldBytes_singleton]
          simp only [visible_cons, visible_append]
          exact ⟨by decide, quoted, by decide, by decide, first⟩
      | cons g fs =>
          rw [fieldBytes_cons]
          simp only [visible_cons, visible_append]
          exact ⟨by decide, quoted, by decide, by decide, first, by decide, later⟩

theorem visible_between {bytes : List UInt8} (h : Visible bytes) {first last : UInt8}
    (left : 0x20 ≤ first.toNat) (right : 0x20 ≤ last.toNat) :
    Visible (first :: (bytes ++ [last])) :=
  visible_cons.mpr ⟨left, visible_append.mpr ⟨h, List.forall_mem_singleton.mpr right⟩⟩

/-- The text of a value is one line. -/
theorem visible_bytes {v : Json} (integral : Integral v) : Visible v.bytes := by
  induction integral with
  | null =>
      have word : null.bytes = [0x6E, 0x75, 0x6C, 0x6C] := rfl
      simp [word, visible_cons, visible_nil]
  | bool b =>
      have yes : (bool true).bytes = [0x74, 0x72, 0x75, 0x65] := rfl
      have no : (bool false).bytes = [0x66, 0x61, 0x6C, 0x73, 0x65] := rfl
      cases b with
      | true => simp [yes, visible_cons, visible_nil]
      | false => simp [no, visible_cons, visible_nil]
  | integer i word =>
      rw [bytes_integer]
      split
      · exact visible_digits _
      · exact visible_cons.mpr ⟨by decide, visible_digits _⟩
  | string s =>
      rw [bytes_string]
      exact visible_between (visible_escaped s) (by decide) (by decide)
  | array each ih =>
      rw [bytes_array]
      exact visible_between (visible_itemBytes ih) (by decide) (by decide)
  | object each ih =>
      rw [bytes_object]
      exact visible_between (visible_fieldBytes ih) (by decide) (by decide)

end RpcLink.Json
