import RpcLink.Proofs.Json.Sorting
import RpcLink.Proofs.Json.Written

/-!
Values that were written are read back, with the fields of their objects in order of their keys. The
proof is by induction on a value whose numbers are integers: what is read of its text depends on
nothing behind it, except that digits must not go on.
-/

namespace RpcLink.Json

/-! ### Depth -/

theorem depth_le_of_mem_items {items : List Json} {v : Json} (member : v ∈ items) :
    v.depth ≤ depth.depthItems items := by
  induction items with
  | nil => cases member
  | cons w items ih =>
      rw [depth.depthItems]
      rcases List.mem_cons.mp member with rfl | later
      · exact Nat.le_max_left _ _
      · exact Nat.le_trans (ih later) (Nat.le_max_right _ _)

theorem depthFields_eq (fields : List (String × Json)) :
    depth.depthFields fields = depth.depthItems (fields.map (·.2)) := by
  induction fields with
  | nil => rfl
  | cons f fields ih => rw [depth.depthFields, List.map_cons, depth.depthItems, ih]

theorem depth_le_of_mem_fields {fields : List (String × Json)} {f : String × Json}
    (member : f ∈ fields) : f.2.depth ≤ depth.depthFields fields := by
  rw [depthFields_eq]
  exact depth_le_of_mem_items (List.mem_map_of_mem member)

/-! ### Single values -/

namespace Read

theorem skipSpaces_cons {b : UInt8} (visible : isSpace b = false) (rest : List UInt8) :
    skipSpaces (b :: rest) = b :: rest :=
  List.dropWhile_cons_of_neg (by simp [visible])

theorem isSpace_of_isDigit {b : UInt8} (digit : isDigit b = true) : isSpace b = false := by
  simp only [isDigit, isSpace, Bool.and_eq_true, decide_eq_true_eq, Bool.or_eq_false_iff,
    beq_eq_false_iff_ne, ne_eq, ← UInt8.toNat_inj, UInt8.le_iff_toNat_le] at digit ⊢
  have : (0x30 : UInt8).toNat = 0x30 := rfl
  have : (0x20 : UInt8).toNat = 0x20 := rfl
  have : (0x0A : UInt8).toNat = 0x0A := rfl
  have : (0x09 : UInt8).toNat = 0x09 := rfl
  have : (0x0D : UInt8).toNat = 0x0D := rfl
  omega

section

variable {bracketed : Item} {rest : List UInt8}

theorem valueWith_digits {b : UInt8} (digit : isDigit b = true) :
    valueWith bracketed (b :: rest) =
      (number false (b :: rest)).map fun read => (.number read.1, read.2) := by
  have other : ∀ k, isDigit k = false → b ≠ k := by
    rintro k noDigit rfl
    rw [digit] at noDigit
    cases noDigit
  unfold valueWith
  rw [skipSpaces_cons (isSpace_of_isDigit digit)]
  dsimp only
  rw [if_neg (other 0x6E rfl), if_neg (other 0x74 rfl), if_neg (other 0x66 rfl),
    if_neg (other 0x2D rfl), if_pos digit]
  cases number false (b :: rest) <;> rfl

theorem valueWith_minus :
    valueWith bracketed (0x2D :: rest) =
      (number true rest).map fun read => (.number read.1, read.2) := by
  show (number true rest >>= fun read => .ok (Json.number read.1, read.2)) = _
  cases number true rest <;> rfl

theorem valueWith_integer (i : Int) (word : InWord i) (ends : EndsNumber rest) :
    valueWith bracketed ((Json.number (.integer i word)).bytes ++ rest) =
      .ok (.number (.integer i word), rest) := by
  have read := integer_bytes i word ends
  rw [bytes_integer]
  split at read
  · rename_i nonneg
    obtain ⟨b, bs, shape, digit⟩ := digits_eq_cons i.toNat
    rw [if_pos nonneg]
    rw [shape, List.cons_append] at read ⊢
    rw [valueWith_digits digit, read]
    rfl
  · rename_i negative
    rw [if_neg negative, List.cons_append, valueWith_minus, read]
    rfl

theorem valueWith_string (s : String) :
    valueWith bracketed ((Json.string s).bytes ++ rest) = .ok (.string s, rest) := by
  rw [bytes_string, List.cons_append, List.append_assoc]
  show (string (escaped s ++ 0x22 :: rest) >>= fun read => .ok (Json.string read.1, read.2)) = _
  rw [string_escaped]
  rfl

end

theorem value_array (rounds nesting : Nat) (bytes : List UInt8) :
    value rounds (nesting + 1) (0x5B :: bytes) = array (value rounds nesting) rounds bytes := rfl

theorem value_object (rounds nesting : Nat) (bytes : List UInt8) :
    value rounds (nesting + 1) (0x7B :: bytes) = object (value rounds nesting) rounds bytes := rfl

theorem value_eq_valueWith (rounds nesting : Nat) :
    ∃ bracketed, value rounds nesting = valueWith bracketed := by
  cases nesting with
  | zero => exact ⟨_, rfl⟩
  | succ nesting => exact ⟨_, rfl⟩

/-! ### Arrays and objects -/

/-- A value is read back, whatever stands behind it. -/
def Reads (item : Item) (v : Json) : Prop :=
  ∀ ⦃rest⦄, EndsNumber rest → item (v.bytes ++ rest) = .ok (v.sorted, rest)

/-- A text begins with a byte that is no space and ends no array. -/
def Starts (bytes : List UInt8) : Prop :=
  ∃ b bs, bytes = b :: bs ∧ isSpace b = false ∧ b ≠ 0x5D

theorem Starts.append {bytes : List UInt8} (h : Starts bytes) (more : List UInt8) :
    Starts (bytes ++ more) := by
  obtain ⟨b, bs, rfl, visible, other⟩ := h
  exact ⟨b, bs ++ more, rfl, visible, other⟩

theorem starts_bytes {v : Json} (integral : Integral v) : Starts v.bytes := by
  cases integral with
  | null => exact ⟨0x6E, _, rfl, rfl, by decide⟩
  | bool b =>
      cases b with
      | true => exact ⟨0x74, _, rfl, rfl, by decide⟩
      | false => exact ⟨0x66, _, rfl, rfl, by decide⟩
  | integer i word =>
      rw [bytes_integer]
      split
      · obtain ⟨b, bs, shape, digit⟩ := digits_eq_cons i.toNat
        refine ⟨b, bs, shape, isSpace_of_isDigit digit, ?_⟩
        rintro rfl
        cases digit
      · exact ⟨0x2D, _, rfl, rfl, by decide⟩
  | string s => exact ⟨0x22, _, bytes_string s, rfl, by decide⟩
  | array each => exact ⟨0x5B, _, bytes_array _, rfl, by decide⟩
  | object each => exact ⟨0x7B, _, bytes_object _, rfl, by decide⟩

theorem starts_itemBytes {v : Json} (starts : Starts v.bytes) (vs : List Json) :
    Starts (itemBytes (v :: vs)) := by
  cases vs with
  | nil => exact starts
  | cons w vs =>
      rw [itemBytes_cons]
      exact starts.append _

theorem items_itemBytes {item : Item} {v : Json} {vs : List Json}
    (each : ∀ w ∈ v :: vs, Reads item w) (starts : ∀ w ∈ vs, Starts w.bytes) {rounds : Nat}
    (enough : vs.length < rounds) (behind : List Json) (rest : List UInt8) :
    items item rounds behind (itemBytes (v :: vs) ++ 0x5D :: rest) =
      .ok (behind.reverse ++ (v :: vs).map sorted, rest) := by
  obtain ⟨rounds, rfl⟩ := Nat.exists_eq_succ_of_ne_zero (Nat.ne_zero_of_lt enough)
  induction vs generalizing v rounds behind with
  | nil =>
      have read : item (v.bytes ++ 0x5D :: rest) = .ok (v.sorted, 0x5D :: rest) :=
        each v List.mem_cons_self ⟨rfl, by decide, by decide, by decide⟩
      rw [itemBytes_singleton, items.eq_def]
      simp only [read, bind, Except.bind]
      rw [skipSpaces_cons rfl]
      simp
  | cons w vs ih =>
      have read : item (v.bytes ++ 0x2C :: (itemBytes (w :: vs) ++ 0x5D :: rest)) =
          .ok (v.sorted, 0x2C :: (itemBytes (w :: vs) ++ 0x5D :: rest)) :=
        each v List.mem_cons_self ⟨rfl, by decide, by decide, by decide⟩
      obtain ⟨c, more, shape, visible, noEnd⟩ :=
        (starts_itemBytes (starts w List.mem_cons_self) vs).append (0x5D :: rest)
      have shorter : vs.length < rounds := Nat.lt_of_succ_lt_succ enough
      obtain ⟨rounds, rfl⟩ := Nat.exists_eq_succ_of_ne_zero (Nat.ne_zero_of_lt shorter)
      have later := ih (fun u member => each u (List.mem_cons_of_mem _ member))
        (fun u member => starts u (List.mem_cons_of_mem _ member)) (v.sorted :: behind) rounds
        shorter
      rw [itemBytes_cons, List.append_assoc, List.cons_append, items.eq_def]
      simp only [read, bind, Except.bind]
      rw [skipSpaces_cons rfl, shape]
      rw [shape] at later
      dsimp only
      rw [if_neg (by decide), if_pos rfl, skipSpaces_cons visible]
      dsimp only
      rw [if_neg noEnd, later]
      simp

theorem array_itemBytes {item : Item} {vs : List Json} (each : ∀ v ∈ vs, Reads item v)
    (starts : ∀ v ∈ vs, Starts v.bytes) {rounds : Nat} (enough : vs.length ≤ rounds)
    (rest : List UInt8) :
    array item rounds (itemBytes vs ++ 0x5D :: rest) = .ok ((Json.array vs).sorted, rest) := by
  rw [sorted, sortedItems_eq_map]
  cases vs with
  | nil => rfl
  | cons v vs =>
      obtain ⟨b, bs, shape, visible, noEnd⟩ :=
        (starts_itemBytes (starts v List.mem_cons_self) vs).append (0x5D :: rest)
      have read := items_itemBytes each (fun w member => starts w (List.mem_cons_of_mem _ member))
        enough [] rest
      unfold array
      rw [shape] at read ⊢
      rw [skipSpaces_cons visible]
      dsimp only
      rw [if_neg noEnd, read]
      rfl

theorem field_escaped {item : Item} {v : Json} (reads : Reads item v) (key : String)
    {rest : List UInt8} (ends : EndsNumber rest) :
    field item (escaped key ++ 0x22 :: 0x3A :: (v.bytes ++ rest)) =
      .ok ((key, v.sorted), rest) := by
  unfold field
  rw [string_escaped]
  simp only [bind, Except.bind]
  rw [skipSpaces_cons rfl]
  dsimp only
  rw [if_pos rfl, reads ends]

/-- Fields are read from after the first quote on, and each is put into its place. -/
theorem fields_fieldBytes {item : Item} {f : String × Json} {fs : List (String × Json)}
    (each : ∀ g ∈ f :: fs, Reads item g.2) {rounds : Nat} (enough : fs.length < rounds)
    (behind : Fields) (rest : List UInt8) :
    ∃ bytes, fieldBytes (f :: fs) = 0x22 :: bytes ∧
      fields item rounds behind (bytes ++ 0x7D :: rest) =
        .ok ((f :: fs).foldl (fun placed g => Fields.insert g.1 g.2.sorted placed) behind,
          rest) := by
  obtain ⟨rounds, rfl⟩ := Nat.exists_eq_succ_of_ne_zero (Nat.ne_zero_of_lt enough)
  obtain ⟨key, v⟩ := f
  induction fs generalizing key v rounds behind with
  | nil =>
      have ends : EndsNumber (0x7D :: rest) := ⟨rfl, by decide, by decide, by decide⟩
      have read := field_escaped (each _ List.mem_cons_self) key ends
      refine ⟨_, fieldBytes_singleton key v, ?_⟩
      rw [List.append_assoc, List.cons_append, List.cons_append, fields.eq_def]
      simp only [read, bind, Except.bind]
      rw [skipSpaces_cons rfl]
      rfl
  | cons g fs ih =>
      have shorter : fs.length < rounds := Nat.lt_of_succ_lt_succ enough
      obtain ⟨rounds, rfl⟩ := Nat.exists_eq_succ_of_ne_zero (Nat.ne_zero_of_lt shorter)
      obtain ⟨bytes, shape, later⟩ := ih (Fields.insert key v.sorted behind) rounds shorter g.1 g.2
        (fun h member => each h (List.mem_cons_of_mem _ member))
      have ends : EndsNumber (0x2C :: 0x22 :: (bytes ++ 0x7D :: rest)) :=
        ⟨rfl, by decide, by decide, by decide⟩
      have read := field_escaped (each _ List.mem_cons_self) key ends
      refine ⟨_, fieldBytes_cons key v g fs, ?_⟩
      rw [shape, List.append_assoc, List.cons_append, List.cons_append, List.append_assoc,
        List.cons_append, List.cons_append, fields.eq_def]
      simp only [read, bind, Except.bind]
      rw [skipSpaces_cons rfl]
      dsimp only
      rw [if_neg (by decide), if_pos rfl, skipSpaces_cons rfl]
      dsimp only
      rw [if_pos rfl, later]
      rfl

theorem object_fieldBytes {item : Item} {fs : List (String × Json)}
    (each : ∀ f ∈ fs, Reads item f.2) {rounds : Nat} (enough : fs.length ≤ rounds)
    (rest : List UInt8) :
    object item rounds (fieldBytes fs ++ 0x7D :: rest) = .ok ((Json.object fs).sorted, rest) := by
  rw [sorted, Fields.ofList, sortedFields_eq_map, List.foldl_map]
  cases fs with
  | nil => rfl
  | cons f fs =>
      obtain ⟨bytes, shape, read⟩ := fields_fieldBytes each enough [] rest
      unfold object
      rw [shape, List.cons_append, skipSpaces_cons rfl]
      dsimp only
      rw [if_neg (by decide), if_pos rfl, read]
      rfl

/-- A value is read back, if it nests no deeper than is allowed and there are enough rounds. -/
theorem reads_value {v : Json} (integral : Integral v) {rounds nesting : Nat}
    (shallow : v.depth ≤ nesting) (enough : v.bytes.length ≤ rounds) :
    Reads (value rounds nesting) v := by
  induction integral generalizing nesting with
  | null =>
      intro rest _
      obtain ⟨bracketed, shape⟩ := value_eq_valueWith rounds nesting
      rw [shape]
      rfl
  | bool b =>
      intro rest _
      obtain ⟨bracketed, shape⟩ := value_eq_valueWith rounds nesting
      rw [shape]
      cases b <;> rfl
  | integer i word =>
      intro rest ends
      obtain ⟨bracketed, shape⟩ := value_eq_valueWith rounds nesting
      rw [shape]
      exact valueWith_integer i word ends
  | string s =>
      intro rest _
      obtain ⟨bracketed, shape⟩ := value_eq_valueWith rounds nesting
      rw [shape]
      exact valueWith_string s
  | @array vs each ih =>
      rw [depth] at shallow
      obtain ⟨nesting, rfl⟩ := Nat.exists_eq_succ_of_ne_zero (Nat.ne_zero_of_lt shallow)
      rw [bytes_array] at enough
      simp only [List.length_cons, List.length_append] at enough
      have reads : ∀ v ∈ vs, Reads (value rounds nesting) v := by
        intro v member
        have := length_le_of_mem_items member
        exact ih v member
          (Nat.le_trans (depth_le_of_mem_items member) (Nat.le_of_succ_le_succ shallow))
          (by omega)
      intro rest _
      have few := length_le_itemBytes vs
      rw [bytes_array, List.cons_append, List.append_assoc, value_array]
      exact array_itemBytes reads (fun v member => starts_bytes (each v member)) (by omega) rest
  | @object fs each ih =>
      rw [depth] at shallow
      obtain ⟨nesting, rfl⟩ := Nat.exists_eq_succ_of_ne_zero (Nat.ne_zero_of_lt shallow)
      rw [bytes_object] at enough
      simp only [List.length_cons, List.length_append] at enough
      have reads : ∀ f ∈ fs, Reads (value rounds nesting) f.2 := by
        intro f member
        have := length_le_of_mem_fields member
        exact ih f member
          (Nat.le_trans (depth_le_of_mem_fields member) (Nat.le_of_succ_le_succ shallow))
          (by omega)
      intro rest _
      have few := length_le_fieldBytes fs
      rw [bytes_object, List.cons_append, List.append_assoc, value_object]
      exact object_fieldBytes reads (by omega) rest

/-- A text that was written is read as a whole, with the fields of its objects in order. -/
theorem whole_bytes {v : Json} (integral : Integral v) (shallow : v.depth ≤ maxNesting) :
    whole v.bytes = .ok v.sorted := by
  have ends : EndsNumber [] := trivial
  have read := reads_value integral shallow (Nat.le_succ v.bytes.length) ends
  rw [List.append_nil] at read
  unfold whole
  rw [read]
  rfl

end Read

theorem parseBytes_bytes {v : Json} (integral : Integral v) (shallow : v.depth ≤ Read.maxNesting) :
    parseBytes v.bytes = .ok v.sorted := by
  unfold parseBytes
  rw [Read.whole_bytes integral shallow]
  rfl

end RpcLink.Json
