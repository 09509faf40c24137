import Mathlib.Algebra.Ring.Nat
import RpcLink.Text.Utf8

/-!
Bytes decode to characters if and only if they are what the characters are encoded as. A sequence
that a reader is inside of is described by the values that it may still end with: they agree with
what was read, and the next byte is within its bounds.
-/

namespace RpcLink.Text.Utf8

/-- The last bytes of a value's sequence. -/
def trail (v : Nat) : (left : Nat) → List UInt8
  | 0 => []
  | left + 1 => UInt8.ofNat (0x80 + v / 64 ^ left % 64) :: trail v left

/-- A sequence of which one byte and `left` more are missing may end with the value `v`. -/
structure MayEnd (left : Nat) (low high : UInt8) (value v : Nat) : Prop where
  value_eq : v / 64 ^ (left + 1) = value
  low_le : low.toNat ≤ 0x80 + v / 64 ^ left % 64
  le_high : 0x80 + v / 64 ^ left % 64 ≤ high.toNat

/-- The bytes `part` begin the sequence of each value that it may end with. -/
structure Begun (left : Nat) (low high : UInt8) (value : Nat) (part : List UInt8) : Prop where
  low_ge : 0x80 ≤ low.toNat
  high_le : high.toNat ≤ 0xBF
  encode_eq : ∀ v, MayEnd left low high value v →
    String.utf8EncodeChar (Char.ofNat v) = part ++ trail v (left + 1)

/-- What the first byte of a sequence leads to, behind the pieces. -/
inductive Begins (pieces : List Piece) (b : UInt8) : Scan → Prop where
  | whole (encode_eq : String.utf8EncodeChar (Char.ofNat b.toNat) = [b]) :
      Begins pieces b ⟨.between, .char (Char.ofNat b.toNat) :: pieces⟩
  | broken : Begins pieces b ⟨.between, .broken 1 :: pieces⟩
  | part {left : Nat} {low high : UInt8} {value : Nat} (begun : Begun left low high value [b]) :
      Begins pieces b ⟨.inside (left + 1) low high value 1, pieces⟩

/-- What was read are the characters of the pieces and the sequence that is begun. -/
def Scan.Reads (s : Scan) (bytes : List UInt8) : Prop :=
  ∀ cs : List Char, s.pieces = cs.map .char →
    match s.place with
    | .between => bytes = encode cs.reverse
    | .inside left low high value _ =>
      ∃ part, bytes = encode cs.reverse ++ part ∧ Begun (left - 1) low high value part

/-! ### Values and their sequences -/

section Sequences

variable {left value v : Nat} {low high b : UInt8} {part : List UInt8}

theorem toNat_ofNat (h : v.isValidChar) : (Char.ofNat v).val.toNat = v := by
  unfold Char.ofNat
  rw [dif_pos h]
  rfl

/-- A byte inside a sequence tells six bits of its value. -/
theorem div_eq_iff (above : 0x80 ≤ b.toNat) (below : b.toNat ≤ 0xBF) :
    v / 64 ^ left = value * 64 + (b.toNat - 0x80) ↔
      v / 64 ^ (left + 1) = value ∧ 0x80 + v / 64 ^ left % 64 = b.toNat := by
  rw [Nat.pow_succ, ← Nat.div_div_eq_div_mul]
  omega

/-- A byte within the bounds of a sequence is one of the bytes of each value that agrees with it. -/
theorem Begun.encode_next (h : Begun left low high value part) (above : low ≤ b) (below : b ≤ high)
    (ends : v / 64 ^ left = value * 64 + (b.toNat - 0x80)) :
    String.utf8EncodeChar (Char.ofNat v) = part ++ [b] ++ trail v left := by
  have above' := Nat.le_trans h.low_ge above
  have below' := Nat.le_trans below h.high_le
  obtain ⟨value_eq, byte_eq⟩ := (div_eq_iff above' below').mp ends
  have whole := h.encode_eq v ⟨value_eq, byte_eq ▸ above, byte_eq ▸ below⟩
  rw [trail, byte_eq, UInt8.ofNat_toNat] at whole
  rw [whole, List.append_assoc, List.singleton_append]

/-- The sequence goes on. -/
theorem Begun.next (h : Begun (left + 1) low high value part) (above : low ≤ b) (below : b ≤ high) :
    Begun left 0x80 0xBF (value * 64 + (b.toNat - 0x80)) (part ++ [b]) where
  low_ge := by decide
  high_le := by decide
  encode_eq := fun _ ends => h.encode_next above below ends.value_eq

/-- The sequence ends. -/
theorem Begun.last (h : Begun 0 low high value part) (above : low ≤ b) (below : b ≤ high) :
    String.utf8EncodeChar (Char.ofNat (value * 64 + (b.toNat - 0x80))) = part ++ [b] := by
  rw [h.encode_next above below (Nat.div_one _), trail, List.append_nil]

/-- The first byte of a sequence of two. -/
theorem begun_two (above : 0xC2 ≤ b.toNat) (below : b.toNat < 0xE0) :
    Begun 0 0x80 0xBF (b.toNat - 0xC0) [b] where
  low_ge := by decide
  high_le := by decide
  encode_eq := by
    rintro v ⟨value_eq, -, -⟩
    have valid : v.isValidChar := .inl (by omega)
    have lead : v / 64 % 0x20 + 0xC0 = b.toNat := by omega
    have notOne : ¬ v ≤ 0x7F := by omega
    have two : v ≤ 0x7FF := by omega
    simp only [String.utf8EncodeChar, toNat_ofNat valid, if_neg notOne, if_pos two, lead,
      UInt8.ofNat_toNat, trail]
    simp [Nat.add_comm]

/-- The first byte of a sequence of three; its second byte excludes shorter sequences and
surrogates. -/
theorem begun_three (above : 0xE0 ≤ b.toNat) (below : b.toNat < 0xF0) :
    Begun 1 (if b.toNat = 0xE0 then 0xA0 else 0x80) (if b.toNat = 0xED then 0x9F else 0xBF)
      (b.toNat - 0xE0) [b] where
  low_ge := by split <;> decide
  high_le := by split <;> decide
  encode_eq := by
    rintro v ⟨value_eq, low_le, le_high⟩
    have notShort : b.toNat = 0xE0 → 0xA0 ≤ 0x80 + v / 64 % 64 := by
      intro first
      simpa [first] using low_le
    have noSurrogate : b.toNat = 0xED → 0x80 + v / 64 % 64 ≤ 0x9F := by
      intro first
      simpa [first] using le_high
    have valid : v.isValidChar := by
      unfold Nat.isValidChar
      omega
    have lead : v / 4096 % 0x10 + 0xE0 = b.toNat := by omega
    have notOne : ¬ v ≤ 0x7F := by omega
    have notTwo : ¬ v ≤ 0x7FF := by omega
    have three : v ≤ 0xFFFF := by omega
    simp only [String.utf8EncodeChar, toNat_ofNat valid, if_neg notOne, if_neg notTwo,
      if_pos three, lead, UInt8.ofNat_toNat, trail]
    simp [Nat.add_comm]

/-- The first byte of a sequence of four; its second byte excludes shorter sequences and values
over the last one. -/
theorem begun_four (above : 0xF0 ≤ b.toNat) (below : b.toNat < 0xF5) :
    Begun 2 (if b.toNat = 0xF0 then 0x90 else 0x80) (if b.toNat = 0xF4 then 0x8F else 0xBF)
      (b.toNat - 0xF0) [b] where
  low_ge := by split <;> decide
  high_le := by split <;> decide
  encode_eq := by
    rintro v ⟨value_eq, low_le, le_high⟩
    have notShort : b.toNat = 0xF0 → 0x90 ≤ 0x80 + v / 4096 % 64 := by
      intro first
      simpa [first] using low_le
    have notOver : b.toNat = 0xF4 → 0x80 + v / 4096 % 64 ≤ 0x8F := by
      intro first
      simpa [first] using le_high
    have valid : v.isValidChar := by
      unfold Nat.isValidChar
      omega
    have lead : v / 262144 % 0x08 + 0xF0 = b.toNat := by omega
    have notOne : ¬ v ≤ 0x7F := by omega
    have notTwo : ¬ v ≤ 0x7FF := by omega
    have notThree : ¬ v ≤ 0xFFFF := by omega
    simp only [String.utf8EncodeChar, toNat_ofNat valid, if_neg notOne, if_neg notTwo,
      if_neg notThree, lead, UInt8.ofNat_toNat, trail]
    simp [Nat.add_comm]

end Sequences

/-! ### Bytes that decode are those of the characters -/

section Reads

variable {s : Scan} {pieces : List Piece} {bytes : List UInt8} {b : UInt8}

theorem begin_one (below : b.toNat < 0x80) :
    Scan.begin pieces b = ⟨.between, .char (Char.ofNat b.toNat) :: pieces⟩ := by
  unfold Scan.begin
  dsimp only
  rw [if_pos below]

theorem begin_two (above : 0xC2 ≤ b.toNat) (below : b.toNat < 0xE0) :
    Scan.begin pieces b = ⟨.inside 1 0x80 0xBF (b.toNat - 0xC0) 1, pieces⟩ := by
  unfold Scan.begin
  dsimp only
  rw [if_neg (by omega), if_neg (by omega), if_pos below]

theorem begin_three (above : 0xE0 ≤ b.toNat) (below : b.toNat < 0xF0) :
    Scan.begin pieces b =
      ⟨.inside 2 (if b.toNat = 0xE0 then 0xA0 else 0x80) (if b.toNat = 0xED then 0x9F else 0xBF)
        (b.toNat - 0xE0) 1, pieces⟩ := by
  unfold Scan.begin
  dsimp only
  rw [if_neg (by omega), if_neg (by omega), if_neg (by omega), if_pos below]

theorem begin_four (above : 0xF0 ≤ b.toNat) (below : b.toNat < 0xF5) :
    Scan.begin pieces b =
      ⟨.inside 3 (if b.toNat = 0xF0 then 0x90 else 0x80) (if b.toNat = 0xF4 then 0x8F else 0xBF)
        (b.toNat - 0xF0) 1, pieces⟩ := by
  unfold Scan.begin
  dsimp only
  rw [if_neg (by omega), if_neg (by omega), if_neg (by omega), if_neg (by omega), if_pos below]

theorem begin_broken (noLead : 0x80 ≤ b.toNat ∧ b.toNat < 0xC2 ∨ 0xF5 ≤ b.toNat) :
    Scan.begin pieces b = ⟨.between, .broken 1 :: pieces⟩ := by
  unfold Scan.begin
  dsimp only
  rcases noLead with ⟨above, below⟩ | above
  · rw [if_neg (by omega), if_pos below]
  · rw [if_neg (by omega), if_neg (by omega), if_neg (by omega), if_neg (by omega),
      if_neg (by omega)]

theorem encodeChar_one (below : b.toNat < 0x80) :
    String.utf8EncodeChar (Char.ofNat b.toNat) = [b] := by
  have valid : b.toNat.isValidChar := .inl (by omega)
  have short : b.toNat ≤ 0x7F := by omega
  simp only [String.utf8EncodeChar, toNat_ofNat valid, if_pos short, UInt8.ofNat_toNat]

theorem begins (pieces : List Piece) (b : UInt8) : Begins pieces b (.begin pieces b) := by
  by_cases one : b.toNat < 0x80
  · rw [begin_one one]
    exact .whole (encodeChar_one one)
  by_cases noLead : b.toNat < 0xC2
  · rw [begin_broken (.inl ⟨by omega, noLead⟩)]
    exact .broken
  by_cases two : b.toNat < 0xE0
  · rw [begin_two (by omega) two]
    exact .part (begun_two (by omega) two)
  by_cases three : b.toNat < 0xF0
  · rw [begin_three (by omega) three]
    exact .part (begun_three (by omega) three)
  by_cases four : b.toNat < 0xF5
  · rw [begin_four (by omega) four]
    exact .part (begun_four (by omega) four)
  · rw [begin_broken (.inr (by omega))]
    exact .broken

theorem char_cons_eq_map {c : Char} {cs : List Char} (h : .char c :: pieces = cs.map Piece.char) :
    ∃ rest, cs = c :: rest ∧ pieces = rest.map .char := by
  cases cs with
  | nil => cases h
  | cons first rest =>
      obtain ⟨same, rest_eq⟩ := List.cons.inj h
      exact ⟨rest, by rw [Piece.char.inj same], rest_eq⟩

theorem broken_cons_ne_map {width : Nat} {cs : List Char} :
    .broken width :: pieces ≠ cs.map Piece.char := by
  cases cs with
  | nil => simp
  | cons first rest => simp

theorem encode_reverse_cons (c : Char) (cs : List Char) :
    encode (c :: cs).reverse = encode cs.reverse ++ String.utf8EncodeChar c := by
  simp [encode]

/-- A first byte is read behind whole characters. -/
theorem Begins.reads (h : Begins pieces b s) (before : Scan.Reads ⟨.between, pieces⟩ bytes) :
    s.Reads (bytes ++ [b]) := by
  intro cs shape
  cases h with
  | whole encode_eq =>
      obtain ⟨rest, rfl, kept⟩ := char_cons_eq_map shape
      have read : bytes = encode rest.reverse := before rest kept
      rw [encode_reverse_cons, encode_eq, read]
  | broken => exact absurd shape broken_cons_ne_map
  | part begun =>
      have read : bytes = encode cs.reverse := before cs shape
      exact ⟨[b], by rw [read], begun⟩

theorem Scan.Reads.step (h : s.Reads bytes) (b : UInt8) : (s.step b).Reads (bytes ++ [b]) := by
  obtain ⟨place, pieces⟩ := s
  cases place with
  | between => exact (begins pieces b).reads h
  | inside left low high value seen =>
      unfold Scan.step
      dsimp only
      split
      · rename_i within
        obtain ⟨above, below⟩ : low ≤ b ∧ b ≤ high := by simpa using within
        split
        · rename_i one
          intro cs shape
          obtain ⟨rest, rfl, kept⟩ := char_cons_eq_map shape
          obtain ⟨part, read, begun⟩ := h rest kept
          rw [Nat.sub_eq_zero_of_le one] at begun
          rw [encode_reverse_cons, begun.last above below, read, List.append_assoc]
        · rename_i more
          intro cs shape
          obtain ⟨part, read, begun⟩ := h cs shape
          have left_eq : left - 1 = left - 1 - 1 + 1 := by omega
          rw [left_eq] at begun
          exact ⟨part ++ [b], by rw [read, List.append_assoc], begun.next above below⟩
      · exact (begins _ b).reads fun cs shape => absurd shape broken_cons_ne_map

theorem reads_foldl (h : s.Reads bytes) (more : List UInt8) :
    (more.foldl Scan.step s).Reads (bytes ++ more) := by
  induction more generalizing s bytes with
  | nil =>
      rw [List.append_nil]
      exact h
  | cons b rest ih =>
      rw [List.foldl_cons, List.append_cons]
      exact ih (h.step b)

theorem reads_nil : Scan.Reads {} [] := by
  intro cs shape
  obtain rfl : cs = [] := List.map_eq_nil_iff.mp shape.symm
  rfl

/-- All pieces are characters only if no sequence is left unfinished. -/
theorem finish_eq_map_iff {cs : List Char} :
    s.finish = cs.map .char ↔ s.place = .between ∧ s.pieces = cs.reverse.map .char := by
  unfold Scan.finish
  cases place : s.place with
  | between => simp [List.reverse_eq_iff, List.map_reverse]
  | inside left low high value seen =>
      simp only [List.reverse_eq_iff, ← List.map_reverse, reduceCtorEq, false_and, iff_false]
      cases cs.reverse with
      | nil => simp
      | cons first rest => simp

theorem collect_eq_ok_iff {index : Nat} {behind cs : List Char} :
    collect pieces index behind = .ok cs ↔
      ∃ rest, pieces = rest.map .char ∧ cs = behind.reverse ++ rest := by
  induction pieces generalizing index behind with
  | nil =>
      constructor
      · intro h
        exact ⟨[], rfl, by simpa [collect] using h.symm⟩
      · rintro ⟨rest, shape, rfl⟩
        obtain rfl : rest = [] := List.map_eq_nil_iff.mp shape.symm
        simp [collect]
  | cons piece more ih =>
      cases piece with
      | char c =>
          rw [collect, ih]
          constructor
          · rintro ⟨rest, rfl, rfl⟩
            exact ⟨c :: rest, rfl, by simp⟩
          · rintro ⟨rest, shape, rfl⟩
            obtain ⟨rest, rfl, kept⟩ := char_cons_eq_map shape
            exact ⟨rest, kept, by simp⟩
      | broken width =>
          refine iff_of_false (by simp [collect]) ?_
          rintro ⟨rest, shape, -⟩
          exact broken_cons_ne_map shape
      | cut =>
          refine iff_of_false (by simp [collect]) ?_
          rintro ⟨rest, shape, -⟩
          cases rest with
          | nil => cases shape
          | cons first rest => simp at shape

theorem decode_eq_ok_iff_foldl {cs : List Char} :
    decode bytes = .ok cs ↔
      (bytes.foldl Scan.step {}).place = .between ∧
        (bytes.foldl Scan.step {}).pieces = cs.reverse.map .char := by
  rw [decode, collect_eq_ok_iff, ← finish_eq_map_iff, Utf8.pieces]
  simp

theorem encode_of_decode {cs : List Char} (h : decode bytes = .ok cs) : encode cs = bytes := by
  obtain ⟨place, shape⟩ := decode_eq_ok_iff_foldl.mp h
  have reads := reads_foldl reads_nil bytes cs.reverse shape
  rw [place] at reads
  simpa using reads.symm

end Reads

/-! ### Characters are read back from their bytes -/

section Written

variable {pieces : List Piece} {left value v : Nat} {low high b : UInt8}

theorem toNat_byte {n : Nat} (h : n < 256) : (UInt8.ofNat n).toNat = n :=
  UInt8.toNat_ofNat_of_lt' h

/-- The next byte of a value's sequence is taken. -/
theorem step_inside (h : MayEnd left low high value v)
    (byte : b.toNat = 0x80 + v / 64 ^ left % 64) (seen : Nat) :
    Scan.step ⟨.inside (left + 1) low high value seen, pieces⟩ b =
      if left = 0 then ⟨.between, .char (Char.ofNat v) :: pieces⟩
      else ⟨.inside left 0x80 0xBF (v / 64 ^ left) (seen + 1), pieces⟩ := by
  have above : low ≤ b := UInt8.le_iff_toNat_le.mpr (byte ▸ h.low_le)
  have below : b ≤ high := UInt8.le_iff_toNat_le.mpr (byte ▸ h.le_high)
  have value_eq : value * 64 + (b.toNat - 0x80) = v / 64 ^ left :=
    ((div_eq_iff (by omega) (by omega)).mpr ⟨h.value_eq, byte.symm⟩).symm
  unfold Scan.step
  dsimp only
  rw [if_pos (by simp [above, below]), value_eq]
  by_cases last : left = 0
  · subst last
    rw [if_pos (Nat.le_refl 1), if_pos rfl, Nat.pow_zero, Nat.div_one]
  · rw [if_neg (by omega), if_neg last, Nat.add_sub_cancel]

/-- The last bytes of a value's sequence end it. -/
theorem foldl_trail (h : MayEnd left low high value v) (seen : Nat) :
    (trail v (left + 1)).foldl Scan.step ⟨.inside (left + 1) low high value seen, pieces⟩ =
      ⟨.between, .char (Char.ofNat v) :: pieces⟩ := by
  induction left generalizing low high value seen with
  | zero =>
      rw [trail, List.foldl_cons, step_inside h (toNat_byte (by omega)), if_pos rfl]
      rfl
  | succ left ih =>
      rw [trail, List.foldl_cons, step_inside h (toNat_byte (by omega)),
        if_neg (Nat.succ_ne_zero left)]
      refine ih ⟨rfl, Nat.le_add_right _ _, ?_⟩ _
      simp
      omega

theorem foldl_of_begun (begun : Begun left low high value [b]) (ends : MayEnd left low high value v)
    (start : Scan.begin pieces b = ⟨.inside (left + 1) low high value 1, pieces⟩) :
    (String.utf8EncodeChar (Char.ofNat v)).foldl Scan.step ⟨.between, pieces⟩ =
      ⟨.between, .char (Char.ofNat v) :: pieces⟩ := by
  rw [begun.encode_eq v ends, List.singleton_append, List.foldl_cons, Scan.step]
  dsimp only
  rw [start, foldl_trail ends]

theorem foldl_one (below : v < 0x80) :
    (String.utf8EncodeChar (Char.ofNat v)).foldl Scan.step ⟨.between, pieces⟩ =
      ⟨.between, .char (Char.ofNat v) :: pieces⟩ := by
  have byte : (UInt8.ofNat v).toNat = v := toNat_byte (by omega)
  have whole := encodeChar_one (b := UInt8.ofNat v) (by omega)
  have start : Scan.begin pieces (UInt8.ofNat v) = _ := begin_one (by omega)
  rw [byte] at whole start
  rw [whole]
  exact start

theorem foldl_two (above : 0x80 ≤ v) (below : v < 0x800) :
    (String.utf8EncodeChar (Char.ofNat v)).foldl Scan.step ⟨.between, pieces⟩ =
      ⟨.between, .char (Char.ofNat v) :: pieces⟩ := by
  have lead : (UInt8.ofNat (v / 64 + 0xC0)).toNat = v / 64 + 0xC0 := toNat_byte (by omega)
  refine foldl_of_begun (begun_two (b := UInt8.ofNat (v / 64 + 0xC0)) (by omega) (by omega))
    ⟨?_, ?_, ?_⟩ (begin_two (by omega) (by omega))
  · omega
  · exact Nat.le_add_right _ _
  · exact (by omega : 0x80 + v / 64 ^ 0 % 64 ≤ 0xBF)

theorem foldl_three (valid : v.isValidChar) (above : 0x800 ≤ v) (below : v < 0x10000) :
    (String.utf8EncodeChar (Char.ofNat v)).foldl Scan.step ⟨.between, pieces⟩ =
      ⟨.between, .char (Char.ofNat v) :: pieces⟩ := by
  unfold Nat.isValidChar at valid
  have lead : (UInt8.ofNat (v / 4096 + 0xE0)).toNat = v / 4096 + 0xE0 := toNat_byte (by omega)
  refine foldl_of_begun (begun_three (b := UInt8.ofNat (v / 4096 + 0xE0)) (by omega) (by omega))
    ⟨?_, ?_, ?_⟩ (begin_three (by omega) (by omega))
  · omega
  · rw [lead]
    split
    · exact (by omega : 0xA0 ≤ 0x80 + v / 64 ^ 1 % 64)
    · exact Nat.le_add_right _ _
  · rw [lead]
    split
    · exact (by omega : 0x80 + v / 64 ^ 1 % 64 ≤ 0x9F)
    · exact (by omega : 0x80 + v / 64 ^ 1 % 64 ≤ 0xBF)

theorem foldl_four (above : 0x10000 ≤ v) (below : v < 0x110000) :
    (String.utf8EncodeChar (Char.ofNat v)).foldl Scan.step ⟨.between, pieces⟩ =
      ⟨.between, .char (Char.ofNat v) :: pieces⟩ := by
  have lead : (UInt8.ofNat (v / 262144 + 0xF0)).toNat = v / 262144 + 0xF0 :=
    toNat_byte (by omega)
  refine foldl_of_begun (begun_four (b := UInt8.ofNat (v / 262144 + 0xF0)) (by omega) (by omega))
    ⟨?_, ?_, ?_⟩ (begin_four (by omega) (by omega))
  · omega
  · rw [lead]
    split
    · exact (by omega : 0x90 ≤ 0x80 + v / 64 ^ 2 % 64)
    · exact Nat.le_add_right _ _
  · rw [lead]
    split
    · exact (by omega : 0x80 + v / 64 ^ 2 % 64 ≤ 0x8F)
    · exact (by omega : 0x80 + v / 64 ^ 2 % 64 ≤ 0xBF)

theorem foldl_encodeChar (c : Char) (pieces : List Piece) :
    (String.utf8EncodeChar c).foldl Scan.step ⟨.between, pieces⟩ =
      ⟨.between, .char c :: pieces⟩ := by
  obtain ⟨v, valid, rfl⟩ : ∃ v : Nat, v.isValidChar ∧ Char.ofNat v = c :=
    ⟨c.toNat, c.valid, Char.ofNat_toNat c⟩
  have below : v < 0x110000 := by
    unfold Nat.isValidChar at valid
    omega
  by_cases one : v < 0x80
  · exact foldl_one one
  by_cases two : v < 0x800
  · exact foldl_two (Nat.le_of_not_lt one) two
  by_cases three : v < 0x10000
  · exact foldl_three valid (Nat.le_of_not_lt two) three
  · exact foldl_four (Nat.le_of_not_lt three) below

theorem foldl_encode (cs : List Char) (pieces : List Piece) :
    (encode cs).foldl Scan.step ⟨.between, pieces⟩ =
      ⟨.between, cs.reverse.map .char ++ pieces⟩ := by
  induction cs generalizing pieces with
  | nil => rfl
  | cons c rest ih =>
      rw [encode, List.flatMap_cons, List.foldl_append, foldl_encodeChar, ← encode, ih]
      simp

end Written

/-- Bytes decode to characters if and only if the characters are encoded as these bytes. -/
theorem decode_eq_ok_iff {bytes : List UInt8} {cs : List Char} :
    decode bytes = .ok cs ↔ encode cs = bytes := by
  constructor
  · exact encode_of_decode
  · rintro rfl
    rw [decode_eq_ok_iff_foldl, foldl_encode]
    exact ⟨rfl, List.append_nil _⟩

/-- Different texts have different bytes. -/
theorem encode_injective : Function.Injective encode := fun _ _ same =>
  Except.ok.inj ((decode_eq_ok_iff.mpr same).symm.trans (decode_eq_ok_iff.mpr rfl))

end RpcLink.Text.Utf8
