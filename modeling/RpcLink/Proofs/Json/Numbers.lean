import RpcLink.Proofs.Json.Strings

/-!
Integers that were written are read back: their digits are taken as long as the number fits a word,
which it does, and what follows is no part of a number.
-/

namespace RpcLink.Json

open Text

/-- The bytes of a natural number. -/
def digits (n : Nat) : List UInt8 := Utf8.encode (Nat.toDigits 10 n)

/-- No number goes on with these bytes. -/
def EndsNumber : List UInt8 → Prop
  | [] => True
  | b :: _ => Read.isDigit b = false ∧ b ≠ 0x2E ∧ b ≠ 0x65 ∧ b ≠ 0x45

/-- A digit is one byte, and both have the same value. -/
theorem encodeChar_of_isDigit {c : Char} (digit : c.isDigit) :
    ∃ b, String.utf8EncodeChar c = [b] ∧ Read.isDigit b = true ∧
      Read.digitValue b = c.toNat - '0'.toNat ∧ b.toNat = c.toNat := by
  obtain ⟨above, below⟩ : 48 ≤ c.toNat ∧ c.toNat ≤ 57 := by
    simpa [Char.isDigit, UInt32.le_iff_toNat_le] using digit
  have value : (UInt8.ofNat c.toNat).toNat = c.toNat := by
    rw [UInt8.toNat_ofNat']
    omega
  refine ⟨_, Utf8.encodeChar_of_ascii (by omega), ?_, ?_, value⟩
  · simp only [Read.isDigit, Bool.and_eq_true, decide_eq_true_eq, UInt8.le_iff_toNat_le, value]
    exact ⟨above, below⟩
  · rw [Read.digitValue, value]
    rfl

/-- The digits of a number that fits a word are all taken. -/
theorem takeDigits_encode {ds : List Char} (areDigits : ∀ c ∈ ds, c.isDigit) {rest : List UInt8}
    (ends : EndsNumber rest) {n : Nat} (fits : Nat.ofDigitChars 10 ds n < Read.wordBound)
    (count : Nat) :
    Read.takeDigits (Utf8.encode ds ++ rest) n count =
      (Nat.ofDigitChars 10 ds n, count + ds.length, rest) := by
  induction ds generalizing n count with
  | nil =>
      show Read.takeDigits rest n count = (n, count, rest)
      cases rest with
      | nil => rfl
      | cons b rest => simp [Read.takeDigits, ends.1]
  | cons c ds ih =>
      obtain ⟨b, single, isDigit, value, -⟩ :=
        encodeChar_of_isDigit (areDigits c List.mem_cons_self)
      rw [Nat.ofDigitChars_cons] at fits
      have more : 10 * n + (c.toNat - '0'.toNat) < Read.wordBound := by
        rw [Nat.ofDigitChars_eq_ofDigitChars_zero] at fits
        have powers : 0 < 10 ^ ds.length := Nat.pow_pos (by decide)
        have grows := Nat.le_mul_of_pos_left (10 * n + (c.toNat - '0'.toNat)) powers
        exact Nat.lt_of_le_of_lt (Nat.le_trans grows (Nat.le_add_right _ _)) fits
      rw [Utf8.encode_cons, single, List.append_assoc, List.singleton_append, Read.takeDigits,
        if_pos isDigit, value, Nat.mul_comm n 10]
      dsimp only
      rw [if_pos more, ih (fun d member => areDigits d (List.mem_cons_of_mem _ member)) fits,
        Nat.ofDigitChars_cons, List.length_cons]
      simp only [Nat.add_assoc, Nat.add_comm 1]

/-- The first digit of a number other than zero is not zero. -/
theorem toDigits_eq_cons {n : Nat} (positive : 0 < n) :
    ∃ c ds, Nat.toDigits 10 n = c :: ds ∧ c ≠ '0' := by
  induction n using Nat.strongRecOn with
  | _ n ih =>
      by_cases small : n < 10
      · refine ⟨n.digitChar, [], Nat.toDigits_of_lt_base small, ?_⟩
        have nonzero : ∀ m : Fin 10, 0 < m.val → m.val.digitChar ≠ '0' := by decide
        exact nonzero ⟨n, small⟩ positive
      · have shape := Nat.toDigits_of_base_le (b := 10) (by decide) (Nat.le_of_not_lt small)
        obtain ⟨c, ds, front, nonzero⟩ := ih (n / 10) (by omega) (by omega)
        rw [front] at shape
        exact ⟨c, _, shape, nonzero⟩

/-- Behind the digits of an integer there is no digit, which would be at fault or make a long
number, and nothing else that belongs to a number. -/
theorem integer_of_ends (negative : Bool) (n : Nat) (rest : List UInt8)
    (further : Except Read.Fault (Number × List UInt8)) :
    EndsNumber rest →
      (match rest with
        | b :: _ => if Read.isDigit b then further else Read.afterInteger negative n rest
        | [] => Read.afterInteger negative n []) = Read.integer negative n rest := by
  cases rest with
  | nil => exact fun _ => rfl
  | cons b rest =>
      rintro ⟨noDigit, point, lower, upper⟩
      simp [Read.afterInteger, noDigit, point, lower, upper]

/-- A natural number that fits a word, behind its sign. -/
theorem number_digits {n : Nat} (fits : n < Read.wordBound) {rest : List UInt8}
    (ends : EndsNumber rest) (negative : Bool) :
    Read.number negative (digits n ++ rest) = Read.integer negative n rest := by
  rcases Nat.eq_zero_or_pos n with rfl | positive
  · have zero : digits 0 = [0x30] := rfl
    rw [zero, List.singleton_append, Read.number.eq_def]
    dsimp only
    rw [if_pos rfl]
    exact integer_of_ends negative 0 rest _ ends
  · obtain ⟨c, ds, shape, nonzero⟩ := toDigits_eq_cons positive
    have areDigits : ∀ d ∈ Nat.toDigits 10 n, d.isDigit :=
      fun d member => Nat.isDigit_of_mem_toDigits (by decide) (by decide) member
    obtain ⟨b, single, isDigit, -, value⟩ := encodeChar_of_isDigit
      (areDigits c (by rw [shape]; exact List.mem_cons_self))
    have taken := takeDigits_encode areDigits ends (n := 0)
      (by rw [Nat.ofDigitChars_ten_toDigits]; exact fits) 0
    rw [Nat.ofDigitChars_ten_toDigits] at taken
    have first : digits n ++ rest = b :: (Utf8.encode ds ++ rest) := by
      rw [digits, shape, Utf8.encode_cons, single, List.append_assoc, List.singleton_append]
    have noZero : b ≠ 0x30 := by
      rintro rfl
      exact nonzero (Char.toNat_inj.mp value.symm)
    rw [← digits, first] at taken
    rw [first, Read.number.eq_def]
    dsimp only
    rw [if_neg noZero, if_pos isDigit, taken]
    exact integer_of_ends negative n rest _ ends

theorem digits_eq_cons (n : Nat) : ∃ b bs, digits n = b :: bs ∧ Read.isDigit b = true := by
  obtain ⟨c, ds, shape⟩ := List.exists_cons_of_ne_nil (Nat.toDigits_ne_nil (n := n) (b := 10))
  have member : c ∈ Nat.toDigits 10 n := by
    rw [shape]
    exact List.mem_cons_self
  obtain ⟨b, single, isDigit, -⟩ :=
    encodeChar_of_isDigit (Nat.isDigit_of_mem_toDigits (by decide) (by decide) member)
  refine ⟨b, Utf8.encode ds, ?_, isDigit⟩
  rw [digits, shape, Utf8.encode_cons, single, List.singleton_append]

/-- An integer is written by its digits, behind a minus if it is negative. -/
theorem bytes_integer (i : Int) (word : InWord i) :
    (Json.number (.integer i word)).bytes =
      if 0 ≤ i then digits i.toNat else 0x2D :: digits (-i).toNat := by
  show Utf8.encode (toString i).toList = _
  rw [Int.toString_eq_repr, Int.repr_eq_if]
  split
  · rw [Nat.toList_repr, digits]
  · rw [String.toList_append, Nat.toList_repr, Utf8.encode_append]
    rfl

/-- An integer that was written is read back. -/
theorem integer_bytes (i : Int) (word : InWord i) {rest : List UInt8} (ends : EndsNumber rest) :
    (if 0 ≤ i then Read.number false (digits i.toNat ++ rest)
      else Read.number true (digits (-i).toNat ++ rest)) = .ok (.integer i word, rest) := by
  obtain ⟨above, below⟩ := id word
  split
  · rename_i nonneg
    have fits : i.toNat < 0x10000000000000000 := by omega
    have same : (i.toNat : Int) = i := Int.toNat_of_nonneg nonneg
    rw [number_digits fits ends, Read.integer, if_neg Bool.false_ne_true, dif_pos fits]
    simp only [same]
  · rename_i negative
    have fits : (-i).toNat < 0x10000000000000000 := by omega
    have small : 0 < (-i).toNat ∧ (-i).toNat ≤ 0x8000000000000000 := by omega
    have same : -((-i).toNat : Int) = i := by omega
    rw [number_digits fits ends, Read.integer, if_pos rfl, dif_pos small]
    simp only [same]

end RpcLink.Json
