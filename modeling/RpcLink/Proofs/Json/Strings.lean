import RpcLink.Json.Reader
import RpcLink.Json.Writer
import RpcLink.Proofs.Text.Utf8

/-!
Strings that were written are read back. What is written for a character is read as the bytes of
that character, whether or not it is escaped, and no control is written.
-/

namespace RpcLink

namespace Text.Utf8

theorem encode_append (cs ds : List Char) : encode (cs ++ ds) = encode cs ++ encode ds :=
  List.flatMap_append

theorem encode_cons (c : Char) (cs : List Char) :
    encode (c :: cs) = String.utf8EncodeChar c ++ encode cs := rfl

/-- A character of seven bits is one byte. -/
theorem encodeChar_of_ascii {c : Char} (small : c.toNat < 0x80) :
    String.utf8EncodeChar c = [UInt8.ofNat c.toNat] := by
  have one : c.val.toNat ≤ 0x7f := Nat.le_of_lt_succ small
  unfold String.utf8EncodeChar
  rw [if_pos one]
  rfl

/-- The bytes of any other character have an eighth bit. -/
theorem ge_of_mem_encodeChar {c : Char} (large : 0x80 ≤ c.toNat) {b : UInt8}
    (member : b ∈ String.utf8EncodeChar c) : 0x80 ≤ b.toNat := by
  have big : ¬ c.val.toNat ≤ 0x7f := Nat.not_le_of_lt large
  unfold String.utf8EncodeChar at member
  rw [if_neg big] at member
  split at member
  · simp only [List.mem_cons, List.not_mem_nil, or_false] at member
    rcases member with rfl | rfl
    · simp only [UInt8.toNat_ofNat']
      omega
    · simp only [UInt8.toNat_ofNat']
      omega
  · split at member
    · simp only [List.mem_cons, List.not_mem_nil, or_false] at member
      rcases member with rfl | rfl | rfl <;> simp only [UInt8.toNat_ofNat'] <;> omega
    · simp only [List.mem_cons, List.not_mem_nil, or_false] at member
      rcases member with rfl | rfl | rfl | rfl <;> simp only [UInt8.toNat_ofNat'] <;> omega

end Text.Utf8

namespace Json

open Text

/-- The bytes between the quotes of a string. -/
def escaped (s : String) : List UInt8 := Utf8.encode (s.toList.flatMap escapeChar)

theorem encode_stringChars (s : String) :
    Utf8.encode (stringChars s) = 0x22 :: (escaped s ++ [0x22]) := by
  unfold stringChars
  rw [Utf8.encode_append]
  rfl

/-- What is written for a character inside a string: a short escape, four digits for a control, or
the character itself. -/
inductive Escaping (c : Char) : List UInt8 → Prop where
  | short {e : UInt8} (stands : Read.shortEscape? e = some (UInt8.ofNat c.toNat)) (other : e ≠ 0x75)
      (visible : 0x20 ≤ e.toNat) (small : c.toNat < 0x80) : Escaping c [0x5C, e]
  | control {h l : UInt8} (stands : Read.hexValue4? 0x30 0x30 h l = some c.toNat)
      (high : 0x20 ≤ h.toNat) (low : 0x20 ≤ l.toNat) (small : c.toNat < 0x20) :
      Escaping c [0x5C, 0x75, 0x30, 0x30, h, l]
  | self (large : 0x20 ≤ c.toNat) (noQuote : c ≠ '"') (noSlash : c ≠ '\\') :
      Escaping c (String.utf8EncodeChar c)

theorem escaping_control {c : Char} (small : c.toNat < 0x20) :
    Escaping c (Utf8.encode
      ['\\', 'u', '0', '0', hexDigit (c.toNat / 16), hexDigit (c.toNat % 16)]) := by
  have digits : ∀ n : Fin 0x20,
      Utf8.encode ['\\', 'u', '0', '0', hexDigit (n.val / 16), hexDigit (n.val % 16)] =
          [0x5C, 0x75, 0x30, 0x30, UInt8.ofNat (hexDigit (n.val / 16)).toNat,
            UInt8.ofNat (hexDigit (n.val % 16)).toNat] ∧
        Read.hexValue4? 0x30 0x30 (UInt8.ofNat (hexDigit (n.val / 16)).toNat)
          (UInt8.ofNat (hexDigit (n.val % 16)).toNat) = some n.val ∧
        0x20 ≤ (UInt8.ofNat (hexDigit (n.val / 16)).toNat).toNat ∧
        0x20 ≤ (UInt8.ofNat (hexDigit (n.val % 16)).toNat).toNat := by decide
  obtain ⟨shape, stands, high, low⟩ := digits ⟨c.toNat, small⟩
  rw [shape]
  exact .control stands high low small

theorem escaping (c : Char) : Escaping c (Utf8.encode (escapeChar c)) := by
  by_cases short : c ∈ ['"', '\\', '\x08', '\t', '\n', '\x0c', '\r']
  · simp only [List.mem_cons, List.not_mem_nil, or_false] at short
    rcases short with rfl | rfl | rfl | rfl | rfl | rfl | rfl <;>
      exact .short rfl (by decide) (by decide) (by decide)
  · simp only [List.mem_cons, List.not_mem_nil, or_false, not_or] at short
    obtain ⟨noQuote, noSlash, backspace, tab, feed, page, back⟩ := short
    unfold escapeChar
    rw [if_neg noQuote, if_neg noSlash, if_neg backspace, if_neg tab, if_neg feed, if_neg page,
      if_neg back]
    split
    · rename_i small
      exact escaping_control small
    · rename_i large
      rw [Utf8.encode_cons, show Utf8.encode [] = [] from rfl, List.append_nil]
      exact .self (Nat.le_of_not_lt large) noQuote noSlash

namespace Read

/-- A byte that stands for itself in a string. -/
def IsPlain (b : UInt8) : Prop := 0x20 ≤ b.toNat ∧ b ≠ 0x22 ∧ b ≠ 0x5C

theorem stringBody_plain {bs : List UInt8} (plain : ∀ b ∈ bs, IsPlain b)
    (more behind : List UInt8) :
    stringBody (bs ++ more) behind = stringBody more (bs.reverse ++ behind) := by
  induction bs generalizing behind with
  | nil => rfl
  | cons b bs ih =>
      obtain ⟨large, noQuote, noSlash⟩ := plain b List.mem_cons_self
      have noControl : ¬ b < 0x20 := Nat.not_lt_of_le large
      rw [List.cons_append, stringBody.eq_def]
      dsimp only
      rw [if_neg noQuote, if_neg noSlash, if_neg noControl,
        ih fun b' member => plain b' (List.mem_cons_of_mem _ member)]
      simp

/-- A character that needs no escape stands for itself. -/
theorem plain_of_encodeChar {c : Char} (large : 0x20 ≤ c.toNat) (noQuote : c ≠ '"')
    (noSlash : c ≠ '\\') : ∀ b ∈ String.utf8EncodeChar c, IsPlain b := by
  intro b member
  by_cases small : c.toNat < 0x80
  · rw [Utf8.encodeChar_of_ascii small, List.mem_singleton] at member
    have value : b.toNat = c.toNat := by
      rw [member, UInt8.toNat_ofNat']
      omega
    refine ⟨by omega, ?_, ?_⟩
    · rintro rfl
      exact noQuote (Char.toNat_inj.mp value.symm)
    · rintro rfl
      exact noSlash (Char.toNat_inj.mp value.symm)
  · have high := Utf8.ge_of_mem_encodeChar (Nat.le_of_not_lt small) member
    refine ⟨by omega, ?_, ?_⟩
    · rintro rfl
      exact absurd high (by decide)
    · rintro rfl
      exact absurd high (by decide)

/-- No control is written inside a string. -/
theorem visible_of_mem_escaped {s : String} {b : UInt8} (member : b ∈ escaped s) :
    0x20 ≤ b.toNat := by
  unfold escaped Utf8.encode at member
  rw [List.flatMap_assoc] at member
  obtain ⟨c, -, written⟩ := List.mem_flatMap.mp member
  have escapes : Escaping c ((escapeChar c).flatMap String.utf8EncodeChar) := escaping c
  generalize (escapeChar c).flatMap String.utf8EncodeChar = bytes at escapes written
  cases escapes with
  | @short e stands other visible small =>
      simp only [List.mem_cons, List.not_mem_nil, or_false] at written
      rcases written with rfl | rfl
      · decide
      · exact visible
  | @control h l stands high low small =>
      simp only [List.mem_cons, List.not_mem_nil, or_false] at written
      rcases written with rfl | rfl | rfl | rfl | rfl | rfl
      · decide
      · decide
      · decide
      · decide
      · exact high
      · exact low
  | self large noQuote noSlash => exact (plain_of_encodeChar large noQuote noSlash b written).1

theorem stringBody_escapeChar (c : Char) (more behind : List UInt8) :
    stringBody (Utf8.encode (escapeChar c) ++ more) behind =
      stringBody more ((String.utf8EncodeChar c).reverse ++ behind) := by
  generalize written : Utf8.encode (escapeChar c) = bytes
  have escapes := escaping c
  rw [written] at escapes
  cases escapes with
  | @short e stands other visible small =>
      rw [Utf8.encodeChar_of_ascii small, List.cons_append, List.cons_append, stringBody.eq_def]
      simp [stands, other]
  | @control h l stands high low small =>
      have noTrail : isTrailSurrogate c.toNat = false := by
        simp only [isTrailSurrogate, Bool.and_eq_false_iff, decide_eq_false_iff_not]
        omega
      have noLead : isLeadSurrogate c.toNat = false := by
        simp only [isLeadSurrogate, Bool.and_eq_false_iff, decide_eq_false_iff_not]
        omega
      rw [stringBody.eq_def]
      simp [stands, noTrail, noLead, pushCodePoint, Char.ofNat_toNat]
  | self large noQuote noSlash =>
      exact stringBody_plain (plain_of_encodeChar large noQuote noSlash) more behind

/-- The content of a string that was written. -/
theorem stringBody_escaped (cs : List Char) (more behind : List UInt8) :
    stringBody (Utf8.encode (cs.flatMap escapeChar) ++ 0x22 :: more) behind =
      .ok (behind.reverse ++ Utf8.encode cs, more) := by
  induction cs generalizing behind with
  | nil =>
      show stringBody (0x22 :: more) behind = _
      rw [stringBody.eq_def]
      simp [Utf8.encode]
  | cons c cs ih =>
      rw [List.flatMap_cons, Utf8.encode_append, List.append_assoc, stringBody_escapeChar, ih,
        Utf8.encode_cons]
      simp

theorem string_escaped (s : String) (more : List UInt8) :
    string (escaped s ++ 0x22 :: more) = .ok (s, more) := by
  unfold string escaped
  rw [stringBody_escaped]
  have text := Utf8.decode_eq_ok_iff.mpr (rfl : Utf8.encode s.toList = _)
  simp [bind, Except.bind, text]

end Read

end Json

end RpcLink
