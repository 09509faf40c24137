import RpcLink.Framing.LineBuffer

/-!
The lines of a stream of bytes, and the tail behind the last of them. A stream has one such
division, which `splitLines` finds, and what is appended to the stream continues its tail.
-/

namespace RpcLink.Framing

/-- A stream is made of lines, each with its end, and a tail without one. -/
structure Lines (stream : List UInt8) (lines : List (List UInt8)) (tail : List UInt8) : Prop where
  stream_eq : stream = lines.flatMap (· ++ [lineFeed]) ++ tail
  of_line : ∀ line ∈ lines, lineFeed ∉ line
  of_tail : lineFeed ∉ tail

/-- Either no line ends in a chunk, or the first that does ends before the rest of it. -/
theorem dropWhile_cases (chunk : List UInt8) :
    (chunk.dropWhile (· != lineFeed) = [] ∧ chunk.takeWhile (· != lineFeed) = chunk ∧
      lineFeed ∉ chunk) ∨
    ∃ line rest, chunk.dropWhile (· != lineFeed) = lineFeed :: rest ∧
      chunk.takeWhile (· != lineFeed) = line ∧ chunk = line ++ lineFeed :: rest ∧
      lineFeed ∉ line := by
  have whole := List.takeWhile_append_dropWhile (p := (· != lineFeed)) (l := chunk)
  have inside : lineFeed ∉ chunk.takeWhile (· != lineFeed) := by
    intro member
    have := List.all_eq_true.mp (List.all_takeWhile (l := chunk) (p := (· != lineFeed))) _ member
    simp at this
  cases left : chunk.dropWhile (· != lineFeed) with
  | nil =>
      rw [left, List.append_nil] at whole
      rw [whole] at inside
      exact .inl ⟨rfl, whole, inside⟩
  | cons byte rest =>
      have head : (byte != lineFeed) = false := by
        have := List.head?_dropWhile_not (· != lineFeed) chunk
        simpa [left] using this
      obtain rfl := bne_eq_false_iff_eq.mp head
      rw [left] at whole
      exact .inr ⟨_, rest, rfl, rfl, whole.symm, inside⟩

theorem splitLines_of_not_mem {bytes : List UInt8} (noEnd : lineFeed ∉ bytes) :
    splitLines bytes = ([], bytes) := by
  rcases dropWhile_cases bytes with ⟨left, -, -⟩ | ⟨line, rest, -, -, rfl, -⟩
  · rw [splitLines]
    split
    · rfl
    · rename_i found
      rw [left] at found
      cases found
  · simp at noEnd

theorem splitLines_of_line {line : List UInt8} (rest : List UInt8) (noEnd : lineFeed ∉ line) :
    splitLines (line ++ lineFeed :: rest) =
      (line :: (splitLines rest).1, (splitLines rest).2) := by
  have before : ∀ byte ∈ line, (byte != lineFeed) = true :=
    fun byte member => bne_iff_ne.mpr fun same => noEnd (same ▸ member)
  have taken : (line ++ lineFeed :: rest).takeWhile (· != lineFeed) = line := by
    rw [List.takeWhile_append_of_pos before]
    simp
  have left : (line ++ lineFeed :: rest).dropWhile (· != lineFeed) = lineFeed :: rest := by
    rw [List.dropWhile_append_of_pos before]
    simp
  rw [splitLines]
  split
  · rename_i found
    rw [left] at found
    cases found
  · rename_i found
    rw [left] at found
    obtain ⟨-, rfl⟩ := List.cons.inj found
    rw [taken]

namespace Lines

variable {stream more tail : List UInt8} {lines : List (List UInt8)}

theorem of_not_mem (noEnd : lineFeed ∉ stream) : Lines stream [] stream :=
  ⟨rfl, by simp, noEnd⟩

theorem cons {line : List UInt8} (noEnd : lineFeed ∉ line) (h : Lines stream lines tail) :
    Lines (line ++ lineFeed :: stream) (line :: lines) tail where
  stream_eq := by rw [h.stream_eq]; simp
  of_line := by simpa [noEnd] using h.of_line
  of_tail := h.of_tail

/-- What follows a stream continues its tail. -/
theorem append {lines' : List (List UInt8)} {tail' : List UInt8} (h : Lines stream lines tail)
    (h' : Lines (tail ++ more) lines' tail') : Lines (stream ++ more) (lines ++ lines') tail' where
  stream_eq := by
    rw [h.stream_eq, List.append_assoc, h'.stream_eq, List.flatMap_append, List.append_assoc]
  of_line := by
    intro line member
    rcases List.mem_append.mp member with first | second
    · exact h.of_line line first
    · exact h'.of_line line second
  of_tail := h'.of_tail

/-- The division of a stream is the one that is computed. -/
theorem splitLines_eq (h : Lines stream lines tail) : splitLines stream = (lines, tail) := by
  induction lines generalizing stream with
  | nil =>
      rw [h.stream_eq]
      exact splitLines_of_not_mem h.of_tail
  | cons line lines ih =>
      have shape : stream = line ++ lineFeed :: (lines.flatMap (· ++ [lineFeed]) ++ tail) := by
        rw [h.stream_eq]
        simp
      have rest : Lines (lines.flatMap (· ++ [lineFeed]) ++ tail) lines tail :=
        ⟨rfl, fun line member => h.of_line line (List.mem_cons_of_mem _ member), h.of_tail⟩
      rw [shape, splitLines_of_line _ (h.of_line line List.mem_cons_self), ih rest]

theorem unique {lines' : List (List UInt8)} {tail' : List UInt8} (h : Lines stream lines tail)
    (h' : Lines stream lines' tail') : lines = lines' ∧ tail = tail' :=
  Prod.mk.inj (h.splitLines_eq.symm.trans h'.splitLines_eq)

end Lines

/-- Every stream has a division into lines. -/
theorem lines_splitLines (bytes : List UInt8) :
    Lines bytes (splitLines bytes).1 (splitLines bytes).2 := by
  rcases dropWhile_cases bytes with ⟨-, -, noEnd⟩ | ⟨line, rest, -, -, shape, noEnd⟩
  · rw [splitLines_of_not_mem noEnd]
    exact .of_not_mem noEnd
  · have shorter : rest.length < bytes.length := by
      rw [shape, List.length_append, List.length_cons]
      omega
    rw [shape, splitLines_of_line rest noEnd]
    exact (lines_splitLines rest).cons noEnd
termination_by bytes.length

end RpcLink.Framing
