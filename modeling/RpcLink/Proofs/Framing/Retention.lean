import Mathlib.Data.List.Forall2
import RpcLink.Proofs.Framing.Lines

/-!
What a line buffer holds between the calls made of it, in whatever order it takes chunks and is told
that its stream ended: the beginning of one line, never more of it than the limit, and nothing of a
line that it passes over. An end of the stream makes it a fresh buffer, so that no line that was cut
short is felt in the next stream.
-/

namespace RpcLink.Framing

/-- A stream has as many lines as bytes that end one. -/
theorem Lines.length_eq {stream tail : List UInt8} {lines : List (List UInt8)}
    (h : Lines stream lines tail) : lines.length = stream.count lineFeed := by
  rw [h.stream_eq, List.count_append, List.count_eq_zero_of_not_mem h.of_tail, Nat.add_zero]
  replace h := h.of_line
  induction lines with
  | nil => rfl
  | cons line lines ih =>
      have first : line.count lineFeed = 0 :=
        List.count_eq_zero_of_not_mem (h line List.mem_cons_self)
      have rest := ih fun line member => h line (List.mem_cons_of_mem _ member)
      simp [first, ← rest]

namespace LineBuffer

/-- A call made of a buffer. -/
inductive Act where
  | feed (chunk : List UInt8)
  | finish
deriving DecidableEq

/-- What a call gives back. -/
inductive Answer where
  | frames (frames : List Frame)
  | rest (text : Option String)
deriving DecidableEq

/-- Make one call. -/
def act (b : LineBuffer) : Act → Answer × LineBuffer
  | .feed chunk =>
    let (frames, b) := b.feed chunk
    (.frames frames, b)
  | .finish =>
    let (text, b) := b.finish
    (.rest text, b)

/-- Make calls one after the other. -/
def actAll (b : LineBuffer) : List Act → List Answer × LineBuffer
  | [] => ([], b)
  | first :: rest =>
    let (answer, b) := b.act first
    let (answers, b) := b.actAll rest
    (answer :: answers, b)

/-- What is held is the beginning of one line that is not over the limit, and nothing if the line at
hand is passed over. -/
structure Retains (limit : Nat) (b : LineBuffer) : Prop where
  limit_eq : b.limit = limit
  unended : lineFeed ∉ b.held
  short : b.held.length ≤ limit
  skipped : b.skipping = true → b.held = []

/-- A chunk gives a frame for each line that ends in it and one more at most. -/
inductive Sparing : Act → Answer → Prop where
  | feed {chunk : List UInt8} {frames : List Frame}
      (few : frames.length ≤ chunk.count lineFeed + 1) : Sparing (.feed chunk) (.frames frames)
  | finish {text : Option String} : Sparing .finish (.rest text)

variable {limit : Nat} {b : LineBuffer}

theorem retains_fresh (limit : Nat) : Retains limit { limit } where
  limit_eq := rfl
  unended := List.not_mem_nil
  short := Nat.zero_le limit
  skipped _ := rfl

theorem accept_retains (b : LineBuffer) (chunk : List UInt8) :
    Retains b.limit (b.accept chunk).2 := by
  unfold accept
  dsimp only
  split
  · exact ⟨rfl, List.not_mem_nil, Nat.zero_le _, fun _ => rfl⟩
  · rename_i fits
    exact ⟨rfl, (lines_splitLines _).of_tail, Nat.le_of_not_lt fits, nofun⟩

theorem accept_sparing (unended : lineFeed ∉ b.held) (chunk : List UInt8) :
    (b.accept chunk).1.length ≤ chunk.count lineFeed + 1 := by
  have whole : (splitLines (b.held ++ chunk)).1.length = chunk.count lineFeed := by
    rw [(lines_splitLines _).length_eq, List.count_append, List.count_eq_zero_of_not_mem unended,
      Nat.zero_add]
  have reported := List.length_filterMap_le (Frame.ofWholeLine b.limit)
    (splitLines (b.held ++ chunk)).1
  unfold accept
  dsimp only
  split
  · simp only [List.length_append, List.length_singleton]
    omega
  · dsimp only
    omega

namespace Retains

theorem feed (h : Retains limit b) (chunk : List UInt8) :
    Retains limit (b.feed chunk).2 ∧ (b.feed chunk).1.length ≤ chunk.count lineFeed + 1 := by
  obtain rfl := h.limit_eq
  have unended := h.unended
  unfold LineBuffer.feed
  split
  · rcases dropWhile_cases chunk with ⟨left, -, -⟩ | ⟨line, rest, left, -, rfl, -⟩
    · -- The line at hand goes on, and nothing is held of it.
      simp only [left]
      exact ⟨h, Nat.zero_le _⟩
    · -- It ends, and the frames are of what stands behind it.
      simp only [left, List.count_append, List.count_cons_self]
      have few := accept_sparing unended rest
      exact ⟨accept_retains b rest, by omega⟩
  · exact ⟨accept_retains b chunk, accept_sparing unended chunk⟩

/-- The end of a stream makes a buffer fresh, whatever it was about. -/
theorem finish (h : Retains limit b) : (b.act .finish).2 = { limit } := by
  rw [← h.limit_eq]
  rfl

theorem act (h : Retains limit b) (a : Act) :
    Retains limit (b.act a).2 ∧ Sparing a (b.act a).1 := by
  cases a with
  | feed chunk => exact ⟨(h.feed chunk).1, .feed (h.feed chunk).2⟩
  | finish => exact ⟨h.finish ▸ retains_fresh limit, .finish⟩

theorem actAll (h : Retains limit b) (acts : List Act) :
    Retains limit (b.actAll acts).2 ∧ List.Forall₂ Sparing acts (b.actAll acts).1 := by
  induction acts generalizing b with
  | nil => exact ⟨h, .nil⟩
  | cons a rest ih =>
      obtain ⟨kept, sparing⟩ := h.act a
      exact ⟨(ih kept).1, .cons sparing (ih kept).2⟩

end Retains

/-- After any calls of a fresh buffer, what is held has no line end in it, is not over the limit,
and is nothing while a line is passed over; every chunk gave one frame more than lines that ended in
it at most; and once the stream ends, the buffer answers all later calls as a fresh one does. -/
theorem buffer_stays_within_limit (limit : Nat) (acts : List Act) :
    ∃ answers b, ({ limit } : LineBuffer).actAll acts = (answers, b) ∧
      lineFeed ∉ b.held ∧ b.held.length ≤ limit ∧ (b.skipping = true → b.held = []) ∧
      List.Forall₂ Sparing acts answers ∧
      ∀ later, (b.act .finish).2.actAll later = ({ limit } : LineBuffer).actAll later := by
  obtain ⟨kept, sparing⟩ := (retains_fresh limit).actAll acts
  refine ⟨_, _, rfl, kept.unended, kept.short, kept.skipped, sparing, fun later => ?_⟩
  rw [kept.finish]

/-- An end in the middle of a line that is passed over: the next bytes begin a line. -/
example : (({ limit := 4 } : LineBuffer).actAll
      [.feed [49, 50, 51, 52, 53], .finish, .feed [110, 117, 108, 108, lineFeed]]).1 =
    [.frames [.malformed "12345" "line exceeds 4 bytes"], .rest none,
      .frames [.message .null]] := by cbv

end LineBuffer

end RpcLink.Framing
