import Mathlib.Data.List.Forall2
import RpcLink.Proofs.Framing.Lines
import RpcLink.Proofs.Text.Utf8

/-!
What a line buffer reports of a stream, however the stream is cut into chunks. Between two chunks
the buffer is determined by the tail of the stream so far, and a chunk continues that tail. A tail
over the limit is reported at once, so that its line is not reported again when it ends.
-/

namespace RpcLink.Framing

open Text

/-- What is reported of a line: nothing, or one frame. -/
inductive Shows (limit : Nat) (line : List UInt8) : List Frame → Prop where
  /-- The line is over the limit, and so is the beginning of it at which that was found. -/
  | overlong {seen : List UInt8} (beginning : seen <+: line) (long : limit < seen.length) :
      Shows limit line
        [.malformed (preview (String.ofList (Utf8.lossy (seen.take (previewLength * 4)))))
          s!"line exceeds {limit} bytes"]
  /-- The line is no UTF-8. -/
  | broken {fault : Utf8.Fault} (fits : line.length ≤ limit) (noText : ∀ cs, Utf8.encode cs ≠ line)
      (found : Utf8.decode line = .error fault) :
      Shows limit line [.malformed (String.ofList (trimChars (Utf8.lossy line))) fault.message]
  | blank {cs : List Char} (fits : line.length ≤ limit) (text : Utf8.encode cs = line)
      (empty : trimChars cs = []) : Shows limit line []
  | message {cs : List Char} {v : Json} (fits : line.length ≤ limit)
      (text : Utf8.encode cs = line) (notEmpty : trimChars cs ≠ [])
      (parsed : Json.parseChars (trimChars cs) = .ok v) : Shows limit line [.message v]
  | malformed {cs : List Char} {e : Json.ReadError} (fits : line.length ≤ limit)
      (text : Utf8.encode cs = line) (notEmpty : trimChars cs ≠ [])
      (unread : Json.parseChars (trimChars cs) = .error e) :
      Shows limit line [.malformed (String.ofList (trimChars cs)) e.message]

/-- What is reported of a tail: that it is over the limit, if it is. -/
inductive ShowsTail (limit : Nat) (tail : List UInt8) : List Frame → Prop where
  | overlong {seen : List UInt8} (beginning : seen <+: tail) (long : limit < seen.length) :
      ShowsTail limit tail
        [.malformed (preview (String.ofList (Utf8.lossy (seen.take (previewLength * 4)))))
          s!"line exceeds {limit} bytes"]
  | fits (fits : tail.length ≤ limit) : ShowsTail limit tail []

/-- Two frames are the same, but for the text shown of a line over the limit. -/
inductive Alike (limit : Nat) : Frame → Frame → Prop where
  | same (frame : Frame) : Alike limit frame frame
  | overlong (text text' : String) :
      Alike limit (.malformed text s!"line exceeds {limit} bytes")
        (.malformed text' s!"line exceeds {limit} bytes")

/-- What is reported of lines and of the tail behind them. -/
def ShowsStream (limit : Nat) (lines : List (List UInt8)) (tail : List UInt8)
    (frames : List Frame) : Prop :=
  ∃ parts last, frames = parts.flatten ++ last ∧ List.Forall₂ (Shows limit) lines parts ∧
    ShowsTail limit tail last

namespace LineBuffer

/-- Take chunks one after the other. -/
def feedAll (b : LineBuffer) : List (List UInt8) → List Frame × LineBuffer
  | [] => ([], b)
  | chunk :: rest =>
    let (frames, b) := b.feed chunk
    let (more, b) := b.feedAll rest
    (frames ++ more, b)

/-- The buffer behind a stream with a tail. -/
def ofTail (limit : Nat) (tail : List UInt8) : LineBuffer :=
  if limit < tail.length then { limit, skipping := true } else { limit, held := tail }

end LineBuffer

/-! ### What is reported -/

section Shows

variable {limit : Nat} {line tail : List UInt8} {lines : List (List UInt8)}

theorem shows_ofLine (fits : line.length ≤ limit) :
    Shows limit line (Frame.ofLine line).toList := by
  unfold Frame.ofLine
  cases found : Utf8.decode line with
  | error fault =>
      refine .broken fits (fun cs text => ?_) found
      rw [Utf8.decode_eq_ok_iff.mpr text] at found
      cases found
  | ok cs =>
      have text := Utf8.decode_eq_ok_iff.mp found
      dsimp only
      cases trimmed : trimChars cs with
      | nil => exact .blank fits text trimmed
      | cons c rest =>
          have notEmpty : trimChars cs ≠ [] := by simp [trimmed]
          dsimp only
          cases parsed : Json.parseChars (c :: rest) with
          | ok v =>
              rw [← trimmed] at parsed
              exact .message fits text notEmpty parsed
          | error e =>
              rw [← trimmed] at parsed ⊢
              exact .malformed fits text notEmpty parsed

theorem shows_ofWholeLine (limit : Nat) (line : List UInt8) :
    Shows limit line (Frame.ofWholeLine limit line).toList := by
  unfold Frame.ofWholeLine
  split
  · rename_i long
    exact .overlong List.prefix_rfl long
  · rename_i fits
    exact shows_ofLine (Nat.le_of_not_lt fits)

/-- A line within the limit has one report. -/
theorem Shows.eq_of_fits {frames : List Frame} (h : Shows limit line frames)
    (fits : line.length ≤ limit) : frames = (Frame.ofLine line).toList := by
  have nonempty : ∀ {cs : List Char}, cs ≠ [] → ∃ c rest, cs = c :: rest :=
    fun notEmpty => List.exists_cons_of_ne_nil notEmpty
  cases h with
  | overlong beginning long =>
      have := beginning.length_le
      omega
  | broken _ _ found => simp [Frame.ofLine, found]
  | blank _ text empty => simp [Frame.ofLine, Utf8.decode_eq_ok_iff.mpr text, empty]
  | message _ text notEmpty parsed =>
      obtain ⟨c, rest, trimmed⟩ := nonempty notEmpty
      rw [trimmed] at parsed
      simp [Frame.ofLine, Utf8.decode_eq_ok_iff.mpr text, trimmed, parsed]
  | malformed _ text notEmpty unread =>
      obtain ⟨c, rest, trimmed⟩ := nonempty notEmpty
      rw [trimmed] at unread ⊢
      simp [Frame.ofLine, Utf8.decode_eq_ok_iff.mpr text, trimmed, unread]

theorem Shows.of_overlong {frames : List Frame} (h : Shows limit line frames)
    (long : limit < line.length) :
    ∃ text, frames = [.malformed text s!"line exceeds {limit} bytes"] := by
  cases h with
  | overlong beginning _ => exact ⟨_, rfl⟩
  | broken fits _ _ => omega
  | blank fits _ _ => omega
  | message fits _ _ _ => omega
  | malformed fits _ _ _ => omega

/-- Two reports of a line are alike. -/
theorem Shows.alike {frames frames' : List Frame} (h : Shows limit line frames)
    (h' : Shows limit line frames') : List.Forall₂ (Alike limit) frames frames' := by
  by_cases fits : line.length ≤ limit
  · rw [h.eq_of_fits fits, h'.eq_of_fits fits]
    exact List.forall₂_same.mpr fun frame _ => .same frame
  · have long := Nat.lt_of_not_le fits
    obtain ⟨text, rfl⟩ := h.of_overlong long
    obtain ⟨text', rfl⟩ := h'.of_overlong long
    exact .cons (.overlong text text') .nil

theorem ShowsTail.eq_nil {frames : List Frame} (h : ShowsTail limit [] frames) : frames = [] := by
  cases h with
  | overlong beginning long =>
      have := beginning.length_le
      rw [List.length_nil] at this
      omega
  | fits _ => rfl

theorem ShowsTail.alike {frames frames' : List Frame} (h : ShowsTail limit tail frames)
    (h' : ShowsTail limit tail frames') : List.Forall₂ (Alike limit) frames frames' := by
  cases h with
  | overlong beginning long =>
      cases h' with
      | overlong _ _ => exact .cons (.overlong _ _) .nil
      | fits fits =>
          have := beginning.length_le
          omega
  | fits fits =>
      cases h' with
      | overlong beginning long =>
          have := beginning.length_le
          omega
      | fits _ => exact .nil

theorem alike_flatten {parts parts' : List (List Frame)}
    (h : List.Forall₂ (Shows limit) lines parts) (h' : List.Forall₂ (Shows limit) lines parts') :
    List.Forall₂ (Alike limit) parts.flatten parts'.flatten := by
  induction h generalizing parts' with
  | nil =>
      cases h'
      exact .nil
  | cons first _ ih =>
      cases h' with
      | cons first' rest' => exact List.rel_append (first.alike first') (ih rest')

/-- Two reports of a stream are alike. -/
theorem ShowsStream.alike {frames frames' : List Frame} (h : ShowsStream limit lines tail frames)
    (h' : ShowsStream limit lines tail frames') : List.Forall₂ (Alike limit) frames frames' := by
  obtain ⟨parts, last, rfl, each, end_⟩ := h
  obtain ⟨parts', last', rfl, each', end_'⟩ := h'
  exact List.rel_append (alike_flatten each each') (end_.alike end_')

end Shows

namespace LineBuffer

variable {limit : Nat} {lines : List (List UInt8)} {tail tail' chunk : List UInt8}

/-! ### Chunks -/

/-- Bytes that continue what is held are divided into lines, and each of them is reported. -/
theorem accept_of_lines (limit : Nat) (held : List UInt8) (skipping : Bool)
    (h : Lines (held ++ chunk) lines tail) :
    ∃ parts last, ({ limit, held, skipping } : LineBuffer).accept chunk =
        (parts.flatten ++ last, ofTail limit tail) ∧
      List.Forall₂ (Shows limit) lines parts ∧ ShowsTail limit tail last := by
  refine ⟨lines.map fun line => (Frame.ofWholeLine limit line).toList,
    if limit < tail.length then [.overlong limit tail] else [], ?_, ?_, ?_⟩
  · unfold accept ofTail
    simp only [h.splitLines_eq, List.filterMap_eq_flatMap_toList, List.flatMap_def]
    split
    · rfl
    · rw [List.append_nil]
  · exact List.forall₂_map_right_iff.mpr
      (List.forall₂_same.mpr fun line _ => shows_ofWholeLine limit line)
  · split
    · rename_i long
      exact .overlong List.prefix_rfl long
    · rename_i fits
      exact .fits (Nat.le_of_not_lt fits)

/-- A chunk continues the tail of the stream. What was reported of the tail counts for the line that
it becomes the beginning of. -/
theorem feed_of_lines {last : List Frame} (noEnd : lineFeed ∉ tail)
    (shown : ShowsTail limit tail last) (h : Lines (tail ++ chunk) lines tail') :
    ∃ frames, (ofTail limit tail).feed chunk = (frames, ofTail limit tail') ∧
      ShowsStream limit lines tail' (last ++ frames) := by
  cases shown with
  | fits fits =>
      have state : ofTail limit tail = { limit, held := tail } := if_neg (Nat.not_lt.mpr fits)
      obtain ⟨parts, last, accepted, each, end_⟩ := accept_of_lines limit tail false h
      rw [state]
      exact ⟨_, accepted, parts, last, rfl, each, end_⟩
  | @overlong seen beginning long =>
      have tailLong : limit < tail.length := Nat.lt_of_lt_of_le long beginning.length_le
      have state : ofTail limit tail = { limit, skipping := true } := if_pos tailLong
      rw [state]
      unfold feed
      rcases dropWhile_cases chunk with ⟨left, -, within⟩ | ⟨line, rest, left, -, rfl, within⟩
      · -- The line goes on.
        have noEnd' : lineFeed ∉ tail ++ chunk := by simp [noEnd, within]
        obtain ⟨rfl, rfl⟩ := h.unique (.of_not_mem noEnd')
        have state' : ofTail limit (tail ++ chunk) = { limit, skipping := true } :=
          if_pos (Nat.lt_of_lt_of_le tailLong (by simp))
        refine ⟨[], by simp [left, state'], [], _, rfl, .nil, ?_⟩
        exact .overlong (beginning.trans (List.prefix_append _ _)) long
      · -- The line ends, and was reported already.
        have divided := lines_splitLines rest
        have noEnd' : lineFeed ∉ tail ++ line := by simp [noEnd, within]
        have whole := divided.cons noEnd'
        rw [List.append_assoc] at whole
        obtain ⟨rfl, rfl⟩ := h.unique whole
        obtain ⟨parts, last, accepted, each, end_⟩ := accept_of_lines limit [] true divided
        have reported := Shows.overlong (beginning.trans (List.prefix_append tail line)) long
        refine ⟨parts.flatten ++ last, by simp [left, accepted], _ :: parts, last, ?_,
          .cons reported each, end_⟩
        rw [List.flatten_cons, List.append_assoc]

/-- Chunks continue the tail of the stream. -/
theorem feedAll_of_lines {last : List Frame} {chunks : List (List UInt8)}
    (noEnd : lineFeed ∉ tail) (shown : ShowsTail limit tail last)
    (h : Lines (tail ++ chunks.flatten) lines tail') :
    ∃ frames, (ofTail limit tail).feedAll chunks = (frames, ofTail limit tail') ∧
      ShowsStream limit lines tail' (last ++ frames) := by
  induction chunks generalizing tail last lines with
  | nil =>
      rw [List.flatten_nil, List.append_nil] at h
      obtain ⟨rfl, rfl⟩ := h.unique (.of_not_mem noEnd)
      exact ⟨[], rfl, [], last, by simp, .nil, shown⟩
  | cons chunk rest ih =>
      have divided := lines_splitLines (tail ++ chunk)
      obtain ⟨frames, fed, parts, last', shape, each, end_⟩ := feed_of_lines noEnd shown divided
      have further := lines_splitLines ((splitLines (tail ++ chunk)).2 ++ rest.flatten)
      have total := divided.append further
      rw [List.append_assoc, ← List.flatten_cons] at total
      obtain ⟨rfl, rfl⟩ := h.unique total
      obtain ⟨more, fedRest, parts', last'', shape', each', end_'⟩ :=
        ih divided.of_tail end_ further
      refine ⟨frames ++ more, by simp only [feedAll, fed, fedRest], parts ++ parts', last'', ?_,
        List.rel_append each each', end_'⟩
      rw [← List.append_assoc, shape, List.append_assoc, shape', List.flatten_append,
        List.append_assoc]

/-- Of lines with nothing behind them, each is reported, and nothing is held afterwards. -/
theorem feedAll_of_whole_lines (limit : Nat) {chunks : List (List UInt8)}
    (stream : chunks.flatten = lines.flatMap (· ++ [lineFeed]))
    (noEnd : ∀ line ∈ lines, lineFeed ∉ line) :
    ∃ parts, feedAll { limit } chunks = (parts.flatten, { limit }) ∧
      List.Forall₂ (Shows limit) lines parts := by
  have divided : Lines chunks.flatten lines [] :=
    ⟨by rw [stream, List.append_nil], noEnd, List.not_mem_nil⟩
  obtain ⟨frames, fed, parts, last, shape, each, end_⟩ :=
    feedAll_of_lines List.not_mem_nil (.fits (Nat.zero_le limit)) divided
  rw [end_.eq_nil, List.append_nil, List.nil_append] at shape
  exact ⟨parts, shape ▸ fed, each⟩

/-- However a stream is cut into chunks, what is reported of it is what is reported of its lines one
by one and then of its tail, and the buffer holds the tail afterwards unless that is over the limit.
Two ways of cutting a stream lead to the same buffer, and to the same frames but for the text that
is shown of lines over the limit. -/
theorem feedAll_shows_lines (limit : Nat) (chunks : List (List UInt8)) :
    ∃ frames b lines tail, feedAll { limit } chunks = (frames, b) ∧
      Lines chunks.flatten lines tail ∧ ShowsStream limit lines tail frames ∧
      b.held = (if tail.length ≤ limit then tail else []) ∧
      b.held.length = (if tail.length ≤ limit then tail.length else 0) ∧
      b.finish.1 =
        (if trimChars (Utf8.lossy b.held) = [] then none
          else some (String.ofList (trimChars (Utf8.lossy b.held)))) ∧
      ∀ others : List (List UInt8), others.flatten = chunks.flatten →
        ∃ frames', feedAll { limit } others = (frames', b) ∧
          List.Forall₂ (Alike limit) frames' frames := by
  have noEnd : lineFeed ∉ ([] : List UInt8) := by simp
  have reports : ∀ {others lines tail}, Lines (List.flatten others) lines tail →
      ∃ frames, feedAll { limit } others = (frames, ofTail limit tail) ∧
        ShowsStream limit lines tail frames :=
    fun h => feedAll_of_lines noEnd (.fits (Nat.zero_le limit)) h
  have divided := lines_splitLines chunks.flatten
  obtain ⟨frames, fed, shown⟩ := reports divided
  refine ⟨frames, _, _, _, fed, divided, shown, ?_, ?_, by simp [finish], fun others same => ?_⟩
  · unfold ofTail
    split
    · rename_i long
      rw [if_neg (Nat.not_le.mpr long)]
    · rename_i fits
      rw [if_pos (Nat.not_lt.mp fits)]
  · unfold ofTail
    split
    · rename_i long
      rw [if_neg (Nat.not_le.mpr long)]
      rfl
    · rename_i fits
      rw [if_pos (Nat.not_lt.mp fits)]
  · rw [← same] at divided shown ⊢
    obtain ⟨frames', fed', shown'⟩ := reports divided
    exact ⟨frames', fed', shown'.alike shown⟩

/-- What is shown of a line over the limit are the bytes of it that had arrived. -/
example : (feedAll { limit := 1 } [[97, 98], [99, lineFeed]]).1 =
    [.malformed "ab" "line exceeds 1 bytes"] := by cbv

example : (feedAll { limit := 1 } [[97, 98, 99, lineFeed]]).1 =
    [.malformed "abc" "line exceeds 1 bytes"] := by cbv

end LineBuffer

end RpcLink.Framing
