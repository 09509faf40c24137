import RpcLink.Pipe.Channel
import RpcLink.Proofs.Exchange.Closing
import RpcLink.Proofs.Framing.LineBuffer
import RpcLink.Proofs.Pipe.Watching

/-!
What a server writes beside the responses that are waited for. Such a line may stand anywhere
between two others: it is noted at most once, and otherwise the calls, the channel and the notes on
the other lines are what they are without it. Line for line, the two outputs lead from one
switchboard to the same switchboard again, but for what is noted; that is the invariant behind the
comparison.
-/

namespace RpcLink.Pipe

open Framing Text

/-- A line that a server writes. -/
inductive Entry where
  /-- It belongs to the output in any case. -/
  | kept (line : List UInt8)
  /-- It may be left out. -/
  | inserted (line : List UInt8)

def Entry.line : Entry → List UInt8
  | .kept line | .inserted line => line

def Entry.kept? : Entry → Option (List UInt8)
  | .kept line => some line
  | .inserted _ => none

/-- A line holds nothing but blanks, if anything. -/
def Blank (line : List UInt8) : Prop :=
  ∃ cs, Utf8.encode cs = line ∧ trimChars cs = []

/-- A line holds a response. -/
def Holds (line : List UInt8) (r : Response) : Prop :=
  ∃ cs v, Utf8.encode cs = line ∧ Json.parseChars (trimChars cs) = .ok v ∧
    Response.ofFrame v = .ok r

/-- A line is over the limit, or no response to a call that waits. -/
def Noise (limit : Nat) (waiting : List (UInt64 × Nat)) (line : List UInt8) : Prop :=
  ∀ r id, line.length ≤ limit → Holds line r → r.id = some id → ∀ call, (id, call) ∉ waiting

/-- What is noted of a line that no call waits for. -/
structure Told (limit : Nat) (line : List UInt8) (told : List Observation) : Prop where
  blank : line.length ≤ limit → Blank line → told = []
  response : ∀ r, line.length ≤ limit → Holds line r → told = [.unmatched r.id]
  other : (line.length ≤ limit → ¬ Blank line ∧ ∀ r, ¬ Holds line r) →
    ∃ text error, told = [.malformed text error] ∧ text.length ≤ 200

/-- What is noted of a line where the insertions are left out, and where they are not. Of a line
over the limit that belongs to the output, different beginnings may have been seen. -/
inductive Noted (limit : Nat) : Entry → List Observation × List Observation → Prop where
  | kept (line : List UInt8) (told : List Observation) : Noted limit (.kept line) (told, told)
  | overlong {line : List UInt8} (long : limit < line.length) (text text' error : String) :
      Noted limit (.kept line) ([.malformed text error], [.malformed text' error])
  | inserted {line : List UInt8} {told : List Observation} (only : Told limit line told) :
      Noted limit (.inserted line) ([], told)

/-- The server writes bytes, one chunk after the other. -/
def Channel.hear (ch : Channel) (x : Nat) (b : Switchboard) :
    List (List UInt8) → Channel × Switchboard
  | [] => (ch, b)
  | bytes :: rest =>
    let (ch, b) := ch.step x b (.output bytes)
    ch.hear x b rest

/-- Frames lead from a switchboard to another, whatever was noted before, and some things are noted
on the way. -/
def Leads (x : Nat) (frames : List Frame) (b b' : Switchboard) (told : List Observation) : Prop :=
  ∀ log, { b with log }.dispatchAll x frames = { b' with log := log ++ told }

/-! ### Lines -/

section Lines

variable {line : List UInt8} {cs : List Char}

theorem blank_iff (text : Utf8.encode cs = line) : Blank line ↔ trimChars cs = [] := by
  refine ⟨fun ⟨ds, text', empty⟩ => ?_, fun empty => ⟨cs, text, empty⟩⟩
  obtain rfl := Utf8.encode_injective (text'.trans text.symm)
  exact empty

theorem holds_iff (text : Utf8.encode cs = line) {r : Response} :
    Holds line r ↔ ∃ v, Json.parseChars (trimChars cs) = .ok v ∧ Response.ofFrame v = .ok r := by
  refine ⟨fun ⟨ds, v, text', parsed, read⟩ => ?_,
    fun ⟨v, parsed, read⟩ => ⟨cs, v, text, parsed, read⟩⟩
  obtain rfl := Utf8.encode_injective (text'.trans text.symm)
  exact ⟨v, parsed, read⟩

theorem not_holds_of_empty (text : Utf8.encode cs = line) (empty : trimChars cs = [])
    (r : Response) : ¬ Holds line r := by
  rw [holds_iff text, empty]
  rintro ⟨v, parsed, -⟩
  cases parsed

/-- Whether a line holds a response can be told from its frame. -/
theorem holds_iff_ofLine {r : Response} :
    Holds line r ↔ ∃ v, Frame.ofLine line = some (.message v) ∧ Response.ofFrame v = .ok r := by
  have shown := shows_ofLine (Nat.le_refl line.length)
  refine ⟨fun held => ?_, fun ⟨v, framed, read⟩ => ?_⟩
  · obtain ⟨cs, v, text, parsed, read⟩ := held
    have notEmpty : trimChars cs ≠ [] :=
      fun empty => not_holds_of_empty text empty r ⟨cs, v, text, parsed, read⟩
    have message := (Shows.message (Nat.le_refl _) text notEmpty parsed).eq_of_fits (Nat.le_refl _)
    exact ⟨v, Option.toList_eq_singleton_iff.mp message.symm, read⟩
  · rw [framed] at shown
    cases shown with
    | message _ text _ parsed => exact ⟨_, v, text, parsed, read⟩

/-- The number of the call that a line would answer. -/
def answered? (line : List UInt8) : Option UInt64 :=
  match Frame.ofLine line with
  | some (.message v) =>
    match Response.ofFrame v with
    | .ok r => r.id
    | .error _ => none
  | _ => none

theorem answered?_eq_some_iff {id : UInt64} :
    answered? line = some id ↔ ∃ r, Holds line r ∧ r.id = some id := by
  simp only [holds_iff_ofLine, answered?]
  constructor
  · intro found
    split at found
    · rename_i v framed
      split at found
      · rename_i r read
        exact ⟨r, ⟨v, framed, read⟩, found⟩
      · cases found
    · cases found
  · rintro ⟨r, ⟨v, framed, read⟩, number⟩
    simp only [framed, read, number]

instance (limit : Nat) (waiting : List (UInt64 × Nat)) (line : List UInt8) :
    Decidable (Noise limit waiting line) :=
  decidable_of_iff
    (line.length ≤ limit → ∀ w ∈ waiting, answered? line ≠ some w.1) <| by
      refine ⟨fun h r id fits held number call member => ?_, fun h fits w member found => ?_⟩
      · exact h fits _ member (answered?_eq_some_iff.mpr ⟨r, held, number⟩)
      · obtain ⟨r, held, number⟩ := answered?_eq_some_iff.mp found
        exact h r _ fits held number w.2 member

end Lines

theorem length_preview_le (s : String) : (preview s).length ≤ 200 := by
  rw [preview, takeChars, String.length_ofList, List.length_take]
  exact Nat.min_le_left ..

/-! ### Frames -/

theorem dispatchAll_append (b : Switchboard) (x : Nat) (frames more : List Frame) :
    b.dispatchAll x (frames ++ more) = (b.dispatchAll x frames).dispatchAll x more :=
  List.foldl_append

namespace Leads

variable {x : Nat} {b b' b'' : Switchboard}

theorem nil (x : Nat) (b : Switchboard) : Leads x [] b b [] :=
  fun log => by rw [List.append_nil]; rfl

theorem append {frames more : List Frame} {told further : List Observation}
    (first : Leads x frames b b' told) (second : Leads x more b' b'' further) :
    Leads x (frames ++ more) b b'' (told ++ further) := by
  intro log
  rw [dispatchAll_append, first log, second (log ++ told), List.append_assoc]

theorem malformed (x : Nat) (b : Switchboard) (text error : String) :
    Leads x [.malformed text error] b b [.malformed (preview text) error] :=
  fun _ => rfl

theorem refused (x : Nat) (b : Switchboard) {v : Json} {e : Failure}
    (read : Response.ofFrame v = .error e) :
    Leads x [.message v] b b [.malformed (preview v.compact) e.message] := by
  intro log
  show Switchboard.dispatch _ x (.message v) = _
  rw [Switchboard.dispatch, read]
  rfl

theorem unmatched {v : Json} {r : Response} (read : Response.ofFrame v = .ok r)
    (absent : ∀ id k, r.id = some id → (id, k) ∉ (b.exchange x).waiting) :
    Leads x [.message v] b b [.unmatched r.id] := by
  intro log
  show Switchboard.dispatch _ x (.message v) = _
  rw [Switchboard.dispatch, read]
  show (Switchboard.deliver _ x r).2 = _
  rw [Switchboard.deliver_of_not_mem (b := { b with log }) absent]
  rfl

theorem answered {v : Json} {r : Response} {id : UInt64} {k : Nat}
    (read : Response.ofFrame v = .ok r) (number : r.id = some id)
    (found : (b.exchange x).waiting.lookup id = some k) :
    Leads x [.message v] b (b.deliver x r).2 [] := by
  intro log
  show Switchboard.dispatch _ x (.message v) = _
  rw [Switchboard.dispatch, read]
  show (Switchboard.deliver _ x r).2 = _
  rw [Switchboard.deliver_of_lookup (b := { b with log }) number found,
    Switchboard.deliver_of_lookup number found, List.append_nil]
  rfl

/-- What was noted before has no influence on what becomes of a frame. -/
theorem exists_of_frame (x : Nat) (b : Switchboard) (frame : Frame) :
    ∃ b' told, Leads x [frame] b b' told ∧ Switchboard.Shrinks b b' := by
  have same : Switchboard.Shrinks b b := .of_exchanges_eq rfl rfl
  cases frame with
  | malformed text error => exact ⟨b, _, malformed x b text error, same⟩
  | message v =>
      cases read : Response.ofFrame v with
      | error e => exact ⟨b, _, refused x b read, same⟩
      | ok r =>
          cases found : r.id.bind fun id => (b.exchange x).waiting.lookup id with
          | none =>
              refine ⟨b, _, unmatched read fun id k number member => ?_, same⟩
              rw [number, Option.bind_some] at found
              exact Exchange.not_mem_of_lookup_none found k member
          | some k =>
              obtain ⟨id, number, waits⟩ := Option.bind_eq_some_iff.mp found
              exact ⟨_, [], answered read number waits, b.shrinks_deliver x r⟩

end Leads

/-! ### One line -/

section Line

variable {limit x : Nat} {b : Switchboard} {line : List UInt8} {frames frames' : List Frame}

/-- A line that belongs to both outputs does the same in both. -/
theorem leads_kept (x : Nat) (b : Switchboard) (shown : Shows limit line frames)
    (shown' : Shows limit line frames') :
    ∃ b' told told', Leads x frames b b' told ∧ Leads x frames' b b' told' ∧
      Switchboard.Shrinks b b' ∧ Noted limit (.kept line) (told, told') := by
  have same : Switchboard.Shrinks b b := .of_exchanges_eq rfl rfl
  by_cases fits : line.length ≤ limit
  · rw [shown.eq_of_fits fits, shown'.eq_of_fits fits]
    cases Frame.ofLine line with
    | none => exact ⟨b, [], [], .nil x b, .nil x b, same, .kept line []⟩
    | some frame =>
        obtain ⟨b', told, leads, fewer⟩ := Leads.exists_of_frame x b frame
        exact ⟨b', told, told, leads, leads, fewer, .kept line told⟩
  · have long := Nat.lt_of_not_le fits
    obtain ⟨text, rfl⟩ := shown.of_overlong long
    obtain ⟨text', rfl⟩ := shown'.of_overlong long
    exact ⟨b, _, _, .malformed x b text _, .malformed x b text' _, same, .overlong long ..⟩

/-- A line that no call waits for leads nowhere. -/
theorem leads_inserted (shown : Shows limit line frames)
    (noise : Noise limit (b.exchange x).waiting line) :
    ∃ told, Leads x frames b b told ∧ Told limit line told := by
  cases shown with
  | overlong beginning long =>
      have tooLong : ¬ line.length ≤ limit :=
        Nat.not_le.mpr (Nat.lt_of_lt_of_le long beginning.length_le)
      exact ⟨_, .malformed x b _ _, fun fits => absurd fits tooLong,
        fun _ fits => absurd fits tooLong, fun _ => ⟨_, _, rfl, length_preview_le _⟩⟩
  | broken fits noText found =>
      exact ⟨_, .malformed x b _ _, fun _ ⟨cs, text, _⟩ => absurd text (noText cs),
        fun _ _ ⟨cs, _, text, _⟩ => absurd text (noText cs),
        fun _ => ⟨_, _, rfl, length_preview_le _⟩⟩
  | blank fits text empty =>
      exact ⟨[], .nil x b, fun _ _ => rfl,
        fun r _ holds => absurd holds (not_holds_of_empty text empty r),
        fun neither => absurd ((blank_iff text).mpr empty) (neither fits).1⟩
  | malformed fits text notEmpty unread =>
      refine ⟨_, .malformed x b _ _, fun _ blank => absurd ((blank_iff text).mp blank) notEmpty,
        fun r _ holds => ?_, fun _ => ⟨_, _, rfl, length_preview_le _⟩⟩
      obtain ⟨v, parsed, -⟩ := (holds_iff text).mp holds
      rw [unread] at parsed
      cases parsed
  | @message cs v fits text notEmpty parsed =>
      have notBlank : ¬ Blank line := fun blank => notEmpty ((blank_iff text).mp blank)
      have holds : ∀ r, Holds line r ↔ Response.ofFrame v = .ok r := by
        intro r
        rw [holds_iff text, parsed]
        exact ⟨fun ⟨_, same, read⟩ => Except.ok.inj same ▸ read, fun read => ⟨v, rfl, read⟩⟩
      cases read : Response.ofFrame v with
      | error e =>
          refine ⟨_, .refused x b read, fun _ blank => absurd blank notBlank, fun r _ held => ?_,
            fun _ => ⟨_, _, rfl, length_preview_le _⟩⟩
          rw [holds, read] at held
          cases held
      | ok r =>
          have held := (holds r).mpr read
          refine ⟨_, .unmatched read fun id call number => noise r id fits held number call,
            fun _ blank => absurd blank notBlank, fun r' _ held' => ?_,
            fun neither => absurd held ((neither fits).2 r)⟩
          rw [holds, read] at held'
          rw [Except.ok.inj held']

end Line

/-! ### Whole outputs -/

/-- What is noise stays noise when calls have left the channel. -/
theorem Noise.of_shrinks {limit x : Nat} {b b' : Switchboard} {line : List UInt8}
    (noise : Noise limit (b.exchange x).waiting line) (fewer : Switchboard.Shrinks b b') :
    Noise limit (b'.exchange x).waiting line := by
  intro r id fits held number call member
  obtain ⟨waiting, sub, shape⟩ := fewer.exchange_eq x
  rw [shape] at member
  exact noise r id fits held number call (sub.mem member)

/-- Line for line, the output leads to the same switchboard with its insertions and without. -/
theorem leads_entries {limit x : Nat} {b : Switchboard} {entries : List Entry}
    {parts parts' : List (List Frame)}
    (each : List.Forall₂ (Shows limit) (entries.filterMap Entry.kept?) parts)
    (each' : List.Forall₂ (Shows limit) (entries.map Entry.line) parts')
    (noise : ∀ line, .inserted line ∈ entries → Noise limit (b.exchange x).waiting line) :
    ∃ b' notes, Leads x parts.flatten b b' (notes.flatMap Prod.fst) ∧
      Leads x parts'.flatten b b' (notes.flatMap Prod.snd) ∧
      Switchboard.Shrinks b b' ∧ List.Forall₂ (Noted limit) entries notes := by
  -- A kept line takes both runs to a further switchboard, so the induction is over all of them, and
  -- what is inserted later has to be noise there too.
  induction entries generalizing b parts parts' with
  | nil =>
      cases each
      cases each'
      exact ⟨b, [], .nil x b, .nil x b, .of_exchanges_eq rfl rfl, .nil⟩
  | cons entry entries ih =>
      obtain ⟨frames', parts', shown', later', rfl⟩ := List.forall₂_cons_left_iff.mp each'
      cases entry with
      | kept line =>
          obtain ⟨frames, parts, shown, later, rfl⟩ := List.forall₂_cons_left_iff.mp each
          obtain ⟨b₁, told, told', leads, leads', fewer, noted⟩ := leads_kept x b shown shown'
          obtain ⟨b', notes, further, further', fewer', all⟩ := ih later later' fun line member =>
            (noise line (List.mem_cons_of_mem _ member)).of_shrinks fewer
          exact ⟨b', (told, told') :: notes, leads.append further, leads'.append further',
            fewer.trans fewer', .cons noted all⟩
      | inserted line =>
          obtain ⟨told, leads', only⟩ := leads_inserted shown' (noise line List.mem_cons_self)
          obtain ⟨b', notes, further, further', fewer, all⟩ := ih each later' fun line member =>
            noise line (List.mem_cons_of_mem _ member)
          exact ⟨b', ([], told) :: notes, further, leads'.append further', fewer,
            .cons (.inserted only) all⟩

namespace Channel

/-- The chunks go through the buffer, and the frames to the calls. -/
theorem hear_eq {ch : Channel} {buffer : LineBuffer} (x : Nat) (b : Switchboard)
    (chunks : List (List UInt8)) (reads : ch.watch = .reading buffer) :
    ch.hear x b chunks = ({ ch with watch := .reading (buffer.feedAll chunks).2 },
      b.dispatchAll x (buffer.feedAll chunks).1) := by
  induction chunks generalizing ch buffer b with
  | nil =>
      rw [hear, LineBuffer.feedAll, ← reads]
      rfl
  | cons bytes rest ih =>
      rw [hear, step_output reads, LineBuffer.feedAll, dispatchAll_append]
      exact ih _ rfl

/-- Lines that are no response to a call that waits have no influence on the calls. Wherever they
stand between the lines that a server writes, and however both outputs are cut into chunks, the same
calls wait afterwards, the same ones are resolved and by the same responses, the channel is open,
and nothing is held of a line. Nothing is noted of an inserted line that is blank, its number of one
that holds a response, and a beginning of any other; what is noted of the other lines is noted in
either case, but for the beginning that is shown of one over the limit. -/
theorem noise_leaves_calls_alone {ch : Channel} {x limit : Nat} {b : Switchboard}
    {entries : List Entry} {chunks chunks' : List (List UInt8)}
    (reads : ch.watch = .reading { limit }) (opened : (b.exchange x).isOpen)
    (noEnd : ∀ entry ∈ entries, lineFeed ∉ entry.line)
    (noise : ∀ line, .inserted line ∈ entries → Noise limit (b.exchange x).waiting line)
    (stream : chunks.flatten = (entries.filterMap Entry.kept?).flatMap (· ++ [lineFeed]))
    (stream' : chunks'.flatten = (entries.map Entry.line).flatMap (· ++ [lineFeed])) :
    ∃ (b' : Switchboard) (notes : List (List Observation × List Observation)),
      ch.hear x b chunks = (ch, { b' with log := b.log ++ notes.flatMap Prod.fst }) ∧
      ch.hear x b chunks' = (ch, { b' with log := b.log ++ notes.flatMap Prod.snd }) ∧
      (b'.exchange x).isOpen ∧ List.Forall₂ (Noted limit) entries notes := by
  have noEnd' : ∀ line ∈ entries.map Entry.line, lineFeed ∉ line := List.forall_mem_map.mpr noEnd
  have keptEnd : ∀ line ∈ entries.filterMap Entry.kept?, lineFeed ∉ line := by
    intro line member
    obtain ⟨entry, among, kept⟩ := List.mem_filterMap.mp member
    cases entry with
    | kept line' => exact Option.some.inj kept ▸ noEnd _ among
    | inserted => cases kept
  obtain ⟨parts, fed, each⟩ := LineBuffer.feedAll_of_whole_lines limit stream keptEnd
  obtain ⟨parts', fed', each'⟩ := LineBuffer.feedAll_of_whole_lines limit stream' noEnd'
  obtain ⟨b', notes, leads, leads', fewer, noted⟩ := leads_entries each each' noise
  have unchanged : { ch with watch := .reading { limit } } = ch := by rw [← reads]
  refine ⟨b', notes, ?_, ?_, ?_, noted⟩
  · rw [hear_eq x b chunks reads, fed, unchanged, leads b.log]
  · rw [hear_eq x b chunks' reads, fed', unchanged, leads' b.log]
  · rw [Exchange.isOpen, fewer.closed_eq]
    exact opened

/-- A blank line, a byte that is no text, a response for nobody and one over the limit stand around
the answer to a call, and both outputs are cut inside of lines. -/
theorem noise_around_an_answer :
    let ch : Channel := { program := "p", watch := .reading { limit := 20 } }
    let b : Switchboard :=
      { next := 2, exchanges := [{ waiting := [(1, 0)] }], calls := [{ exchange := 0, id := 1 }] }
    let answer := Utf8.ofString "\x7b\"id\":1,\"result\":0\x7d"
    let stray := Utf8.ofString "\x7b\"id\":7,\"result\":0\x7d"
    let entries : List Entry := [.inserted [0x20, 0x09], .inserted [0xFF], .inserted stray,
      .kept answer, .inserted (answer ++ [0x20, 0x20])]
    let chunks := [answer.take 4, answer.drop 4, [lineFeed]]
    let chunks' := [[0x20, 0x09, lineFeed, 0xFF], [lineFeed] ++ stray ++ [lineFeed] ++ answer,
      [lineFeed] ++ answer ++ [0x20, 0x20], [lineFeed]]
    (b.exchange 0).isOpen ∧ (∀ entry ∈ entries, lineFeed ∉ entry.line) ∧
      (∀ line, .inserted line ∈ entries → Noise 20 (b.exchange 0).waiting line) ∧
      chunks.flatten = (entries.filterMap Entry.kept?).flatMap (· ++ [lineFeed]) ∧
      chunks'.flatten = (entries.map Entry.line).flatMap (· ++ [lineFeed]) ∧
      ∃ (b' : Switchboard) (notes : List (List Observation × List Observation)),
        ch.hear 0 b chunks = (ch, { b' with log := b.log ++ notes.flatMap Prod.fst }) ∧
        ch.hear 0 b chunks' = (ch, { b' with log := b.log ++ notes.flatMap Prod.snd }) ∧
        (b'.exchange 0).isOpen ∧ List.Forall₂ (Noted 20) entries notes := by
  intro ch b answer stray entries chunks chunks'
  have opened : (b.exchange 0).isOpen := rfl
  have noEnd : ∀ entry ∈ entries, lineFeed ∉ entry.line := by decide +kernel
  have noise : ∀ line, .inserted line ∈ entries → Noise 20 (b.exchange 0).waiting line := by
    intro line member
    simp only [entries, List.mem_cons, Entry.inserted.injEq, reduceCtorEq, false_or,
      List.not_mem_nil, or_false] at member
    rcases member with rfl | rfl | rfl | rfl
    all_goals decide +kernel
  have stream : chunks.flatten = (entries.filterMap Entry.kept?).flatMap (· ++ [lineFeed]) := by
    decide +kernel
  have stream' : chunks'.flatten = (entries.map Entry.line).flatMap (· ++ [lineFeed]) := by
    decide +kernel
  exact ⟨opened, noEnd, noise, stream, stream',
    noise_leaves_calls_alone rfl opened noEnd noise stream stream'⟩

end Channel

end RpcLink.Pipe
