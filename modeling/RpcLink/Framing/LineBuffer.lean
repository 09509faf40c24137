import RpcLink.Json.Reader
import RpcLink.Text.Blank

/-!
Splitting a stream of bytes into lines, each of which is one JSON value. The bytes arrive in
chunks that may end anywhere. A line over the limit is reported and passed over, so that no more
bytes are held than the limit allows.
-/

namespace RpcLink.Framing

/-- What a line or a packet holds. -/
inductive Frame where
  | message (value : Json)
  /-- No JSON: the text, perhaps shortened, and what is wrong with it. -/
  | malformed (text error : String)
deriving DecidableEq

/-- How many characters of a malformed frame are reported. -/
def previewLength : Nat := 200

/-- The beginning of a text, for a report. -/
def preview (s : String) : String := Text.takeChars previewLength s

/-- The number of bytes that a line or a packet may have, unless one is configured. -/
def defaultLimit : Nat := 16777216

/-- The byte that ends a line. -/
def lineFeed : UInt8 := 0x0A

/-- The frame of a line within the limit; a blank line holds none. -/
def Frame.ofLine (line : List UInt8) : Option Frame :=
  match Text.Utf8.decode line with
  | .error e =>
    some (.malformed (String.ofList (Text.trimChars (Text.Utf8.lossy line))) e.message)
  | .ok cs =>
    match Text.trimChars cs with
    | [] => none
    | c :: rest =>
      match Json.parseChars (c :: rest) with
      | .ok v => some (.message v)
      | .error e => some (.malformed (String.ofList (c :: rest)) e.message)

/-- The report of a line over the limit. Four bytes for each character of it are looked at. -/
def Frame.overlong (limit : Nat) (line : List UInt8) : Frame :=
  .malformed (preview (String.ofList (Text.Utf8.lossy (line.take (previewLength * 4)))))
    s!"line exceeds {limit} bytes"

/-- The frame of a whole line. -/
def Frame.ofWholeLine (limit : Nat) (line : List UInt8) : Option Frame :=
  if limit < line.length then some (.overlong limit line) else Frame.ofLine line

/-- The lines that bytes finish, and the bytes behind the last of them. -/
def splitLines (bytes : List UInt8) : List (List UInt8) × List UInt8 :=
  match _h : bytes.dropWhile (· != lineFeed) with
  | [] => ([], bytes)
  | _ :: rest =>
    let (lines, tail) := splitLines rest
    (bytes.takeWhile (· != lineFeed) :: lines, tail)
termination_by bytes.length
decreasing_by
  have shorter := (List.dropWhile_sublist (· != lineFeed) (l := bytes)).length_le
  rw [_h, List.length_cons] at shorter
  omega

/-- What is held between two chunks. -/
structure LineBuffer where
  /-- The number of bytes that a line may have. -/
  limit : Nat := defaultLimit
  /-- The bytes of a line that has not ended yet. -/
  held : List UInt8 := []
  /-- The line at hand is over the limit, and the rest of it is passed over. -/
  skipping : Bool := false
deriving DecidableEq

namespace LineBuffer

/-- Take bytes that stand behind those held. -/
def accept (b : LineBuffer) (chunk : List UInt8) : List Frame × LineBuffer :=
  let (lines, tail) := splitLines (b.held ++ chunk)
  let frames := lines.filterMap (Frame.ofWholeLine b.limit)
  if b.limit < tail.length then
    (frames ++ [.overlong b.limit tail], { b with held := [], skipping := true })
  else (frames, { b with held := tail, skipping := false })

/-- Take a chunk: the frames of the lines that it finishes, and of one that it shows to be over
the limit. -/
def feed (b : LineBuffer) (chunk : List UInt8) : List Frame × LineBuffer :=
  if b.skipping then
    match chunk.dropWhile (· != lineFeed) with
    | [] => ([], b)
    | _ :: rest => b.accept rest
  else b.accept chunk

/-- The stream ended: the text held, unless it is blank. The buffer is empty afterwards. -/
def finish (b : LineBuffer) : Option String × LineBuffer :=
  let text := Text.trimChars (Text.Utf8.lossy b.held)
  (if text.isEmpty then none else some (String.ofList text), { limit := b.limit })

end LineBuffer

end RpcLink.Framing
