import RpcLink.Framing.LineBuffer

/-!
The lines of a log: text that a server writes beside its answers. A line that is no UTF-8 ends
the reading.
-/

namespace RpcLink.Framing

/-- What is taken off the end of a line. -/
inductive LineEnding where
  /-- All carriage returns and line feeds. -/
  | all
  /-- One line feed, with one carriage return before it. -/
  | one
deriving DecidableEq

/-- A whole line, which ended with a line feed if `ended`, without its end. -/
def LineEnding.strip (e : LineEnding) (ended : Bool) (line : List Char) : List Char :=
  match e with
  | .all => (line.reverse.dropWhile (· == '\r')).reverse
  | .one => if ended && line.getLast? == some '\r' then line.dropLast else line

/-- What is held between two chunks. -/
structure LogLines where
  ending : LineEnding
  held : List UInt8 := []
  stopped : Bool := false

namespace LogLines

/-- Take whole lines, up to one that is no UTF-8. -/
def takeLines (r : LogLines) (ended : Bool) : List (List UInt8) → List String × LogLines
  | [] => ([], r)
  | line :: rest =>
    match Text.Utf8.decode line with
    | .error _ => ([], { r with stopped := true })
    | .ok cs =>
      let (lines, r) := r.takeLines ended rest
      (String.ofList (r.ending.strip ended cs) :: lines, r)

/-- Take a chunk: the lines that it finishes. -/
def feed (r : LogLines) (chunk : List UInt8) : List String × LogLines :=
  if r.stopped then ([], r)
  else
    let (lines, tail) := splitLines (r.held ++ chunk)
    ({ r with held := tail }).takeLines true lines

/-- The log ended: the line that was begun, if there is one. -/
def finish (r : LogLines) : List String × LogLines :=
  if r.stopped || r.held.isEmpty then ([], { r with stopped := true })
  else
    let (lines, r) := r.takeLines false [r.held]
    (lines, { r with held := [], stopped := true })

end LogLines

end RpcLink.Framing
