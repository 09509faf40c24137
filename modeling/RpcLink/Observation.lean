/-!
What happens on a channel beside the calls, for whoever watches its health.
-/

namespace RpcLink

inductive Observation where
  /-- A frame that is no response, perhaps shortened, and why. -/
  | malformed (frame error : String)
  /-- A response that nobody waits for. -/
  | unmatched (id : Option UInt64)
  /-- A line that the server wrote to its log. -/
  | logged (line : String)
  /-- A channel closed, with this many calls waiting. -/
  | closed (reason : String) (rejected : Nat)
deriving DecidableEq

/-- How often each sort of observation was made. -/
structure Tally where
  malformed : Nat := 0
  unmatched : Nat := 0
  logged : Nat := 0
  closed : Nat := 0
  /-- The calls that were waiting on channels that closed. -/
  rejected : Nat := 0
deriving DecidableEq

namespace Tally

/-- Count one observation. -/
def count (t : Tally) : Observation → Tally
  | .malformed .. => { t with malformed := t.malformed + 1 }
  | .unmatched _ => { t with unmatched := t.unmatched + 1 }
  | .logged _ => { t with logged := t.logged + 1 }
  | .closed _ rejected => { t with closed := t.closed + 1, rejected := t.rejected + rejected }

/-- Count observations. -/
def ofList (os : List Observation) : Tally := os.foldl count {}

end Tally

end RpcLink
