import Postings.Intersection.Search

/-!
# Galloping

A gallop looks for an id from a start position on by probing at distances
one, two, four and so on, until an id is not below the target.  The distance
doubles, so a target that lies near is found by few probes.  A probe past
the end is moved to the last position.

Once the longer list has no id left that reaches a driver, no later driver
can match either, and the scan stops there.
-/

namespace Postings

/-- The outcome of a gallop: a closed range of positions with the first id
not below the target, or the news that there is none. -/
inductive Gallop where
  | bound (low high : Nat)
  | exhausted
  deriving DecidableEq

namespace Gallop

def readId (ids : Array Int64) (position : Nat) : Except Fault Int64 :=
  match ids[position]? with
  | some id => .ok id
  | none => .error (.positionOutOfRange ids.size position)

/-- The distance of a probe after the given number of doublings. -/
def stride : Nat → Nat
  | 0 => 1
  | doublings + 1 => 2 * stride doublings

theorem stride_pos (doublings : Nat) : 0 < stride doublings := by
  induction doublings with
  | zero => exact Nat.one_pos
  | succ doublings ih =>
      rw [stride]
      omega

/-- Go on probing after some doublings of the distance from the start.  The
id at position `below` is known to be below the target. -/
def probe (ids : Array Int64) (target : Int64) (start below : Nat)
    (doublings : Nat) : Except Fault Gallop :=
  let position := start + stride doublings
  let last := ids.size - 1
  if last ≤ position then do
    let id ← readId ids last
    if id < target then
      return .exhausted
    else
      return .bound (below + 1) last
  else
    match readId ids position with
    | .error fault => .error fault
    | .ok id =>
        if target ≤ id then
          .ok (.bound (below + 1) position)
        else
          probe ids target start position (doublings + 1)
termination_by ids.size - (start + stride doublings)
decreasing_by
  have positive := stride_pos doublings
  have doubled : stride (doublings + 1) = 2 * stride doublings := rfl
  omega

/-- Look from the start position on for the first id not below the target. -/
def find (ids : Array Int64) (target : Int64) (start : Nat) :
    Except Fault Gallop := do
  let id ← readId ids start
  if target ≤ id then
    return .bound start start
  else
    probe ids target start start 0

/-- What a scan has found, and the driver at which it stopped early. -/
structure Scan where
  common : List Posting
  stopped? : Option Nat
  deriving DecidableEq

/-- Gallop for every driver from the cursor on and look it up in the range
that the gallop leaves.  The first argument after the ids is the number of
drivers already served. -/
def scan (look : Locator) (longer : PostingList) (ids : Array Int64) :
    Nat → Nat → List Posting → Except Fault Scan
  | _, _, [] => .ok { common := [], stopped? := none }
  | served, cursor, driver :: drivers =>
      if cursor < ids.size then
        match Gallop.find ids driver.id cursor with
        | .error fault => .error fault
        | .ok .exhausted => .ok { common := [], stopped? := some served }
        | .ok (.bound low high) => do
            let probe ←
              Search.lookWithin look ids driver.id low (high + 1)
            if probe.found then
              let partner ← longer.posting (probe.next - 1)
              let later ←
                scan look longer ids (served + 1) probe.next drivers
              return { later with
                common := driver.combine partner :: later.common }
            else
              scan look longer ids (served + 1) probe.next drivers
      else
        .ok { common := [], stopped? := none }

end Gallop

end Postings
