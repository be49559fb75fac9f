import Postings.PostingList

/-!
# Searching a window of ids

The searching algorithms let the postings of the shorter list drive.  Each
driver id is looked up in the part of the longer list that no earlier driver
has passed, and the next look-up starts where this one ended.

The search of a slice is a parameter of the scan, because any position of an
id that occurs several times would do.  `Search.locate` is the one that is
used: it finds the last position whose id is not above the target.
-/

namespace Postings

/-- The outcome of a look-up: whether the id is there, and where the look-up
of a larger id goes on. -/
structure Probe where
  found : Bool
  next : Nat
  deriving DecidableEq

/-- Where the search of a slice ends, counted from the start of the slice: at
the id, or where the id would have to be inserted. -/
inductive Location where
  | found (offset : Nat)
  | absent (offset : Nat)
  deriving DecidableEq

/-- A way to search the slice of the ids from `start` to before `stop`. -/
abbrev Locator :=
  (ids : Array Int64) → (target : Int64) → (start stop : Nat) → Location

namespace Search

/-- The first position of the window whose id is above the target, or the end
of the window.  The window is halved until it is empty. -/
def upperBound (ids : Array Int64) (target : Int64) (start stop : Nat) :
    Nat :=
  if start < stop then
    let middle := start + (stop - start) / 2
    if ids[middle]?.any (· ≤ target) then
      upperBound ids target (middle + 1) stop
    else
      upperBound ids target start middle
  else
    start
termination_by stop - start

/-- Search by the upper bound: if the id is in the slice, it stands right
before that position. -/
def locate : Locator := fun ids target start stop =>
  let bound := upperBound ids target start stop
  if start < bound ∧ ids[bound - 1]? = some target then
    .found (bound - 1 - start)
  else
    .absent (bound - start)

def probe (look : Locator) (ids : Array Int64) (target : Int64)
    (start stop : Nat) : Probe :=
  match look ids target start stop with
  | .found offset => { found := true, next := start + offset + 1 }
  | .absent offset => { found := false, next := start + offset }

/-- Look up an id in a window, which must lie within the ids. -/
def lookWithin (look : Locator) (ids : Array Int64) (target : Int64)
    (start stop : Nat) : Except Fault Probe :=
  if stop < start then .error (.windowReversed start stop)
  else if ids.size < stop then .error (.windowOutOfRange ids.size stop)
  else .ok (probe look ids target start stop)

/-- Look up every driver in the part of the longer list from the cursor on.
The scan ends when the longer list is used up. -/
def scan (look : Locator) (longer : PostingList) (ids : Array Int64) :
    Nat → List Posting → Except Fault (List Posting)
  | _, [] => .ok []
  | cursor, driver :: drivers =>
      if cursor < ids.size then do
        let probe ← lookWithin look ids driver.id cursor ids.size
        if probe.found then
          let partner ← longer.posting (probe.next - 1)
          let later ← scan look longer ids probe.next drivers
          return driver.combine partner :: later
        else
          scan look longer ids probe.next drivers
      else
        .ok []

end Search

end Postings
