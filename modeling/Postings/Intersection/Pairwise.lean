import Postings.Intersection.Gallop
import Postings.Intersection.Merge
import Postings.Intersection.Search
import Postings.Intersection.Skip
import Postings.PostingList.Update

/-!
# Intersecting two lists

Every algorithm finds the postings common to both lists, combined, in the
order in which they are met.  The result is built by appending them one by
one, so meeting an id twice is a fault.

`intersectWith` takes the look-up of the searching algorithms as a
parameter; `intersect` is the instance that is used.
-/

namespace Postings

namespace PostingList

/-- The two lists, the shorter one first.  Equal lengths keep the order. -/
def byLength (left right : PostingList) : PostingList × PostingList :=
  if left.size ≤ right.size then (left, right) else (right, left)

end PostingList

namespace Intersection

/-- The list of the common postings that an algorithm has met. -/
def collect (common : Except Fault (List Posting)) : Traced PostingList :=
  .ofFaulty (common >>= PostingList.ofList)

def basic (left right : PostingList) : Traced PostingList :=
  collect (.ok (Merge.threeWay left.toList right.toList))

def lessConditional (left right : PostingList) : Traced PostingList :=
  collect (.ok (Merge.alternating left.toList right.toList))

/-- Both lists must be closed by a sentinel. -/
def sentinel (left right : PostingList) : Traced PostingList :=
  if left.hasSentinel ∧ right.hasSentinel then
    collect
      (Merge.terminated left.size right.size left.toList right.toList)
  else
    .fail (.fault .missingSentinel)

def skipPointers (left right : PostingList) : Traced PostingList :=
  collect (.ok (Skip.scan left right 0 0))

/-- The shorter list drives the search in the longer one. -/
def binarySearch (look : Locator) (left right : PostingList) :
    Traced PostingList :=
  let (shorter, longer) := left.byLength right
  collect (Search.scan look longer longer.ids 0 shorter.toList)

/-- The shorter list drives the gallop through the longer one.  That the
gallop stopped early is reported after the result is complete. -/
def galloping (look : Locator) (left right : PostingList) :
    Traced PostingList := do
  let (shorter, longer) := left.byLength right
  let scan ←
    .ofFaulty (Gallop.scan look longer longer.ids 0 0 shorter.toList)
  let result ← collect (.ok scan.common)
  match scan.stopped? with
  | none => return result
  | some position =>
      .report (.gallopStopped position shorter.size)
      return result

/-- Merge lists of similar length and gallop through a much longer one. -/
def hybrid (look : Locator) (threshold : Nat) (left right : PostingList) :
    Traced PostingList := do
  let (shorter, longer) := left.byLength right
  match Strategy.choose? threshold shorter.size longer.size with
  | none => return .empty
  | some strategy =>
      .report
        (.strategyChosen shorter.size longer.size threshold strategy)
      match strategy with
      | .linear => lessConditional shorter longer
      | .galloping => galloping look shorter longer

end Intersection

namespace Algorithm

/-- Intersect two lists, with the given look-up where one is needed. -/
def intersectWith (look : Locator) (algorithm : Algorithm)
    (left right : PostingList) : Traced PostingList :=
  match algorithm with
  | .basic => Intersection.basic left right
  | .lessConditional => Intersection.lessConditional left right
  | .sentinel => Intersection.sentinel left right
  | .binarySearch => Intersection.binarySearch look left right
  | .galloping => Intersection.galloping look left right
  | .skipPointers => Intersection.skipPointers left right
  | .hybrid threshold => Intersection.hybrid look threshold left right

def intersect (algorithm : Algorithm) (left right : PostingList) :
    Traced PostingList :=
  algorithm.intersectWith Search.locate left right

end Algorithm

end Postings
