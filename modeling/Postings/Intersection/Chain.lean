import Postings.Intersection.Pairwise

/-!
# Intersecting many lists

Many lists are intersected from left to right, two at a time.  If the first
list is closed by a sentinel, every intermediate result is closed by one
again, so that an algorithm which needs sentinels finds them.  One sentinel
is taken off the final result.
-/

namespace Postings

namespace Intersection

/-- Intersect the result so far with the remaining lists.  An empty result
ends the chain, since nothing can be added to it. -/
def chain (algorithm : Algorithm) (closed : Bool) :
    PostingList → List PostingList → Traced PostingList
  | result, [] => return result
  | result, list :: lists => do
      let next ← algorithm.intersect result list
      let link := if closed then next.pushSentinel else next
      if next.isEmpty then
        return link
      else
        chain algorithm closed link lists

end Intersection

namespace Algorithm

/-- Intersect all lists.  There is no result without lists. -/
def intersectAll (algorithm : Algorithm) :
    List PostingList → Traced (Option PostingList)
  | [] => return none
  | first :: rest => do
      let result ←
        Intersection.chain algorithm first.hasSentinel first rest
      return some result.dropSentinel

end Algorithm

end Postings
