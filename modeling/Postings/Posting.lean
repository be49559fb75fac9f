import Postings.Text.Decimal

/-!
# Postings

A posting says that a document contains a term and how much that counts.
Ids and scores are signed 64-bit numbers, and sums of scores wrap around.
The largest id is reserved for the sentinel, the posting that may close a
list.
-/

namespace Postings

/-- The id no real document has. -/
def sentinelId : Int64 := Int64.maxValue

def sentinelScore : Int64 := 0

/-- One document and its score. -/
@[ext] structure Posting where
  id : Int64
  score : Int64
  deriving DecidableEq

namespace Posting

instance : Inhabited Posting where
  default := { id := 0, score := 0 }

/-- The posting that closes a list: its id is not below any other id. -/
def sentinel : Posting :=
  { id := sentinelId, score := sentinelScore }

/-- Two postings of one document together: their scores are added modulo
`2 ^ 64`. -/
def combine (left right : Posting) : Posting :=
  { id := left.id, score := left.score + right.score }

/-- The text of a posting, as in `(4, -3)`. -/
def render (posting : Posting) : String :=
  "(" ++ Decimal.writeInt64 posting.id ++ ", " ++
    Decimal.writeInt64 posting.score ++ ")"

end Posting

end Postings
