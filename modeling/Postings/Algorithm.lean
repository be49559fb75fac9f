import Postings.Layout

/-!
# Intersection algorithms

The algorithms differ only in how the two cursors catch up with each other.
This file names them and says which layout each one wants; how they work is
the subject of the files on intersection.
-/

namespace Postings

/-- The ways to intersect two posting lists.  The hybrid one decides by the
ratio of the two lengths and carries the ratio from which it gallops. -/
inductive Algorithm where
  | basic
  | lessConditional
  | sentinel
  | binarySearch
  | galloping
  | skipPointers
  | hybrid (threshold : Nat)
  deriving DecidableEq

/-- What the hybrid algorithm decides for one pair of lists. -/
inductive Strategy where
  | linear
  | galloping
  deriving DecidableEq

namespace Strategy

def render : Strategy → String
  | .linear => "Linear"
  | .galloping => "Galloping"

/-- The strategy for lists of the given lengths, the shorter one first.
There is none when the shorter list is empty. -/
def choose? (threshold shorter longer : Nat) : Option Strategy :=
  if shorter = 0 then none
  else if longer / shorter < threshold then some .linear
  else some .galloping

end Strategy

namespace Algorithm

/-- The ratio of lengths from which the hybrid algorithm gallops unless it is
told otherwise. -/
def defaultThreshold : Nat := 20

/-- All algorithms, the hybrid one with its default threshold. -/
def all : List Algorithm :=
  [.basic, .lessConditional, .sentinel, .binarySearch, .galloping,
   .skipPointers, .hybrid defaultThreshold]

def name : Algorithm → String
  | .basic => "basic"
  | .lessConditional => "less-conditional"
  | .sentinel => "sentinel"
  | .binarySearch => "binary-search"
  | .galloping => "galloping"
  | .skipPointers => "skip-pointers"
  | .hybrid _ => "hybrid"

def ofName? (name : String) : Option Algorithm :=
  all.find? fun algorithm => algorithm.name == name

/-- The layout that the inputs of the algorithm need.  The count matters to
the algorithm with skip pointers only. -/
def layout (skipPointerCount : Nat) : Algorithm → Layout
  | .sentinel => .sentinel
  | .skipPointers => .skipPointers skipPointerCount
  | _ => .plain

def threshold? : Algorithm → Option Nat
  | .hybrid threshold => some threshold
  | _ => none

/-- Give the hybrid algorithm another threshold; the others have none. -/
def withThreshold (threshold : Nat) : Algorithm → Algorithm
  | .hybrid _ => .hybrid threshold
  | algorithm => algorithm

/-- The full text of an algorithm, which shows the threshold too. -/
def render : Algorithm → String
  | .basic => "Basic"
  | .lessConditional => "LessConditional"
  | .sentinel => "Sentinel"
  | .binarySearch => "BinarySearch"
  | .galloping => "Galloping"
  | .skipPointers => "SkipPointers"
  | .hybrid threshold =>
      "Hybrid(Hybrid \x7b threshold: " ++ toString threshold ++ " \x7d)"

end Algorithm

end Postings
