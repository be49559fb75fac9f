import Postings.Posting
import Postings.SkipTable
import Postings.Traced

/-!
# Posting lists

A posting list holds postings by increasing id, optionally closed by a
sentinel, and a skip table.  Ids and scores stand in two arrays, and a
posting is what both hold at one position.

This file reads lists; how they are built and changed is the subject of
`Postings.PostingList.Update`.
-/

namespace Postings

/-- Postings by increasing id, with a skip table. -/
structure PostingList where
  ids : Array Int64
  scores : Array Int64
  skips : SkipTable
  deriving DecidableEq

namespace PostingList

def empty : PostingList :=
  { ids := #[], scores := #[], skips := .empty }

def toList (list : PostingList) : List Posting :=
  List.zipWith Posting.mk list.ids.toList list.scores.toList

/-- The number of postings, a sentinel included. -/
def size (list : PostingList) : Nat :=
  list.ids.size

def isEmpty (list : PostingList) : Bool :=
  list.ids.isEmpty

def lastId? (list : PostingList) : Option Int64 :=
  list.ids.back?

/-- Whether the list ends with the reserved id. -/
def hasSentinel (list : PostingList) : Bool :=
  list.lastId? == some sentinelId

/-- The number of postings, not counting a closing sentinel. -/
def realSize (list : PostingList) : Nat :=
  if list.hasSentinel then list.size - 1 else list.size

/-! ## Reading positions -/

def id (list : PostingList) (position : Nat) : Except Fault Int64 :=
  match list.ids[position]? with
  | some id => .ok id
  | none => .error (.positionOutOfRange list.ids.size position)

def score (list : PostingList) (position : Nat) : Except Fault Int64 :=
  match list.scores[position]? with
  | some score => .ok score
  | none => .error (.positionOutOfRange list.scores.size position)

def posting (list : PostingList) (position : Nat) :
    Except Fault Posting := do
  let id ← list.id position
  let score ← list.score position
  return { id, score }

def posting? (list : PostingList) (position : Nat) : Option Posting := do
  let id ← list.ids[position]?
  let score ← list.scores[position]?
  return { id, score }

/-- The target of the skip pointer at a position. -/
def skip? (list : PostingList) (position : Nat) : Option Nat :=
  list.skips.target? position

def hasSkips (list : PostingList) : Bool :=
  list.skips.hasPointer

/-! ## Text -/

/-- The text of a list, as in `[(2, 5), (3, 1)]`. -/
def render (list : PostingList) : String :=
  "[" ++ ", ".intercalate (list.toList.map Posting.render) ++ "]"

/-- The full text of a list, which shows the skip table too. -/
def renderFully (list : PostingList) : String :=
  "PostingList \x7b ids: " ++ numbers list.ids ++ ", scores: " ++
    numbers list.scores ++ ", skip_pointers: " ++ list.skips.render ++
    " \x7d"
where
  numbers (values : Array Int64) : String :=
    "[" ++ ", ".intercalate (values.toList.map Decimal.writeInt64) ++ "]"

/-! ## The view as a list of postings -/

@[simp] theorem toList_empty : empty.toList = [] := rfl

theorem getElem?_toList (list : PostingList) (position : Nat) :
    list.toList[position]? = list.posting? position := by
  simp only [toList, posting?, List.getElem?_zipWith, Array.getElem?_toList]
  cases list.ids[position]? <;> cases list.scores[position]? <;> rfl

theorem lt_size_of_posting? {list : PostingList} {position : Nat}
    {posting : Posting} (present : list.posting? position = some posting) :
    position < list.size := by
  simp only [posting?, Option.bind_eq_bind, Option.bind_eq_some_iff] at present
  obtain ⟨id, idPresent, _⟩ := present
  exact (Array.getElem?_eq_some_iff.mp idPresent).1

theorem ids_of_posting? {list : PostingList} {position : Nat}
    {posting : Posting} (present : list.posting? position = some posting) :
    list.ids[position]? = some posting.id := by
  simp only [posting?, Option.bind_eq_bind, Option.bind_eq_some_iff] at present
  obtain ⟨id, idPresent, score, _, equality⟩ := present
  cases equality
  exact idPresent

theorem posting_eq_ok {list : PostingList} {position : Nat}
    {posting : Posting} (present : list.posting? position = some posting) :
    list.posting position = .ok posting := by
  simp only [posting?, Option.bind_eq_bind, Option.bind_eq_some_iff] at present
  obtain ⟨id, idPresent, score, scorePresent, equality⟩ := present
  cases equality
  simp only [PostingList.posting, PostingList.id, PostingList.score,
    idPresent, scorePresent]
  rfl

end PostingList

end Postings
