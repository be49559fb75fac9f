import Postings.PostingList

/-!
# Cursors over posting lists

A cursor walks over a list from its first posting to its last and knows how
many are still to come.
-/

namespace Postings

/-- A walk over a list: the list and the position it has reached. -/
structure Cursor where
  list : PostingList
  position : Nat

namespace Cursor

def start (list : PostingList) : Cursor :=
  { list := list, position := 0 }

def remaining (cursor : Cursor) : Nat :=
  cursor.list.size - cursor.position

/-- The posting at the cursor, and the cursor behind it.  At the end of the
list the cursor stays where it is. -/
def next (cursor : Cursor) : Option Posting × Cursor :=
  match cursor.list.posting? cursor.position with
  | some posting =>
      (some posting, { cursor with position := cursor.position + 1 })
  | none => (none, cursor)

end Cursor

end Postings
