import Postings.PostingList.Update

/-!
# Edits of posting lists

An edit is one change of a list in place, as a value.  A run of edits goes
on past those that fail, with the list that the failed edit left behind.
-/

namespace Postings

/-- One change of a list in place. -/
inductive Edit where
  | reserve (capacity : Nat)
  | push (posting : Posting)
  | pushSentinel
  | popSentinel
  | placeNextSkip (target : Nat)
  | placeSkip (slot target : Nat)
  | buildSkips (count : Nat)
  deriving DecidableEq

namespace Edit

/-- The update that an edit asks for. -/
def update : Edit → Update Failure Unit
  | .reserve capacity => (Update.reserve capacity).adapt .fault
  | .push posting => (Update.push posting).adapt .fault
  | .pushSentinel => Update.pushSentinel.adapt .fault
  | .popSentinel => do
      let _ ← Update.popSentinel.adapt .fault
  | .placeNextSkip target => (Update.placeNextSkip target).adapt .fault
  | .placeSkip slot target => (Update.placeSkip slot target).adapt .fault
  | .buildSkips count => (Update.buildSkips count).adapt .argument

/-- The edited list, or the failure of the edit. -/
def apply (list : PostingList) (edit : Edit) : Traced PostingList :=
  match edit with
  | .buildSkips count => list.buildSkips count
  | edit => .ofExcept (edit.update.result list)

/-- The list that is there after the edit, whether or not it failed. -/
def after (edit : Edit) (list : PostingList) : PostingList :=
  edit.update.after list

/-- The list after a run of edits, which goes on past failed ones. -/
def run (edits : List Edit) (list : PostingList) : PostingList :=
  edits.foldl (fun current edit => edit.after current) list

end Edit

end Postings
