import Postings.Outcome
import Postings.PostingList

/-!
# Building and changing posting lists

An update changes a list in place, one array after the other.  It may fail
between two changes, and the changes made before are not taken back; so an
update leaves a list behind whether or not it fails.

The operations on lists as values are updates too, run on a list that is
given up when they fail.

Room is limited where it is made in advance.  Appending takes room for
granted: lists of the model have any length, and how long they get on a
machine is a question to a run.
-/

namespace Postings

/-- The list with one more posting, whatever its id. -/
def PostingList.append (list : PostingList) (posting : Posting) :
    PostingList :=
  { list with
    ids := list.ids.push posting.id,
    scores := list.scores.push posting.score }

/-- A change of a list in place that may fail with a cause in `ε`. -/
abbrev Update (ε : Type) := ExceptT ε (StateM PostingList)

namespace Update

/-- How the update ends, and the list it leaves behind. -/
def finish (update : Update ε α) (list : PostingList) :
    Except ε α × PostingList :=
  (update.run.run list).run

/-- The changed list, or why the update failed. -/
def result (update : Update ε α) (list : PostingList) :
    Except ε PostingList :=
  match update.finish list with
  | (.ok _, changed) => .ok changed
  | (.error cause, _) => .error cause

/-- The list that is there after the update, whether or not it failed. -/
def after (update : Update ε α) (list : PostingList) : PostingList :=
  (update.finish list).2

theorem after_of_result_eq_ok {update : Update ε α}
    {list changed : PostingList}
    (succeeded : update.result list = .ok changed) :
    update.after list = changed := by
  unfold result at succeeded
  unfold after
  rcases ended : update.finish list with ⟨outcome, left⟩
  rw [ended] at succeeded
  cases outcome with
  | ok value =>
      cases succeeded
      rfl
  | error cause => cases succeeded

theorem result_eq_error {update : Update ε α} {list : PostingList}
    {cause : ε} :
    update.result list = .error cause ↔
      (update.finish list).1 = .error cause := by
  unfold result
  rcases update.finish list with ⟨outcome, changed⟩
  cases outcome with
  | ok value => simp
  | error other => simp

@[simp] theorem finish_pure (value : α) (list : PostingList) :
    (pure value : Update ε α).finish list = (.ok value, list) := rfl

@[simp] theorem finish_throw (cause : ε) (list : PostingList) :
    (throw cause : Update ε α).finish list = (.error cause, list) := rfl

@[simp] theorem finish_get (list : PostingList) :
    (get : Update ε PostingList).finish list = (.ok list, list) := rfl

@[simp] theorem finish_modify (change : PostingList → PostingList)
    (list : PostingList) :
    (modify change : Update ε Unit).finish list = (.ok (), change list) :=
  rfl

/-- The second update starts from the list that the first one leaves, unless
the first one fails. -/
@[simp] theorem finish_bind (first : Update ε α) (next : α → Update ε β)
    (list : PostingList) :
    (first >>= next).finish list =
      match first.finish list with
      | (.ok value, changed) => (next value).finish changed
      | (.error cause, changed) => (.error cause, changed) := by
  simp only [finish, ExceptT.run_bind, StateT.run_bind, Id.run_bind]
  generalize (StateT.run (ExceptT.run first) list).run = ended
  rcases ended with ⟨outcome, changed⟩
  cases outcome with
  | ok value => rfl
  | error cause => rfl

@[simp] theorem finish_map (function : α → β) (update : Update ε α)
    (list : PostingList) :
    (function <$> update).finish list =
      ((update.finish list).1.map function, (update.finish list).2) := by
  rw [map_eq_pure_bind, finish_bind]
  rcases update.finish list with ⟨outcome, changed⟩
  cases outcome with
  | ok value => rfl
  | error cause => rfl

theorem finish_adapt (change : ε → ε') (update : Update ε α)
    (list : PostingList) :
    Update.finish (ExceptT.adapt change update) list =
      ((update.finish list).1.mapError change, (update.finish list).2) :=
  rfl

/-! ## Room -/

/-- The most values for which an array can make room: eight bytes for each
of them must stay below half of the address space. -/
def maxCapacity : Nat :=
  9223372036854775807 / 8

/-- Make room for the given number of values in one array. -/
def allocate (capacity : Nat) : Update Fault Unit := do
  unless capacity ≤ maxCapacity do
    throw .capacityOverflow

/-- Clear the list, then make room for the given number of postings. -/
def reserve (capacity : Nat) : Update Fault Unit := do
  modify fun list => { list with ids := #[] }
  modify fun list => { list with scores := #[] }
  modify fun list => { list with skips := .empty }
  allocate capacity
  allocate capacity

theorem finish_reserve (capacity : Nat) (list : PostingList) :
    (reserve capacity).finish list =
      (if capacity ≤ maxCapacity then .ok ()
        else .error .capacityOverflow, .empty) := by
  by_cases room : capacity ≤ maxCapacity
  · simp [reserve, allocate, room, PostingList.empty]
  · simp [reserve, allocate, room, PostingList.empty]

/-! ## Postings -/

/-- Append a posting without asking for its order. -/
def append (posting : Posting) : Update ε Unit := do
  modify fun list => { list with ids := list.ids.push posting.id }
  modify fun list => { list with scores := list.scores.push posting.score }

/-- Append a posting whose id is greater than the last one. -/
def push (posting : Posting) : Update Fault Unit := do
  if let some last := (← get).lastId? then
    unless last < posting.id do
      throw (.notIncreasing last posting.id)
  append posting

def pushSentinel : Update Fault Unit :=
  append .sentinel

/-- Take off the closing sentinel, and say whether there was one.  The skip
table loses the slots past the new end. -/
def popSentinel : Update Fault Bool := do
  if (← get).hasSentinel then
    modify fun list => { list with ids := list.ids.pop }
    modify fun list => { list with scores := list.scores.pop }
    modify fun list =>
      { list with skips := list.skips.truncate list.ids.size }
    return true
  else
    return false

@[simp] theorem finish_append (posting : Posting) (list : PostingList) :
    (append posting : Update ε Unit).finish list =
      (.ok (), list.append posting) := by
  simp [append, PostingList.append]

theorem finish_push (posting : Posting) (list : PostingList) :
    (push posting).finish list =
      match list.lastId? with
      | none => (.ok (), list.append posting)
      | some last =>
          if last < posting.id then (.ok (), list.append posting)
          else (.error (.notIncreasing last posting.id), list) := by
  cases last : list.lastId? with
  | none => simp [push, last]
  | some id =>
      by_cases above : id < posting.id
      · simp [push, last, above]
      · simp [push, last, above]

theorem finish_popSentinel (list : PostingList) :
    popSentinel.finish list =
      if list.hasSentinel then
        (.ok true,
          { ids := list.ids.pop,
            scores := list.scores.pop,
            skips := list.skips.truncate (list.size - 1) })
      else
        (.ok false, list) := by
  by_cases closed : list.hasSentinel = true
  · simp [popSentinel, closed, PostingList.size, Except.map]
  · simp [popSentinel, closed]

/-! ## Skip pointers -/

/-- Whether a pointer from the slot to the target leads forward.  Target zero
stands for no pointer. -/
def LeadsForward (slot target : Nat) : Prop :=
  target = 0 ∨ slot < target

instance (slot target : Nat) : Decidable (LeadsForward slot target) :=
  inferInstanceAs (Decidable (target = 0 ∨ slot < target))

/-- Set the pointer of the posting that will be appended next. -/
def placeNextSkip (target : Nat) : Update Fault Unit := do
  let slot := (← get).size
  unless LeadsForward slot target do
    throw .backwardSkip
  modify fun list => { list with skips := list.skips.grow (slot + 1) }
  modify fun list => { list with skips := list.skips.place slot target }

/-- Set the pointer of an existing posting.  A table that does not reach the
slot grows to the length of the list. -/
def placeSkip (slot target : Nat) : Update Fault Unit := do
  unless slot < (← get).size do
    throw (.slotOutOfRange slot)
  unless LeadsForward slot target do
    throw .backwardSkip
  if (← get).skips.size ≤ slot then
    modify fun list => { list with skips := list.skips.grow list.size }
  modify fun list => { list with skips := list.skips.place slot target }

/-- The distance between pointers when about `count` of them are wanted. -/
def skipGap (size count : Nat) : Nat :=
  max 1 (size / count)

/-- Replace the skip table by one with about `count` pointers. -/
def buildSkips (count : Nat) : Update ArgumentError Unit := do
  if count = 0 then
    throw (.noSkipPointers "num_pointers")
  modify fun list =>
    { list with skips := .spaced list.size (skipGap list.size count) }

theorem finish_placeNextSkip (target : Nat) (list : PostingList) :
    (placeNextSkip target).finish list =
      if LeadsForward list.size target then
        (.ok (),
          { list with
            skips :=
              (list.skips.grow (list.size + 1)).place list.size target })
      else
        (.error .backwardSkip, list) := by
  by_cases forward : LeadsForward list.size target
  · simp [placeNextSkip, forward]
  · simp [placeNextSkip, forward]

theorem finish_placeSkip (slot target : Nat) (list : PostingList) :
    (placeSkip slot target).finish list =
      if slot < list.size then
        if LeadsForward slot target then
          (.ok (),
            { list with
              skips :=
                (if list.skips.size ≤ slot then list.skips.grow list.size
                  else list.skips).place slot target })
        else
          (.error .backwardSkip, list)
      else
        (.error (.slotOutOfRange slot), list) := by
  by_cases inside : slot < list.size
  · by_cases forward : LeadsForward slot target
    · by_cases short : list.skips.size ≤ slot
      · simp [placeSkip, inside, forward, short]
      · simp [placeSkip, inside, forward, short]
    · simp [placeSkip, inside, forward]
  · simp [placeSkip, inside]

theorem finish_buildSkips (count : Nat) (list : PostingList) :
    (buildSkips count).finish list =
      if count = 0 then
        (.error (.noSkipPointers "num_pointers"), list)
      else
        (.ok (),
          { list with
            skips := .spaced list.size (skipGap list.size count) }) := by
  by_cases none : count = 0
  · simp [buildSkips, none]
  · simp [buildSkips, none]

end Update

namespace PostingList

/-- An empty list with room for the given number of postings. -/
def withCapacity (capacity : Nat) : Except Fault PostingList :=
  (Update.reserve capacity).result empty

/-- The list with one more posting, whose id is greater than the last one. -/
def push (list : PostingList) (posting : Posting) :
    Except Fault PostingList :=
  (Update.push posting).result list

/-- The list of the given postings, which must come by increasing id. -/
def ofList (postings : List Posting) : Except Fault PostingList :=
  postings.foldlM push empty

def pushSentinel (list : PostingList) : PostingList :=
  Update.pushSentinel.after list

/-- The list without its closing sentinel, if it has one. -/
def dropSentinel (list : PostingList) : PostingList :=
  Update.popSentinel.after list

/-- The list with a new skip table of about `count` pointers. -/
def buildSkips (list : PostingList) (count : Nat) : Traced PostingList := do
  let built ←
    .ofExcept (((Update.buildSkips count).result list).mapError .argument)
  .report (.builtSkips list.size (Update.skipGap list.size count))
  return built

/-- Give the list the data its layout asks for. -/
def arrange (list : PostingList) : Layout → Traced PostingList
  | .plain => return list
  | .sentinel => return list.pushSentinel
  | .skipPointers count => list.buildSkips count

theorem withCapacity_eq (capacity : Nat) :
    withCapacity capacity =
      if capacity ≤ Update.maxCapacity then .ok empty
      else .error .capacityOverflow := by
  by_cases room : capacity ≤ Update.maxCapacity
  · simp [withCapacity, Update.result, Update.finish_reserve, room]
  · simp [withCapacity, Update.result, Update.finish_reserve, room]

theorem push_eq (list : PostingList) (posting : Posting) :
    list.push posting =
      match list.lastId? with
      | none => .ok (list.append posting)
      | some last =>
          if last < posting.id then .ok (list.append posting)
          else .error (.notIncreasing last posting.id) := by
  cases last : list.lastId? with
  | none => simp [push, Update.result, Update.finish_push, last]
  | some id =>
      by_cases above : id < posting.id
      · simp [push, Update.result, Update.finish_push, last, above]
      · simp [push, Update.result, Update.finish_push, last, above]

theorem pushSentinel_eq (list : PostingList) :
    list.pushSentinel = list.append .sentinel := by
  simp [pushSentinel, Update.pushSentinel, Update.after]

theorem buildSkips_outcome (list : PostingList) (count : Nat) :
    (list.buildSkips count).outcome =
      if count = 0 then
        .error (.argument (.noSkipPointers "num_pointers"))
      else
        .ok { list with
          skips := .spaced list.size (Update.skipGap list.size count) } := by
  by_cases none : count = 0
  · simp [buildSkips, Update.result, Update.finish_buildSkips, none,
      Traced.ofExcept, bind, Traced.bind]
  · simp [buildSkips, Update.result, Update.finish_buildSkips, none,
      Traced.ofExcept, bind, Traced.bind, Traced.report]

theorem buildSkips_events (list : PostingList) {count : Nat}
    (positive : count ≠ 0) :
    (list.buildSkips count).events =
      [.builtSkips list.size (Update.skipGap list.size count)] := by
  simp [buildSkips, Update.result, Update.finish_buildSkips, positive,
    Traced.ofExcept, bind, Traced.bind, Traced.report]

theorem dropSentinel_eq (list : PostingList) :
    list.dropSentinel =
      if list.hasSentinel then
        { ids := list.ids.pop,
          scores := list.scores.pop,
          skips := list.skips.truncate (list.size - 1) }
      else
        list := by
  by_cases closed : list.hasSentinel = true
  · simp [dropSentinel, Update.after, Update.finish_popSentinel, closed]
  · simp [dropSentinel, Update.after, Update.finish_popSentinel, closed]

end PostingList

end Postings
