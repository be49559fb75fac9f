import Postings.PostingList

/-!
# Catching up over skip pointers

A cursor that has to catch up follows the skip pointer of its position as
long as the id found there is still below the target, and steps to the next
posting otherwise.  It never passes the first id that reaches the target, so
the pointers save steps and change nothing else.
-/

namespace Postings

namespace Skip

/-- Whether there is a posting at the position and its id is below the
target. -/
def isBelow (list : PostingList) (target : Int64) (position : Nat) : Bool :=
  list.ids[position]?.any fun id => decide (id < target)

/-- Where the cursor goes from a position below the target.  A pointer is
followed only if it leads forward to an id below the target. -/
def step (list : PostingList) (target : Int64) (position : Nat) : Nat :=
  match list.skip? position with
  | some next =>
      if position < next ∧ isBelow list target next then next
      else position + 1
  | none => position + 1

theorem lt_size_of_isBelow {list : PostingList} {target : Int64}
    {position : Nat} (below : isBelow list target position = true) :
    position < list.size := by
  simp only [isBelow, Option.any_eq_true] at below
  obtain ⟨id, present, _⟩ := below
  exact (Array.getElem?_eq_some_iff.mp present).1

theorem lt_step (list : PostingList) (target : Int64) (position : Nat) :
    position < step list target position := by
  unfold step
  split
  · split
    · rename_i followed
      exact followed.1
    · exact Nat.lt_succ_self position
  · exact Nat.lt_succ_self position

/-- The first position from the given one on whose id is not below the
target, or the end of the list. -/
def catchUp (list : PostingList) (target : Int64) (position : Nat) : Nat :=
  if isBelow list target position then
    catchUp list target (step list target position)
  else
    position
termination_by list.size - position
decreasing_by
  have inside := lt_size_of_isBelow ‹_›
  have forward := lt_step list target position
  omega

theorem le_catchUp (list : PostingList) (target : Int64) (position : Nat) :
    position ≤ catchUp list target position := by
  induction position using catchUp.induct list target with
  | case1 position below ih =>
      rw [catchUp, if_pos below]
      exact Nat.le_trans (Nat.le_of_lt (lt_step list target position)) ih
  | case2 position reached =>
      exact Nat.le_of_eq (by rw [catchUp, if_neg reached])

theorem lt_catchUp {list : PostingList} {target : Int64} {position : Nat}
    (below : isBelow list target position = true) :
    position < catchUp list target position := by
  rw [catchUp, if_pos below]
  exact Nat.lt_of_lt_of_le (lt_step list target position)
    (le_catchUp list target _)

theorem catchUp_eq_self {list : PostingList} {target : Int64}
    {position : Nat} (reached : ¬ isBelow list target position = true) :
    catchUp list target position = position := by
  rw [catchUp, if_neg reached]

/-- Cursors that caught up without finding a match have moved. -/
theorem sub_catchUp_add_sub_catchUp_lt {left right : PostingList}
    {leftPosition rightPosition : Nat} {start goal here there : Posting}
    (leftStart : left.posting? leftPosition = some start)
    (rightStart : right.posting? rightPosition = some goal)
    (leftHere : left.posting? (catchUp left goal.id leftPosition) =
      some here)
    (rightHere : right.posting? (catchUp right here.id rightPosition) =
      some there)
    (different : here.id ≠ there.id) :
    (left.size - catchUp left goal.id leftPosition) +
        (right.size - catchUp right here.id rightPosition) <
      (left.size - leftPosition) + (right.size - rightPosition) := by
  have leftInside := PostingList.lt_size_of_posting? leftStart
  have rightInside := PostingList.lt_size_of_posting? rightStart
  have leftForward := le_catchUp left goal.id leftPosition
  have rightForward := le_catchUp right here.id rightPosition
  by_cases behind : isBelow left goal.id leftPosition = true
  · have moved := lt_catchUp behind
    omega
  · by_cases ahead : isBelow right here.id rightPosition = true
    · have moved := lt_catchUp ahead
      omega
    · rw [catchUp_eq_self behind, leftStart] at leftHere
      rw [catchUp_eq_self ahead, rightStart] at rightHere
      cases leftHere
      cases rightHere
      have notBehind : ¬ start.id < goal.id := by
        simpa [isBelow, PostingList.ids_of_posting? leftStart] using behind
      have notAhead : ¬ goal.id < start.id := by
        simpa [isBelow, PostingList.ids_of_posting? rightStart] using ahead
      exact absurd (Int64.le_antisymm (Int64.not_lt.mp notAhead)
        (Int64.not_lt.mp notBehind)) different

/-- Let the cursors catch up in turn and look for a match after each turn. -/
def scan (left right : PostingList) (leftPosition rightPosition : Nat) :
    List Posting :=
  match _ : left.posting? leftPosition, _ : right.posting? rightPosition
  with
  | some _, some goal =>
      match _ : left.posting? (catchUp left goal.id leftPosition) with
      | none => []
      | some here =>
          match _ : right.posting? (catchUp right here.id rightPosition) with
          | none => []
          | some there =>
              if here.id = there.id then
                here.combine there ::
                  scan left right
                    (catchUp left goal.id leftPosition + 1)
                    (catchUp right here.id rightPosition + 1)
              else
                scan left right (catchUp left goal.id leftPosition)
                  (catchUp right here.id rightPosition)
  | _, _ => []
termination_by
  (left.size - leftPosition) + (right.size - rightPosition)
decreasing_by
  · have leftForward := le_catchUp left goal.id leftPosition
    have rightForward := le_catchUp right here.id rightPosition
    have leftInside : leftPosition < left.size :=
      PostingList.lt_size_of_posting? ‹_›
    omega
  · exact sub_catchUp_add_sub_catchUp_lt ‹_› ‹_› ‹_› ‹_› ‹_›

end Skip

end Postings
