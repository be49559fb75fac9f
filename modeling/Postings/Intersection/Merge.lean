import Postings.Failure
import Postings.Posting

/-!
# Merging two runs of postings

The merges walk over two runs of postings, each by increasing id, and emit
one combined posting for each id that both runs contain.  A cursor is the
part of a run that is still ahead.

* `threeWay` compares the two heads and advances the smaller one.
* `alternating` lets the left cursor catch up with the right one, then the
  right one with the left one, and only then looks for a match.
* `terminated` does the same on runs closed by a sentinel.  It never asks
  whether a cursor is at its end, so reading past the end is a fault.
-/

namespace Postings

namespace Merge

/-- Advance the smaller of the two heads until they agree. -/
def threeWay : List Posting → List Posting → List Posting
  | [], _ => []
  | _ :: _, [] => []
  | left :: lefts, right :: rights =>
      if left.id < right.id then
        threeWay lefts (right :: rights)
      else if right.id < left.id then
        threeWay (left :: lefts) rights
      else
        left.combine right :: threeWay lefts rights
termination_by lefts rights => lefts.length + rights.length

/-! ## Catching up -/

/-- The part of a run that starts at the first id not below the target. -/
def catchUp (target : Int64) (run : List Posting) : List Posting :=
  run.dropWhile fun posting => decide (posting.id < target)

theorem length_catchUp_le (target : Int64) (run : List Posting) :
    (catchUp target run).length ≤ run.length :=
  (List.dropWhile_sublist _).length_le

theorem length_catchUp_cons_lt {target : Int64} {head : Posting}
    (tail : List Posting) (below : head.id < target) :
    (catchUp target (head :: tail)).length < (head :: tail).length := by
  have skipped : catchUp target (head :: tail) = catchUp target tail := by
    simp [catchUp, below]
  rw [skipped]
  exact Nat.lt_succ_of_le (length_catchUp_le target tail)

theorem catchUp_cons_of_not_lt {target : Int64} {head : Posting}
    (tail : List Posting) (reached : ¬ head.id < target) :
    catchUp target (head :: tail) = head :: tail := by
  simp [catchUp, reached]

theorem length_behind_add_lt {left right here there : Posting}
    {lefts rights heres theres : List Posting}
    (leftCaught : catchUp right.id (left :: lefts) = here :: heres)
    (rightCaught : catchUp here.id (right :: rights) = there :: theres) :
    heres.length + theres.length <
      (left :: lefts).length + (right :: rights).length := by
  have leftLength := length_catchUp_le right.id (left :: lefts)
  have rightLength := length_catchUp_le here.id (right :: rights)
  rw [leftCaught] at leftLength
  rw [rightCaught] at rightLength
  simp only [List.length_cons] at leftLength rightLength ⊢
  omega

/-- Two heads that differ after both cursors caught up are not the heads from
which the cursors started. -/
theorem length_caught_add_lt {left right here there : Posting}
    {lefts rights heres theres : List Posting}
    (leftCaught : catchUp right.id (left :: lefts) = here :: heres)
    (rightCaught : catchUp here.id (right :: rights) = there :: theres)
    (different : here.id ≠ there.id) :
    (here :: heres).length + (there :: theres).length <
      (left :: lefts).length + (right :: rights).length := by
  have leftLength := length_catchUp_le right.id (left :: lefts)
  have rightLength := length_catchUp_le here.id (right :: rights)
  rw [leftCaught] at leftLength
  rw [rightCaught] at rightLength
  by_cases behind : left.id < right.id
  · have shorter := length_catchUp_cons_lt lefts behind
    rw [leftCaught] at shorter
    omega
  · have stayed := catchUp_cons_of_not_lt lefts behind
    rw [leftCaught] at stayed
    by_cases ahead : right.id < here.id
    · have shorter := length_catchUp_cons_lt rights ahead
      rw [rightCaught] at shorter
      omega
    · have rested := catchUp_cons_of_not_lt rights ahead
      rw [rightCaught] at rested
      obtain ⟨rfl, rfl⟩ := List.cons.inj stayed
      obtain ⟨rfl, rfl⟩ := List.cons.inj rested
      exact absurd (Int64.le_antisymm (Int64.not_lt.mp ahead)
        (Int64.not_lt.mp behind)) different

/-- Let the cursors catch up in turn and look for a match after each turn. -/
def alternating : List Posting → List Posting → List Posting
  | [], _ => []
  | _ :: _, [] => []
  | left :: lefts, right :: rights =>
      match _ : catchUp right.id (left :: lefts) with
      | [] => []
      | here :: heres =>
          match _ : catchUp here.id (right :: rights) with
          | [] => []
          | there :: theres =>
              if here.id = there.id then
                here.combine there :: alternating heres theres
              else
                alternating (here :: heres) (there :: theres)
termination_by lefts rights => lefts.length + rights.length
decreasing_by
  · exact length_behind_add_lt ‹_› ‹_›
  · exact length_caught_add_lt ‹_› ‹_› ‹_›

/-! ## Catching up without a bound -/

/-- The first posting whose id is not below the target, and the run behind
it.  A run of the given size without such a posting is read past its end. -/
def advance (size : Nat) (target : Int64) :
    List Posting → Except Fault (Posting × List Posting)
  | [] => .error (.positionOutOfRange size size)
  | head :: tail =>
      if head.id < target then advance size target tail
      else .ok (head, tail)

theorem advance_eq_ok {size : Nat} {target : Int64}
    {run : List Posting} {head : Posting} {tail : List Posting}
    (advanced : advance size target run = .ok (head, tail)) :
    catchUp target run = head :: tail := by
  induction run with
  | nil => simp [advance] at advanced
  | cons first rest ih =>
      by_cases below : first.id < target
      · rw [advance, if_pos below] at advanced
        simpa [catchUp, below] using ih advanced
      · rw [advance, if_neg below] at advanced
        rw [catchUp_cons_of_not_lt rest below]
        cases advanced
        rfl

/-- Merge runs that are closed by a sentinel.  The merge ends when both
cursors rest on the reserved id. -/
def terminated (leftSize rightSize : Nat) :
    List Posting → List Posting → Except Fault (List Posting)
  | [], _ => .ok []
  | _ :: _, [] => .ok []
  | left :: lefts, right :: rights =>
      match _ : advance leftSize right.id (left :: lefts) with
      | .error fault => .error fault
      | .ok (here, heres) =>
          match _ : advance rightSize here.id (right :: rights) with
          | .error fault => .error fault
          | .ok (there, theres) =>
              if here.id = there.id then
                if here.id = sentinelId then
                  .ok []
                else
                  (terminated leftSize rightSize heres theres).map
                    (here.combine there :: ·)
              else
                terminated leftSize rightSize (here :: heres)
                  (there :: theres)
termination_by lefts rights => lefts.length + rights.length
decreasing_by
  · exact length_behind_add_lt (advance_eq_ok ‹_›) (advance_eq_ok ‹_›)
  · exact length_caught_add_lt (advance_eq_ok ‹_›) (advance_eq_ok ‹_›) ‹_›

end Merge

end Postings
