import Postings.Intersection.Skip
import Postings.Proofs.Intersection.Merge
import Postings.Proofs.PostingList.Window

/-!
# Skip pointers change no result

A cursor that follows pointers passes only ids below its target, because a
pointer is followed only to such an id and the ids before it are not larger.
So it arrives where a cursor without pointers arrives, and the scan emits
what the alternating merge emits.
-/

namespace Postings

namespace Skip

theorem isBelow_eq_true {list : PostingList} {target : Int64}
    {position : Nat} :
    isBelow list target position = true ↔
      ∃ id, list.ids[position]? = some id ∧ id < target := by
  simp [isBelow, Option.any_eq_true]

theorem each_lt_step {list : PostingList} {target : Int64} {position : Nat}
    (sorted : NonDecreasing list.ids position list.ids.size)
    (below : isBelow list target position = true) :
    Each (· < target) list.ids position (step list target position) := by
  have single : Each (· < target) list.ids position (position + 1) := by
    obtain ⟨id, present, short⟩ := isBelow_eq_true.mp below
    exact sorted.each_lt (lt_size_of_isBelow below) present short
  unfold step
  cases pointer : list.skip? position with
  | none => exact single
  | some next =>
      by_cases followed : position < next ∧ isBelow list target next = true
      · obtain ⟨id, present, short⟩ := isBelow_eq_true.mp followed.2
        have all := sorted.each_lt (lt_size_of_isBelow followed.2) present
          short
        simpa [followed] using all.mono (Nat.le_refl _) (Nat.le_succ next)
      · simpa [followed] using single

theorem step_le_size {list : PostingList} {target : Int64} {position : Nat}
    (below : isBelow list target position = true) :
    step list target position ≤ list.size := by
  have inside := lt_size_of_isBelow below
  unfold step
  split
  · split
    · rename_i followed
      exact Nat.le_of_lt (lt_size_of_isBelow followed.2)
    · exact inside
  · exact inside

/-! ## Where the cursor arrives -/

theorem not_isBelow_catchUp (list : PostingList) (target : Int64)
    (position : Nat) :
    ¬ isBelow list target (catchUp list target position) = true := by
  induction position using catchUp.induct list target with
  | case1 position below ih =>
      rw [catchUp, if_pos below]
      exact ih
  | case2 position reached =>
      rw [catchUp_eq_self reached]
      exact reached

theorem catchUp_le_size {list : PostingList} (target : Int64)
    {position : Nat} (inside : position ≤ list.size) :
    catchUp list target position ≤ list.size := by
  induction position using catchUp.induct list target with
  | case1 position below ih =>
      rw [catchUp, if_pos below]
      exact ih (step_le_size below)
  | case2 position reached =>
      rw [catchUp_eq_self reached]
      exact inside

theorem each_lt_catchUp {list : PostingList} (target : Int64)
    {position : Nat}
    (sorted : NonDecreasing list.ids position list.ids.size) :
    Each (· < target) list.ids position
      (catchUp list target position) := by
  induction position using catchUp.induct list target with
  | case1 position below ih =>
      rw [catchUp, if_pos below]
      have forward := Nat.le_of_lt (lt_step list target position)
      exact (each_lt_step sorted below).append
        (ih (sorted.mono forward (Nat.le_refl _)))
  | case2 position reached =>
      rw [catchUp_eq_self reached]
      exact .of_window_empty (Nat.le_refl position)

theorem catchUp_drop_eq {list : PostingList}
    (aligned : list.ids.size = list.scores.size) {target : Int64}
    {position next : Nat} (forward : position ≤ next)
    (passed : Each (· < target) list.ids position next) :
    Merge.catchUp target (list.toList.drop position) =
      Merge.catchUp target (list.toList.drop next) := by
  rw [drop_eq_window_append list.toList forward]
  apply List.dropWhile_append_of_pos
  intro posting member
  exact decide_eq_true (passed.of_mem aligned member)

theorem catchUp_drop_of_not_isBelow {list : PostingList}
    (aligned : list.ids.size = list.scores.size) {target : Int64}
    {position : Nat} (reached : ¬ isBelow list target position = true) :
    Merge.catchUp target (list.toList.drop position) =
      list.toList.drop position := by
  cases rest : list.toList.drop position with
  | nil => rfl
  | cons head tail =>
      have present : list.toList[position]? = some head := by
        rw [← List.head?_drop, rest, List.head?_cons]
      have notBelow : ¬ head.id < target := by
        intro short
        apply reached
        apply isBelow_eq_true.mpr
        refine ⟨head.id, ?_, short⟩
        rw [PostingList.getElem?_ids aligned, present]
        rfl
      rw [Merge.catchUp_cons_of_not_lt tail notBelow]

/-- A cursor with pointers arrives where one without them arrives. -/
theorem drop_catchUp {list : PostingList} (valid : list.Valid)
    (target : Int64) (position : Nat) :
    list.toList.drop (catchUp list target position) =
      Merge.catchUp target (list.toList.drop position) := by
  have passed := each_lt_catchUp target (valid.nonDecreasing position)
  have stopped := not_isBelow_catchUp list target position
  rw [catchUp_drop_eq valid.aligned (le_catchUp list target position) passed,
    catchUp_drop_of_not_isBelow valid.aligned stopped]

/-! ## The scan -/

theorem drop_eq_cons {list : PostingList} {position : Nat}
    {posting : Posting} (present : list.posting? position = some posting) :
    list.toList.drop position =
      posting :: list.toList.drop (position + 1) := by
  rw [← PostingList.getElem?_toList] at present
  obtain ⟨inside, equality⟩ := List.getElem?_eq_some_iff.mp present
  rw [List.drop_eq_getElem_cons inside, equality]

theorem drop_eq_nil {list : PostingList} {position : Nat}
    (absent : list.posting? position = none) :
    list.toList.drop position = [] := by
  rw [← PostingList.getElem?_toList, List.getElem?_eq_none_iff] at absent
  exact List.drop_of_length_le absent

theorem catchUp_cons_eq_drop {list : PostingList} (valid : list.Valid)
    {position : Nat} {posting : Posting} (target : Int64)
    (present : list.posting? position = some posting) :
    Merge.catchUp target (posting :: list.toList.drop (position + 1)) =
      list.toList.drop (catchUp list target position) := by
  rw [← drop_eq_cons present, drop_catchUp valid]

section Scan

variable {left right : PostingList} {leftPosition rightPosition : Nat}
  {start goal here there : Posting}

theorem scan_of_left_exhausted
    (rightStart : right.posting? rightPosition = some goal)
    (exhausted : left.posting? (catchUp left goal.id leftPosition) =
      none) :
    scan left right leftPosition rightPosition = [] := by
  rw [scan]
  split
  · split
    · rfl
    · simp_all
  · rfl

theorem scan_of_right_exhausted
    (rightStart : right.posting? rightPosition = some goal)
    (leftHere : left.posting? (catchUp left goal.id leftPosition) =
      some here)
    (exhausted : right.posting? (catchUp right here.id rightPosition) =
      none) :
    scan left right leftPosition rightPosition = [] := by
  rw [scan]
  split
  · split
    · rfl
    · split
      · rfl
      · simp_all
  · rfl

theorem scan_of_caught
    (leftStart : left.posting? leftPosition = some start)
    (rightStart : right.posting? rightPosition = some goal)
    (leftHere : left.posting? (catchUp left goal.id leftPosition) =
      some here)
    (rightThere : right.posting? (catchUp right here.id rightPosition) =
      some there) :
    scan left right leftPosition rightPosition =
      if here.id = there.id then
        here.combine there ::
          scan left right (catchUp left goal.id leftPosition + 1)
            (catchUp right here.id rightPosition + 1)
      else
        scan left right (catchUp left goal.id leftPosition)
          (catchUp right here.id rightPosition) := by
  rw [scan]
  split
  · split
    · simp_all
    · split
      · simp_all
      · simp_all
  · simp_all

end Scan

/-- The scan is the alternating merge of what is ahead of its cursors. -/
theorem scan_eq_alternating {left right : PostingList}
    (leftValid : left.Valid) (rightValid : right.Valid)
    (leftPosition rightPosition : Nat) :
    scan left right leftPosition rightPosition =
      Merge.alternating (left.toList.drop leftPosition)
        (right.toList.drop rightPosition) := by
  induction leftPosition, rightPosition using
    scan.induct left right with
  | case1 leftPosition rightPosition start goal leftStart rightStart
      exhausted =>
      have leftCaught := catchUp_cons_eq_drop leftValid goal.id leftStart
      rw [drop_eq_nil exhausted] at leftCaught
      rw [scan_of_left_exhausted rightStart exhausted,
        drop_eq_cons leftStart, drop_eq_cons rightStart,
        Merge.alternating_of_left_exhausted leftCaught]
  | case2 leftPosition rightPosition start goal leftStart rightStart here
      leftHere exhausted =>
      have leftCaught := catchUp_cons_eq_drop leftValid goal.id leftStart
      have rightCaught :=
        catchUp_cons_eq_drop rightValid here.id rightStart
      rw [drop_eq_cons leftHere] at leftCaught
      rw [drop_eq_nil exhausted] at rightCaught
      rw [scan_of_right_exhausted rightStart leftHere exhausted,
        drop_eq_cons leftStart, drop_eq_cons rightStart,
        Merge.alternating_of_right_exhausted leftCaught rightCaught]
  | case3 leftPosition rightPosition start goal leftStart rightStart here
      leftHere there rightThere same ih =>
      have leftCaught := catchUp_cons_eq_drop leftValid goal.id leftStart
      have rightCaught :=
        catchUp_cons_eq_drop rightValid here.id rightStart
      rw [drop_eq_cons leftHere] at leftCaught
      rw [drop_eq_cons rightThere] at rightCaught
      rw [scan_of_caught leftStart rightStart leftHere rightThere,
        if_pos same, ih, drop_eq_cons leftStart, drop_eq_cons rightStart,
        Merge.alternating_of_caught leftCaught rightCaught, if_pos same]
  | case4 leftPosition rightPosition start goal leftStart rightStart here
      leftHere there rightThere different ih =>
      have leftCaught := catchUp_cons_eq_drop leftValid goal.id leftStart
      have rightCaught :=
        catchUp_cons_eq_drop rightValid here.id rightStart
      rw [drop_eq_cons leftHere] at leftCaught ih
      rw [drop_eq_cons rightThere] at rightCaught ih
      rw [scan_of_caught leftStart rightStart leftHere rightThere,
        if_neg different, ih, drop_eq_cons leftStart,
        drop_eq_cons rightStart,
        Merge.alternating_of_caught leftCaught rightCaught,
        if_neg different]
  | case5 leftPosition rightPosition ended =>
      have scanEnded : scan left right leftPosition rightPosition = [] := by
        rw [scan]
        split
        · exact (ended _ _ ‹_› ‹_›).elim
        · rfl
      rw [scanEnded]
      cases leftStart : left.posting? leftPosition with
      | none => rw [drop_eq_nil leftStart, Merge.alternating]
      | some start =>
          cases rightStart : right.posting? rightPosition with
          | none =>
              rw [drop_eq_nil rightStart, Merge.alternating_eq_threeWay,
                Merge.threeWay_nil_right]
          | some goal => exact (ended start goal leftStart rightStart).elim

end Skip

end Postings
